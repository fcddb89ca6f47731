import Courier.Proofs.Server.Outcome
import Courier.Proofs.Storage.Confinement

/-
  Which paths a server touches, whatever it is asked for.

  A command has the store do one errand at most, and the
  tree changes by the accesses of that errand only.  So a
  server touches confined paths only, from its first event
  to its last, and hands out nothing but files at such
  paths.

  Key definitions include:
    * `Server.errand?`
    * `Server.accesses`
    * `Server.trace`
    * `Server.handedOut`

  Key theorems include:
    * `Server.tree_step`
    * `Server.exists_read_of_handedOut`
    * `Server.trace_isConfined`
-/

------------------------------------------------------------
-- Errands
------------------------------------------------------------

namespace Courier

namespace Server

/-
  What the store is asked for on account of an upload: to
  keep its bytes, if they are all there and as announced.
-/
def uploadErrand?
    (s : Server)
    (c : Command)
    (r : Stream.Reader) : Option Store.Request :=
  match Upload.ofCommand? c, s.uploads.create with
  | some u, .ok _ =>
      let copied := s.collect c.dataLength.toNat r
      let content := copied.writer.written
      if copied.outcome.toBool &&
          sameChecksum (Md5.hex content) u.checksum then
        some (.store (.whole content) u.fileName u.domain)
      else
        none
  | _, _ => none

/- What the store is asked for on account of a deletion. -/
def deleteErrand?
    (c : Command) : Option Store.Request :=
  if c.hasVerb Command.deleteVerb then
    some (.delete (c.fileId.getD c.entity) c.domain)
  else
    none

/- What the store is asked for on account of a command. -/
def commandErrand?
    (s : Server)
    (rest : Stream.Reader)
    (c : Command) : Option Store.Request :=
  if (s.wrongServer? c).isSome then none
  else if c.hasVerb Command.uploadVerb then
    s.uploadErrand? c rest
  else if c.hasVerb Command.downloadVerb then
    some (.find (c.fileId.getD c.entity) c.domain)
  else
    deleteErrand? c

/-
  What the store is asked for in an event.  Files do not
  travel over HTTP, so that only a deletion gets there.
-/
def errand?
    (s : Server)
    (t : Option Tunnel)
    (e : Event) : Option Store.Request :=
  (s.command? t e).bind fun c =>
    match e with
    | .connection input _ =>
        s.commandErrand? (s.request input).reader c
    | .request _ =>
        if (s.wrongServer? c).isSome then none
        else deleteErrand? c
    | .trigger => none

/- The accesses to stored files in an event, in their order. -/
def accesses
    (s : Server)
    (t : Option Tunnel)
    (e : Event) : List Access :=
  match s.store, s.errand? t e with
  | some files, some q => files.accesses q
  | _, _ => []

/- The accesses to stored files in all events. -/
def trace
    (t : Option Tunnel)
    (s : Server) : List Event → List Access
  | [] => []
  | e :: events => s.accesses t e ++ trace t (s.step t e) events

/- The content of a file that is sent to a client. -/
def handedOut
    (s : Server) : Event → Bytes
  | .connection input _ =>
      let request := s.request input
      let response :=
        request.outcome.bind (s.respond? request.reader)
      (response.map Response.payload).getD []
  | .request _ => []
  | .trigger => []

end Server

end Courier

------------------------------------------------------------
-- Changes of the Tree
------------------------------------------------------------

namespace Courier

namespace Server

/- The tree after the store was asked for something. -/
def treeAfter
    (s : Server)
    (q : Option Store.Request) : Tree :=
  match s.store, q with
  | some files, some q => (files.afterRequest q).tree
  | _, _ => s.tree

variable {s : Server}
variable {c : Command}

/- Without an errand the tree stays. -/
theorem treeAfter_none
    (s : Server) :
    s.treeAfter none = s.tree := by
  unfold treeAfter
  split
  · next hNone =>
      cases hNone
  · rfl

/- Without a store there is no tree. -/
theorem treeAfter_of_store
    (hStore : s.store = none)
    (q : Option Store.Request) :
    s.treeAfter q = s.tree := by
  unfold treeAfter
  rw [hStore]

/- An upload has its errand done and nothing else. -/
theorem tree_receive
    (r : Stream.Reader)
    (hHere : s.wrongServer? c = none) :
    (s.receive c r).server.tree =
      s.treeAfter (s.uploadErrand? c r) := by
  cases hStore : s.store with
  | none =>
      rw [treeAfter_of_store hStore]
      simp only [receive, hHere, hStore]
      rfl
  | some files =>
  cases hUpload : Upload.ofCommand? c with
  | none =>
      simp only [receive, uploadErrand?, hHere, hStore, hUpload]
      rw [treeAfter_none]
      rfl
  | some u =>
  simp only [receive, uploadErrand?, hHere, hStore, hUpload,
    keep]
  cases hCreate : s.uploads.create with
  | error e => exact (treeAfter_none s).symm
  | ok made =>
  rcases made with ⟨n, uploads⟩
  have hRead :=
    TemporaryFiles.read_put_create hCreate
      (s.collect c.dataLength.toNat r).writer.written
  have hKept : s.tree = files.tree := by
    simp only [tree, hStore]
  simp only [hRead]
  cases hCopy : (s.collect c.dataLength.toNat r).outcome with
  | error fault =>
      simp only [Except.toBool, Bool.false_and,
        Bool.false_eq_true, if_false, treeAfter_none]
      exact hKept.symm
  | ok count =>
      simp only [Except.toBool, Bool.true_and,
        accept_of_length u files (length_collect hCopy)]
      by_cases hSum :
          sameChecksum
            (Md5.hex
              (s.collect c.dataLength.toNat r).writer.written)
            u.checksum
      · simp only [judge, hSum, if_true, treeAfter, hStore,
          Store.afterRequest]
        split <;> next hStored => simp only [hStored, tree]
      · simp only [judge, hSum, Bool.false_eq_true, if_false,
          treeAfter_none]
        exact hKept.symm

/- A request for a file does not change the tree. -/
theorem tree_send
    (w : Stream.Writer)
    (hHere : s.wrongServer? c = none) :
    (s.send c w).server.tree =
      s.treeAfter
        (some (.find (c.fileId.getD c.entity) c.domain)) := by
  cases hStore : s.store with
  | none =>
      rw [treeAfter_of_store hStore]
      simp only [send, hHere, hStore]
      rfl
  | some files =>
      rcases exists_send w hHere hStore with
        ⟨files', hServer, hTree, -⟩
      simp only [hServer, tree, treeAfter, hStore,
        Store.afterRequest, hTree]
      exact (files.tree_find _ _).symm

/- A deletion has its errand done and nothing else. -/
theorem tree_deleteFile
    (s : Server)
    (c : Command) :
    (s.deleteFile c).2.tree =
      s.treeAfter
        (some (.delete (c.fileId.getD c.entity) c.domain)) := by
  cases hStore : s.store with
  | none =>
      rw [treeAfter_of_store hStore]
      simp only [deleteFile, hStore]
  | some files =>
      simp only [deleteFile, hStore, Delete.ofCommand,
        treeAfter, Store.afterRequest]
      split <;> rfl

/- A command without a stream has its errand done. -/
theorem tree_process
    (hHere : s.wrongServer? c = none) :
    (s.process c).2.tree = s.treeAfter (deleteErrand? c) := by
  unfold deleteErrand?
  have hProcesses := s.processes_process c
  generalize (s.process c).1 = a, (s.process c).2 = s'
    at hProcesses ⊢
  cases hProcesses with
  | stopped _ hStop =>
      rw [hasVerb_other Command.deleteVerb hStop (by decide)]
      exact (treeAfter_none s).symm
  | deleted _ hDelete =>
      rw [if_pos hDelete]
      exact tree_deleteFile s c
  | kept hNot =>
      rw [(hNot hHere).2]
      exact (treeAfter_none s).symm

/- A command for another server has nothing done. -/
theorem server_of_wrongServer?
    {refusal : Answer}
    (hWrong : s.wrongServer? c = some refusal) :
    (∀ r, (s.receive c r).server = s) ∧
      (∀ w, (s.send c w).server = s) ∧
      (s.process c).2 = s := by
  refine ⟨?_, ?_, ?_⟩
  · intro r
    simp only [receive, hWrong]
    rfl
  · intro w
    simp only [send, hWrong]
    rfl
  · simp only [process, hWrong]

/- An upload on a connection has its errand done. -/
theorem tree_upload
    (rest : Stream.Reader)
    (hUpload : c.hasVerb Command.uploadVerb = true) :
    (s.receive c rest).server.tree =
      s.treeAfter (s.commandErrand? rest c) := by
  unfold commandErrand?
  cases hHere : s.wrongServer? c with
  | some refusal =>
      rw [(server_of_wrongServer? hHere).1]
      exact (treeAfter_none s).symm
  | none =>
      simp only [hUpload, Option.isSome_none,
        Bool.false_eq_true, if_false, if_true]
      exact tree_receive rest hHere

/- A request for a file has its errand done. -/
theorem tree_download
    (rest : Stream.Reader)
    (w : Stream.Writer)
    (hUpload : c.hasVerb Command.uploadVerb = false)
    (hDownload : c.hasVerb Command.downloadVerb = true) :
    (s.send c w).server.tree =
      s.treeAfter (s.commandErrand? rest c) := by
  unfold commandErrand?
  cases hHere : s.wrongServer? c with
  | some refusal =>
      rw [(server_of_wrongServer? hHere).2.1]
      exact (treeAfter_none s).symm
  | none =>
      simp only [hUpload, hDownload, Option.isSome_none,
        Bool.false_eq_true, if_false, if_true]
      exact tree_send w hHere

/- So has any other command, however it arrived. -/
theorem tree_command
    {t : Option Tunnel}
    {e : Event}
    (hCommand : s.command? t e = some c)
    (hNoFile :
      ∀ input w,
        e = .connection input w →
          c.hasVerb Command.uploadVerb = false ∧
            c.hasVerb Command.downloadVerb = false) :
    (s.process c).2.tree = s.treeAfter (s.errand? t e) := by
  have hErrand :
      s.errand? t e =
        if (s.wrongServer? c).isSome then none
        else deleteErrand? c := by
    rw [errand?, hCommand, Option.bind_some]
    cases e with
    | connection input w =>
        rcases hNoFile input w rfl with ⟨hUpload, hDownload⟩
        simp only [commandErrand?, hUpload, hDownload,
          Bool.false_eq_true, if_false]
    | request q => rfl
    | trigger => cases hCommand
  rw [hErrand]
  cases hHere : s.wrongServer? c with
  | some refusal =>
      rw [(server_of_wrongServer? hHere).2.2]
      exact (treeAfter_none s).symm
  | none => exact tree_process hHere

/- The tree changes by the accesses of an event only. -/
theorem tree_step
    (s : Server)
    (t : Option Tunnel)
    (e : Event) :
    (s.step t e).tree =
      (s.accesses t e).foldl Access.after s.tree := by
  have hAccesses :
      (s.accesses t e).foldl Access.after s.tree =
        s.treeAfter (s.errand? t e) := by
    unfold accesses treeAfter
    cases hStore : s.store with
    | none => rfl
    | some files =>
        cases s.errand? t e with
        | none => rfl
        | some q =>
            simp only [tree, hStore]
            exact (files.tree_afterRequest q).symm
  rw [hAccesses]
  have hSteps := s.steps_step t e
  generalize s.outcome? t e = o, s.step t e = s' at hSteps ⊢
  cases hSteps with
  | trigger => exact (treeAfter_none s).symm
  | idle hNone _ =>
      rw [errand?, hNone]
      exact (treeAfter_none s).symm
  | upload hRead hUpload =>
      rw [errand?, command?_of_read _ hRead]
      exact tree_upload _ hUpload
  | download hRead hUpload hDownload =>
      rw [errand?, command?_of_read _ hRead]
      exact tree_download _ _ hUpload hDownload
  | command hCommand hNoFile =>
      exact tree_command hCommand hNoFile

end Server

end Courier

------------------------------------------------------------
-- Files That Are Handed Out
------------------------------------------------------------

namespace Courier

namespace Server

variable {s : Server}
variable {c : Command}

/- Only a request for a file has bytes sent back. -/
theorem payload_of_respond?
    {rest : Stream.Reader}
    {m : Except ProtocolError Command}
    {x : Response}
    (hRespond : s.respond? rest m = some x)
    (hSome : x.payload ≠ []) :
    ∃ c,
      m = .ok c ∧
        c.hasVerb Command.uploadVerb = false ∧
        c.hasVerb Command.downloadVerb = true ∧
        x = s.downloadResponse c := by
  cases m with
  | error e =>
      cases hRespond
      exact absurd rfl hSome
  | ok c =>
      simp only [respond?] at hRespond
      split at hRespond
      · cases hRespond
        exact absurd rfl hSome
      · next hUpload =>
          split at hRespond
          · next hDownload =>
              cases hRespond
              refine ⟨c, rfl, ?_, hDownload, rfl⟩
              exact Bool.not_eq_true _ ▸ hUpload
          · split at hRespond
            · cases hRespond
            · cases hRespond
              exact absurd rfl hSome

/- What is sent back is the content of the file of the key. -/
theorem exists_read_of_payload
    (hSome : (s.downloadResponse c).payload ≠ []) :
    s.wrongServer? c = none ∧
      ∃ files path,
        s.store = some files ∧
          .read path ∈
            files.accesses
              (.find (c.fileId.getD c.entity) c.domain) ∧
          files.tree.file? path =
            some (s.downloadResponse c).payload := by
  unfold downloadResponse at hSome ⊢
  split at hSome
  · exact absurd rfl hSome
  · exact absurd rfl hSome
  · next files hHere hStore =>
      refine ⟨hHere, files, ?_⟩
      rcases hFind :
        files.find (c.fileId.getD c.entity) c.domain with
        ⟨found, files'⟩
      simp only [hFind] at hSome ⊢
      rcases found with e | (_ | d)
      · exact absurd rfl hSome
      · exact absurd rfl hSome
      · rcases Store.read_of_find hFind with
          ⟨key, content, hKey, hPresent, hFile, hRead⟩
        simp only [hRead] at hSome ⊢
        refine ⟨Store.pathOf key, hStore, ?_, hFile⟩
        simp only [Store.accesses, hKey, hPresent, if_true]
        exact List.mem_singleton.mpr rfl

/-
  The bytes that are handed out in an event are those of a
  stored file, at a path that is read in that event.
-/
theorem exists_read_of_handedOut
    {t : Option Tunnel}
    {e : Event}
    (hSome : s.handedOut e ≠ []) :
    ∃ path,
      .read path ∈ s.accesses t e ∧
        s.file? path = some (s.handedOut e) := by
  cases e with
  | request q => exact absurd rfl hSome
  | trigger => exact absurd rfl hSome
  | connection input w =>
      simp only [handedOut] at hSome ⊢
      cases hRead : (s.request input).outcome with
      | none =>
          rw [hRead] at hSome
          exact absurd rfl hSome
      | some m =>
          simp only [hRead, Option.bind_some] at hSome ⊢
          cases hRespond :
            s.respond? (s.request input).reader m with
          | none =>
              rw [hRespond] at hSome
              exact absurd rfl hSome
          | some x =>
              rw [hRespond] at hSome
              simp only [Option.map_some, Option.getD_some]
                at hSome ⊢
              rcases payload_of_respond? hRespond hSome with
                ⟨c, rfl, hUpload, hDownload, rfl⟩
              rcases exists_read_of_payload hSome with
                ⟨hHere, files, path, hStore, hAccess, hFile⟩
              have hErrand :
                  s.errand? t (.connection input w) =
                    some
                      (.find (c.fileId.getD c.entity)
                        c.domain) := by
                simp only [errand?, command?, hRead,
                  Option.bind_some, Except.toOption,
                  commandErrand?, hHere, hUpload, hDownload,
                  Option.isSome_none, Bool.false_eq_true,
                  if_false, if_true]
              refine ⟨path, ?_, ?_⟩
              · simp only [accesses, hStore, hErrand]
                exact hAccess
              · simp only [Server.file?, tree, hStore]
                exact hFile

end Server

end Courier

------------------------------------------------------------
-- Runs
------------------------------------------------------------

namespace Courier

namespace Server

variable {t : Option Tunnel}
variable {s : Server}

/- Every path that is touched in an event is confined. -/
theorem isConfined_of_step
    {e : Event}
    {a : Access}
    {path : Path}
    (hAccess : a ∈ s.accesses t e)
    (hPath : path ∈ a.paths) :
    Store.IsConfined path := by
  unfold accesses at hAccess
  split at hAccess
  · exact Store.isConfined_of_accesses hAccess hPath
  · cases hAccess

/- Every path that is touched in a run is confined. -/
theorem isConfined_of_trace
    {events : List Event}
    {a : Access}
    {path : Path}
    (hAccess : a ∈ s.trace t events)
    (hPath : path ∈ a.paths) :
    Store.IsConfined path := by
  induction events generalizing s with
  | nil => cases hAccess
  | cons e events ih =>
      rcases List.mem_append.mp hAccess with hFirst | hRest
      · exact isConfined_of_step hFirst hPath
      · exact ih hRest

/- The tree changes by the accesses of a run only. -/
theorem tree_run
    (t : Option Tunnel)
    (s : Server)
    (events : List Event) :
    (s.run t events).tree =
      (s.trace t events).foldl Access.after s.tree := by
  induction events generalizing s with
  | nil => rfl
  | cons e events ih =>
      calc
        (s.run t (e :: events)).tree
        _ = ((s.step t e).run t events).tree := rfl
        _ = (trace t (s.step t e) events).foldl Access.after
              (s.step t e).tree :=
          ih (s.step t e)
        _ = (trace t (s.step t e) events).foldl Access.after
              ((s.accesses t e).foldl Access.after s.tree) := by
          rw [tree_step]
        _ = (s.trace t (e :: events)).foldl Access.after
              s.tree :=
          List.foldl_append.symm

/- The accesses of an event are among those of its run. -/
theorem mem_trace
    {before after : List Event}
    {e : Event}
    {a : Access}
    (hAccess : a ∈ (s.run t before).accesses t e) :
    a ∈ s.trace t (before ++ e :: after) := by
  induction before generalizing s with
  | nil => exact List.mem_append_left _ hAccess
  | cons first before ih =>
      exact List.mem_append_right _ (ih hAccess)

/-
  Whatever a server is sent, from its first event to its
  last, it touches confined paths only, whose texts do not
  lead out of the root.  So nothing changes at any other
  path, and each file that is handed out was read at a
  confined path.
-/
theorem trace_isConfined
    (t : Option Tunnel)
    (s : Server)
    (events : List Event) :
    (∀ a ∈ s.trace t events,
        ∀ path ∈ a.paths,
          Store.IsConfined path ∧
            ∀ root,
              Tree.resolve root (Tree.pathText path) =
                root ++ path) ∧
      (s.run t events).tree =
        (s.trace t events).foldl Access.after s.tree ∧
      (∀ path,
        ¬Store.IsConfined path →
          (s.run t events).tree.node? path =
            s.tree.node? path) ∧
      ∀ before e after,
        events = before ++ e :: after →
          (s.run t before).handedOut e ≠ [] →
            ∃ path,
              .read path ∈ s.trace t events ∧
                Store.IsConfined path ∧
                (s.run t before).file? path =
                  some ((s.run t before).handedOut e) := by
  refine ⟨?_, tree_run t s events, ?_, ?_⟩
  · intro a hAccess path hPath
    have hConfined := isConfined_of_trace hAccess hPath
    exact ⟨hConfined, Store.resolve_pathText hConfined⟩
  · intro path hNot
    rw [tree_run]
    apply Access.node?_foldl_after
    intro a hAccess hPath
    exact hNot (isConfined_of_trace hAccess hPath)
  · rintro before e after rfl hSome
    rcases exists_read_of_handedOut (t := t) hSome with
      ⟨path, hRead, hFile⟩
    have hMem :
        .read path ∈ s.trace t (before ++ e :: after) :=
      mem_trace hRead
    refine ⟨path, hMem, ?_, hFile⟩
    exact
      isConfined_of_trace hMem (List.mem_singleton.mpr rfl)

end Server

end Courier
