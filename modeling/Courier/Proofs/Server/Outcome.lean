import Courier.Proofs.Server.Answering
import Courier.Proofs.Server.Keeping
import Courier.Proofs.Storage.Change
import Courier.Server.Run

/-
  What comes of a request, and what it leaves behind.

  A request that is refused, over either way, changes no
  stored file and does not stop the server.  A stored file
  changes only if the answer is good news about a file, and
  then it is the file of the command.  No temporary file is
  left in any case.

  Key definitions include:
    * `Server.Outcome`
    * `Server.outcome?`
    * `Command.changedKey?`
    * `Server.Steps`
    * `Server.Heeds`

  Key theorems include:
    * `Server.steps_step`
    * `Server.heeds_receive`
    * `Server.heeds_send`
    * `Server.heeds_process`
    * `Server.changes_of_outcome`
-/

------------------------------------------------------------
-- Outcomes
------------------------------------------------------------

namespace Courier

/- The key of the file that a command is to change. -/
def Command.changedKey?
    (c : Command) : Option FileKey :=
  if c.hasVerb uploadVerb then
    (FileEntity.decode? c.entity).bind fun (name, _) =>
      Store.key? name c.domain
  else if c.hasVerb deleteVerb then
    Store.key? (c.fileId.getD c.entity) c.domain
  else
    none

namespace Server

/-
  What comes of a request: silence because there was no
  complete command, a bare status over HTTP, or an answer.
-/
inductive Outcome where
| dropped : Outcome
| refused : (status : Nat) → Outcome
| answered : Answer → Outcome

/- The request was not carried out. -/
def Outcome.isRefusal : Outcome → Bool
  | .dropped => true
  | .refused _ => true
  | .answered a => a.status.isFailure

/-
  What comes of a message on a connection.  The command to
  stop has an answer as well, which nobody is told.
-/
def messageOutcome
    (s : Server)
    (rest : Stream.Reader)
    (m : Except ProtocolError Command) : Outcome :=
  match s.respond? rest m, m with
  | _, .error e =>
      if e.isEnd then .dropped
      else .answered (.error .malformed e.message)
  | some x, .ok _ => .answered x.answer
  | none, .ok c => .answered (s.process c).1

/- What comes of a connection. -/
def connectionOutcome
    (s : Server)
    (input : Stream.Reader) : Outcome :=
  let request := s.request input
  match request.outcome with
  | none => .dropped
  | some m => s.messageOutcome request.reader m

/- What comes of a request at an endpoint. -/
def webOutcome
    (s : Server)
    (t : Tunnel)
    (q : Tunnel.Request) : Outcome :=
  let response := (s.serve t q).1
  match response.answer with
  | none => .refused response.status
  | some a => .answered a

/- What comes of an event, if it is a request. -/
def outcome?
    (s : Server)
    (t : Option Tunnel) : Event → Option Outcome
  | .connection input _ => some (s.connectionOutcome input)
  | .request q => t.map fun t => s.webOutcome t q
  | .trigger => none

/- The command that arrives with an event. -/
def command?
    (s : Server)
    (t : Option Tunnel) : Event → Option Command
  | .connection input _ =>
      (s.request input).outcome.bind Except.toOption
  | .request q =>
      t.bind fun t =>
        (t.body q).toOption.bind fun text =>
          (Command.ofJson text).toOption
  | .trigger => none

end Server

end Courier

------------------------------------------------------------
-- Files of a Server
------------------------------------------------------------

namespace Courier

namespace Server

/- The tree of the stored files. -/
def tree
    (s : Server) : Tree :=
  match s.store with
  | none => []
  | some files => files.tree

/- The content of the stored file at a path. -/
def file?
    (s : Server)
    (path : Path) : Option Bytes :=
  s.tree.file? path

/- The temporary copies of stored files. -/
def copies
    (s : Server) : List (Nat × Bytes) :=
  match s.store with
  | none => []
  | some files => files.temp.files

/-
  A server is left as a command and its answer allow.  A
  file has changed only if the answer is good news about a
  file, and then it is the file of the command.  There are
  no new temporary files, and only the answer to the command
  to stop stops the server.
-/
structure Heeds
    (s : Server)
    (c : Command)
    (a : Answer)
    (s' : Server) : Prop where
  files :
    ∀ path,
      s'.file? path ≠ s.file? path →
        a.status = .fileOk ∧
          ∃ key,
            c.changedKey? = some key ∧
              path = Store.pathOf key
  uploads : s'.uploads.files ⊆ s.uploads.files
  copies : s'.copies ⊆ s.copies
  isStopping :
    a.status ≠ .stop → s'.isStopping = s.isStopping

variable {s : Server}
variable {c : Command}
variable {a : Answer}

/- Nothing happens if the server stays as it is. -/
theorem heeds_self
    (s : Server)
    (c : Command)
    (a : Answer) :
    s.Heeds c a s := by
  constructor
  · intro path hNe
    exact absurd rfl hNe
  · exact List.Subset.refl _
  · exact List.Subset.refl _
  · intro _
    rfl

/- A refusal leaves all files and the stop signal alone. -/
theorem Heeds.of_isFailure
    {s' : Server}
    (hHeeds : s.Heeds c a s')
    (hFailure : a.status.isFailure = true) :
    (∀ path, s'.file? path = s.file? path) ∧
      s'.isStopping = s.isStopping := by
  constructor
  · intro path
    by_cases hSame : s'.file? path = s.file? path
    · exact hSame
    · have hStatus := (hHeeds.files path hSame).1
      rw [hStatus] at hFailure
      cases hFailure
  · apply hHeeds.isStopping
    intro hStatus
    rw [hStatus] at hFailure
    cases hFailure

end Server

end Courier

------------------------------------------------------------
-- Uploads
------------------------------------------------------------

namespace Courier

namespace Server

variable {s : Server}
variable {c : Command}

/-
  The bytes of an upload change the file of its key if the
  answer is good news, and no file otherwise.
-/
theorem file?_of_judge
    {u : Upload}
    {files files' : Store}
    {content : Bytes}
    {a : Answer}
    {path : Path}
    (hJudge : judge u files content = (a, files'))
    (hNe : files'.tree.file? path ≠ files.tree.file? path) :
    a.status = .fileOk ∧
      ∃ key,
        Store.key? u.fileName u.domain = some key ∧
          path = Store.pathOf key := by
  simp only [judge] at hJudge
  split at hJudge
  · split at hJudge
    · next hStore =>
        cases hJudge
        rcases Store.file?_of_store hStore with
          ⟨key, content, hKey, -, hFiles⟩
        refine ⟨rfl, key, hKey, ?_⟩
        by_cases hHere : path = Store.pathOf key
        · exact hHere
        · rw [hFiles path, if_neg hHere] at hNe
          exact absurd rfl hNe
    · next hStore =>
        cases hJudge
        rw [Store.file?_of_store_error hStore] at hNe
        exact absurd rfl hNe
  · cases hJudge
    exact absurd rfl hNe

/- So do those that were collected. -/
theorem file?_of_accept
    {u : Upload}
    {files files' : Store}
    {count : Nat}
    {source : Except IoError Bytes}
    {a : Answer}
    {path : Path}
    (hAccept : accept u files count source = (a, files'))
    (hNe : files'.tree.file? path ≠ files.tree.file? path) :
    a.status = .fileOk ∧
      ∃ key,
        Store.key? u.fileName u.domain = some key ∧
          path = Store.pathOf key := by
  unfold accept at hAccept
  split at hAccept
  · cases hAccept
    exact absurd rfl hNe
  · split at hAccept
    · exact file?_of_judge hAccept hNe
    · cases hAccept
      exact absurd rfl hNe

/- What an upload leaves behind. -/
theorem heeds_receive
    (r : Stream.Reader)
    (hUpload : c.hasVerb Command.uploadVerb = true) :
    s.Heeds c (s.receive c r).answer
      (s.receive c r).server := by
  simp only [receive]
  split
  · exact heeds_self s c _
  · exact heeds_self s c _
  · exact heeds_self s c _
  · next files u _ hStore hAnnounced =>
      rcases of_ofCommand? hAnnounced with
        ⟨hDomain, hEntity⟩
      have hKey :
          c.changedKey? = Store.key? u.fileName u.domain := by
        rw [Command.changedKey?, if_pos hUpload, hEntity,
          hDomain]
        rfl
      simp only [keep]
      split
      · exact heeds_self s c _
      · next n uploads hCreate =>
          constructor
          · intro path hNe
            simp only [Server.file?, tree, hStore] at hNe
            rw [hKey]
            -- Only bytes that all arrived can be stored.
            split at hNe
            · exact absurd rfl hNe
            · exact file?_of_accept rfl hNe
          · intro file hMem
            exact
              TemporaryFiles.mem_files_of_remove hCreate hMem
          · intro file hMem
            simp only [Server.copies, hStore] at hMem ⊢
            split at hMem
            · exact hMem
            · rw [temp_accept] at hMem
              exact hMem
          · intro _
            rfl

end Server

end Courier

------------------------------------------------------------
-- Downloads
------------------------------------------------------------

namespace Courier

namespace Server

variable {s : Server}

/-
  A request for a file makes a temporary copy at most, and
  removes it, whatever is said of the search.
-/
theorem exists_send
    {c : Command}
    {files : Store}
    (w : Stream.Writer)
    (hHere : s.wrongServer? c = none)
    (hStore : s.store = some files) :
    ∃ files',
      (s.send c w).server = { s with store := some files' } ∧
        files'.tree = files.tree ∧
        files'.temp.files ⊆ files.temp.files := by
  have hTree :=
    files.tree_find (c.fileId.getD c.entity) c.domain
  simp only [send, hHere, hStore]
  rcases hFind :
    files.find (c.fileId.getD c.entity) c.domain with
    ⟨found, files'⟩
  rw [hFind] at hTree
  rcases found with e | (_ | d)
  · refine ⟨files', rfl, hTree, ?_⟩
    intro file hMem
    exact Store.mem_files_of_find hFind hMem (by simp)
  · refine ⟨files', rfl, hTree, ?_⟩
    intro file hMem
    exact Store.mem_files_of_find hFind hMem (by simp)
  · refine ⟨_, server_sendCopy _ _ _ _, hTree, ?_⟩
    intro file hMem
    rcases TemporaryFiles.mem_remove_iff.mp hMem with
      ⟨hOld, hNe⟩
    apply Store.mem_files_of_find hFind hOld
    rintro other ⟨⟩
    exact hNe

/- What a request for a file leaves behind. -/
theorem heeds_send
    (s : Server)
    (c : Command)
    (a : Answer)
    (w : Stream.Writer) :
    s.Heeds c a (s.send c w).server := by
  cases hHere : s.wrongServer? c with
  | some refusal =>
      simp only [send, hHere]
      exact heeds_self s c a
  | none =>
      cases hStore : s.store with
      | none =>
          simp only [send, hHere, hStore]
          exact heeds_self s c a
      | some files =>
          rcases exists_send w hHere hStore with
            ⟨files', hServer, hTree, hTemp⟩
          rw [hServer]
          constructor
          · intro path hNe
            simp only [Server.file?, tree, hStore, hTree]
              at hNe
            exact absurd rfl hNe
          · exact List.Subset.refl _
          · simp only [Server.copies, hStore]
            exact hTemp
          · intro _
            rfl

end Server

end Courier

------------------------------------------------------------
-- Other Commands
------------------------------------------------------------

namespace Courier

namespace Server

variable {s : Server}
variable {c : Command}

/- What a deletion leaves behind. -/
theorem heeds_deleteFile
    (hDelete : c.hasVerb Command.deleteVerb = true) :
    s.Heeds c (s.deleteFile c).1 (s.deleteFile c).2 := by
  have hKey :
      c.changedKey? =
        Store.key? (c.fileId.getD c.entity) c.domain := by
    have hOther :=
      hasVerb_other Command.uploadVerb hDelete (by decide)
    simp [Command.changedKey?, hOther, hDelete]
  simp only [deleteFile]
  split
  · exact heeds_self s c _
  · next files hStore =>
      simp only [Delete.ofCommand]
      rcases hDeleted :
        files.delete (c.fileId.getD c.entity) c.domain with
        ⟨deleted, files'⟩
      have hSame : { s with store := some files } = s := by
        rw [← hStore]
      rcases Store.delete_cases hDeleted with
        ⟨hNot, rfl⟩ | ⟨rfl, key, hFound, -, rfl⟩
      · simp only [hSame]
        rcases deleted with e | (_ | _)
        · exact heeds_self s c _
        · exact heeds_self s c _
        · exact absurd rfl hNot
      · constructor
        · intro path hNe
          refine ⟨rfl, key, hKey.trans hFound, ?_⟩
          by_cases hHere : path = Store.pathOf key
          · exact hHere
          · simp only [Server.file?, tree, hStore] at hNe
            rw [Tree.file?_erase path
                (Store.pathOf_ne_nil key),
              if_neg hHere] at hNe
            exact absurd rfl hNe
        · exact List.Subset.refl _
        · simp only [Server.copies, hStore]
          exact List.Subset.refl _
        · intro _
          rfl

/- What a command without a stream leaves behind. -/
theorem heeds_process
    (s : Server)
    (c : Command) :
    s.Heeds c (s.process c).1 (s.process c).2 := by
  have hProcesses := s.processes_process c
  generalize (s.process c).1 = a, (s.process c).2 = s'
    at hProcesses ⊢
  cases hProcesses with
  | stopped _ _ =>
      constructor
      · intro path hNe
        exact absurd rfl hNe
      · exact List.Subset.refl _
      · exact List.Subset.refl _
      · intro hNot
        exact absurd rfl hNot
  | deleted _ hDelete => exact heeds_deleteFile hDelete
  | kept _ => exact heeds_self s c a

end Server

end Courier

------------------------------------------------------------
-- Requests
------------------------------------------------------------

namespace Courier

namespace Server

variable {s : Server}
variable {t : Option Tunnel}

/-
  What comes of an event, and what becomes of the server.
  Without a command nothing happens.  Files come and go on
  connections only, and all other commands are carried out
  alike on a connection and at an endpoint.
-/
inductive Steps
    (t : Option Tunnel)
    (s : Server) :
    Event → Option Outcome → Server → Prop where
| trigger :
    Steps t s .trigger none s.trigger
| idle
    {e : Event}
    {o : Option Outcome}
    (hNone : s.command? t e = none)
    (hOther : e ≠ .trigger) :
    Steps t s e o s
| upload
    {input : Stream.Reader}
    {w : Stream.Writer}
    {c : Command}
    (hRead : (s.request input).outcome = some (.ok c))
    (hUpload : c.hasVerb Command.uploadVerb = true) :
    Steps t s (.connection input w)
      (some
        (.answered
          (s.receive c (s.request input).reader).answer))
      (s.receive c (s.request input).reader).server
| download
    {input : Stream.Reader}
    {w : Stream.Writer}
    {c : Command}
    (hRead : (s.request input).outcome = some (.ok c))
    (hUpload : c.hasVerb Command.uploadVerb = false)
    (hDownload : c.hasVerb Command.downloadVerb = true) :
    Steps t s (.connection input w)
      (some (.answered (s.downloadResponse c).answer))
      (s.send c w).server
| command
    {e : Event}
    {c : Command}
    (hCommand : s.command? t e = some c)
    (hNoFile :
      ∀ input w,
        e = .connection input w →
          c.hasVerb Command.uploadVerb = false ∧
            c.hasVerb Command.downloadVerb = false) :
    Steps t s e (some (.answered (s.process c).1))
      (s.process c).2

/- The command that is read is that of the connection. -/
theorem command?_of_read
    {input : Stream.Reader}
    {c : Command}
    (w : Stream.Writer)
    (hRead : (s.request input).outcome = some (.ok c)) :
    s.command? t (.connection input w) = some c := by
  rw [command?, hRead]
  rfl

/- These are all the things that an event can do. -/
theorem steps_step
    (s : Server)
    (t : Option Tunnel)
    (e : Event) :
    s.Steps t e (s.outcome? t e) (s.step t e) := by
  cases e with
  | trigger => exact .trigger
  | connection input w =>
      rw [step]
      cases hRead : (s.request input).outcome with
      | none =>
          rw [server_handle_of_none hRead]
          exact
            .idle (by rw [command?, hRead]; rfl) (by simp)
      | some m =>
      cases m with
      | error e =>
          rw [server_handle_of_error hRead]
          exact
            .idle (by rw [command?, hRead]; rfl) (by simp)
      | ok c =>
          rw [server_handle_of_ok hRead]
          simp only [outcome?, connectionOutcome, hRead,
            messageOutcome, respond?]
          cases hUpload : c.hasVerb Command.uploadVerb with
          | true => exact .upload hRead hUpload
          | false =>
          cases hDownload : c.hasVerb Command.downloadVerb with
          | true => exact .download hRead hUpload hDownload
          | false =>
              have hCommand := command?_of_read (t := t) w hRead
              -- The answer is the same, whether told or not.
              cases c.isStop with
              | true =>
                  exact
                    .command hCommand fun _ _ _ =>
                      ⟨hUpload, hDownload⟩
              | false =>
                  exact
                    .command hCommand fun _ _ _ =>
                      ⟨hUpload, hDownload⟩
  | request q =>
      cases t with
      | none => exact .idle rfl (by simp)
      | some t =>
      simp only [step, outcome?, Option.map_some, webOutcome,
        serve]
      cases hBody : t.body q with
      | error refusal =>
          exact
            .idle (by simp [command?, hBody, Except.toOption])
              (by simp)
      | ok text =>
      cases hText : Command.ofJson text with
      | error e =>
          simp only [hText]
          exact
            .idle
              (by simp [command?, hBody, hText, Except.toOption])
              (by simp)
      | ok c =>
          simp only [hText]
          exact
            .command
              (by simp [command?, hBody, hText, Except.toOption])
              (by simp)

/-
  A request leaves the server as it was, or as its command
  and the answer to it allow.
-/
theorem heeds_step
    {e : Event}
    {o : Outcome}
    (hOutcome : s.outcome? t e = some o) :
    s.step t e = s ∨
      ∃ c a,
        s.command? t e = some c ∧
          o = .answered a ∧
          s.Heeds c a (s.step t e) := by
  have hSteps := s.steps_step t e
  rw [hOutcome] at hSteps
  generalize s.step t e = s' at hSteps ⊢
  cases hSteps with
  | idle _ _ => exact Or.inl rfl
  | upload hRead hUpload =>
      exact
        Or.inr
          ⟨_, _, command?_of_read _ hRead, rfl,
            heeds_receive _ hUpload⟩
  | download hRead _ _ =>
      exact
        Or.inr
          ⟨_, _, command?_of_read _ hRead, rfl,
            heeds_send s _ _ _⟩
  | command hCommand _ =>
      exact Or.inr ⟨_, _, hCommand, rfl, heeds_process s _⟩

/-
  A request that is refused, or that brings no complete
  command, changes no stored file and leaves the stop signal
  alone.  No request leaves a temporary file.  A stored file
  changes only if the request is answered with good news
  about a file, and it is the file of the request then.
-/
theorem changes_of_outcome
    {e : Event}
    {o : Outcome}
    (hOutcome : s.outcome? t e = some o) :
    (o.isRefusal = true →
        (∀ path, (s.step t e).file? path = s.file? path) ∧
          (s.step t e).isStopping = s.isStopping) ∧
      (s.step t e).uploads.files ⊆ s.uploads.files ∧
      (s.step t e).copies ⊆ s.copies ∧
      ∀ path,
        (s.step t e).file? path ≠ s.file? path →
          ∃ c key a,
            s.command? t e = some c ∧
              c.changedKey? = some key ∧
              path = Store.pathOf key ∧
              o = .answered a ∧
              a.status = .fileOk := by
  rcases heeds_step hOutcome with
    hSame | ⟨c, a, hCommand, rfl, hHeeds⟩
  · rw [hSame]
    refine
      ⟨fun _ => ⟨fun path => rfl, rfl⟩,
        List.Subset.refl _, List.Subset.refl _, ?_⟩
    intro path hNe
    exact absurd rfl hNe
  · refine
      ⟨hHeeds.of_isFailure, hHeeds.uploads, hHeeds.copies, ?_⟩
    intro path hNe
    rcases hHeeds.files path hNe with
      ⟨hStatus, key, hKey, hPath⟩
    exact ⟨c, key, a, hCommand, hKey, hPath, rfl, hStatus⟩

/- A server that keeps one file. -/
def stocked : Server :=
  { fresh with
    store :=
      some
        { Store.empty with
          tree :=
            [(["default"], .directory),
              (["default", "a_b"], .file [99])] } }

/- An upload of a letter that is not the announced one. -/
def mistakenInput : Stream.Reader :=
  letterInput.take 4 ++ [.data [98]]

/- A file stays when its upload has the wrong checksum. -/
theorem changes_of_outcome_mistaken :
    ∃ o,
      stocked.outcome? none
          (.connection mistakenInput .endless) = some o ∧
        o.isRefusal = true ∧
        (stocked.step none
            (.connection mistakenInput .endless)).file?
          ["default", "a_b"] = some [99] ∧
        (stocked.step none
            (.connection mistakenInput .endless)).isStopping =
          false ∧
        (stocked.step none
            (.connection mistakenInput .endless)).uploads.files
          ⊆ [] := by
  have hOutcome :
      stocked.outcome? none
          (.connection mistakenInput .endless) =
        some (stocked.connectionOutcome mistakenInput) :=
    rfl
  have hRefusal :
      (stocked.connectionOutcome mistakenInput).isRefusal =
        true := by
    decide +kernel
  rcases changes_of_outcome hOutcome with
    ⟨hRefused, hUploads, -, -⟩
  rcases hRefused hRefusal with ⟨hFiles, hStopping⟩
  refine ⟨_, hOutcome, hRefusal, ?_, hStopping, hUploads⟩
  rw [hFiles]
  rfl

end Server

end Courier
