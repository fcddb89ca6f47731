import Courier.Proofs.Server.Repeated

/-
  The files of a server from request to request.

  An upload that is answered with good news gives one key a
  content, a deletion takes one key away, and everything
  else leaves all files as they are.

  Key definitions include:
    * `Server.Keeps`
    * `Server.Processes`
    * `Server.setup`
    * `Server.beyondFiles`

  Key theorems include:
    * `Server.receive_keeps`
    * `Server.send_keeps`
    * `Server.deleteFile_of_some`
    * `Server.processes_process`
    * `Server.setup_handle`
-/

------------------------------------------------------------
-- Kept Files
------------------------------------------------------------

namespace Courier

namespace Server

/-
  The server keeps files, which are exactly those of the
  shelf, and temporary files can be made.
-/
structure Keeps
    (s : Server)
    (m : Shelf) : Prop where
  uploads : s.uploads.isPresent = true
  store :
    ∃ files,
      s.store = some files ∧
        files.IsFlat ∧
        files.temp.isPresent = true ∧
        files.shelf = m

variable {s : Server}
variable {m : Shelf}
variable {c : Command}

/- The shelf of a server is that of its files. -/
theorem Keeps.shelf
    (hKeeps : s.Keeps m) :
    s.shelf = m := by
  rcases hKeeps.store with ⟨files, hStore, -, -, hShelf⟩
  rw [Server.shelf, hStore]
  exact hShelf

/- A server that keeps files is ready for those with room. -/
theorem Keeps.isReadyFor
    (hKeeps : s.Keeps m)
    (hRoom :
      ∀ files ∈ s.store, ∀ u ∈ Upload.ofCommand? c,
        ∀ key ∈ Store.key? u.fileName u.domain,
          files.HasRoom key) :
    s.IsReadyFor c := by
  refine ⟨hKeeps.uploads, ?_, hRoom⟩
  rcases hKeeps.store with ⟨files, hStore, hFlat, -⟩
  rw [hStore]
  rintro other ⟨⟩
  exact hFlat

end Server

end Courier

------------------------------------------------------------
-- Uploads
------------------------------------------------------------

namespace Courier

namespace Server

variable {s : Server}
variable {m : Shelf}
variable {c : Command}
variable {r : Stream.Reader}

/- Taking an upload leaves the temporary copies alone. -/
theorem temp_accept
    (u : Upload)
    (files : Store)
    (count : Nat)
    (source : Except IoError Bytes) :
    (accept u files count source).2.temp = files.temp := by
  have hJudge (content : Bytes) :
      (judge u files content).2.temp = files.temp := by
    have hTemp :=
      files.temp_store (.whole content) u.fileName u.domain
    simp only [judge]
    split
    · split
      · next hStore =>
          rw [hStore] at hTemp
          exact hTemp
      · next hStore =>
          rw [hStore] at hTemp
          exact hTemp
    · rfl
  unfold accept
  split
  · rfl
  · split
    · exact hJudge _
    · rfl

/- After an upload temporary files can still be made. -/
theorem present_receive
    {files : Store}
    (hUploads : s.uploads.isPresent = true)
    (hStore : s.store = some files) :
    (s.receive c r).server.uploads.isPresent = true ∧
      ∃ files',
        (s.receive c r).server.store = some files' ∧
          files'.temp = files.temp := by
  unfold receive
  split
  · exact ⟨hUploads, files, hStore, rfl⟩
  · exact ⟨hUploads, files, hStore, rfl⟩
  · exact ⟨hUploads, files, hStore, rfl⟩
  · next u _ hFiles _ =>
      rw [hStore] at hFiles
      cases hFiles
      rcases TemporaryFiles.exists_create hUploads with
        ⟨n, uploads, hCreate, hPresent⟩
      simp only [keep, hCreate]
      refine ⟨hPresent, _, rfl, ?_⟩
      split
      · rfl
      · exact temp_accept u files _ _

/- No condition is left that an upload has not met. -/
theorem length_le_of_violation?
    (hNone : s.violation? c r = none) :
    c.dataLength.toNat ≤
      (r.arrival s.readTimeout).bytes.length := by
  rw [violation?, Option.map_eq_none_iff,
    List.find?_eq_none] at hNone
  have hCheck :=
    hNone
      (decide
        (c.dataLength.toNat ≤
          (r.arrival s.readTimeout).bytes.length),
        (r.arrival s.readTimeout).ending.failure)
      (by simp [uploadChecks])
  simpa using hCheck

/-
  An upload leaves all files as they are, unless it is
  answered with good news about one.
-/
theorem receive_keeps
    (hKeeps : s.Keeps m)
    (hRoom :
      ∀ files ∈ s.store, ∀ u ∈ Upload.ofCommand? c,
        ∀ key ∈ Store.key? u.fileName u.domain,
          files.HasRoom key) :
    ((s.receive c r).answer.status ≠ .fileOk ∧
        (s.receive c r).server.Keeps m) ∨
      ∃ name checksum key,
        FileEntity.decode? c.entity = some (name, checksum) ∧
          Store.key? name c.domain = some key ∧
          c.dataLength.toNat ≤
            (r.arrival s.readTimeout).bytes.length ∧
          (s.receive c r).answer =
            .fileOk (FileName.sanitize name) ∧
          (s.receive c r).server.Keeps
            (m.put key (s.announced c r)) := by
  have hReady := hKeeps.isReadyFor hRoom
  rcases settles_receive (r := r) hReady with
    ⟨hSettles, hFlat⟩
  rcases hKeeps.store with ⟨files, hStore, -, hTemp, hShelf⟩
  rcases
    present_receive (c := c) (r := r) hKeeps.uploads hStore
    with ⟨hUploads, files', hStore', hTemp'⟩
  have hKept (m' : Shelf)
      (hSame : (s.receive c r).server.shelf = m') :
      (s.receive c r).server.Keeps m' := by
    refine
      ⟨hUploads, files', hStore', hFlat files' hStore', ?_,
        ?_⟩
    · rw [hTemp']
      exact hTemp
    · rw [← hSame, Server.shelf, hStore']
  cases hViolation : s.violation? c r with
  | some f =>
      rcases hSettles.refused f hViolation with
        ⟨hStatus, -, hSame⟩
      rw [hKeeps.shelf] at hSame
      refine Or.inl ⟨?_, hKept m hSame⟩
      intro hOk
      rw [hOk] at hStatus
      cases hStatus
  | none =>
      rcases hSettles.taken hViolation with
        ⟨name, checksum, key, hEntity, hKey, hAnswer, hPut⟩
      rw [hKeeps.shelf] at hPut
      exact
        Or.inr
          ⟨name, checksum, key, hEntity, hKey,
            length_le_of_violation? hViolation, hAnswer,
            hKept _ hPut⟩

end Server

end Courier

------------------------------------------------------------
-- Downloads
------------------------------------------------------------

namespace Courier

namespace Server

variable {s : Server}
variable {m : Shelf}
variable {c : Command}

/- Other temporary copies make no difference. -/
theorem Keeps.of_temp
    {files : Store}
    {temp : TemporaryFiles}
    (hUploads : s.uploads.isPresent = true)
    (hFlat : files.IsFlat)
    (hShelf : files.shelf = m)
    (hTemp : temp.isPresent = true) :
    ({ s with store := some { files with temp := temp } }
      : Server).Keeps m :=
  ⟨hUploads, _, rfl, hFlat, hTemp, hShelf⟩

/- Sending a copy removes it and changes nothing else. -/
theorem server_sendCopy
    (s : Server)
    (files : Store)
    (d : Download)
    (w : Stream.Writer) :
    (s.sendCopy files d w).server =
      { s with
        store :=
          some { files with temp := files.temp.remove d.copy } }
    := by
  simp only [sendCopy]
  split
  · rfl
  · split
    · rw [Download.streamTo, Download.temp_streamThen]
      rfl
    · rfl

/- A request for a file leaves all files as they are. -/
theorem send_keeps
    (w : Stream.Writer)
    (hKeeps : s.Keeps m) :
    (s.send c w).server.Keeps m := by
  rcases hKeeps.store with
    ⟨files, hStore, hFlat, hTemp, hShelf⟩
  unfold send
  split
  · exact hKeeps
  · exact hKeeps
  · next other _ hOther =>
      rw [hStore] at hOther
      cases hOther
      have hTree :=
        files.tree_find (c.fileId.getD c.entity) c.domain
      have hPresent :=
        Store.present_find (c.fileId.getD c.entity) c.domain
          hTemp
      rcases hFind :
        files.find (c.fileId.getD c.entity) c.domain with
        ⟨found, files'⟩
      rw [hFind] at hTree hPresent
      have hFlat' : files'.IsFlat := by
        rw [Store.IsFlat, hTree]
        exact hFlat
      have hShelf' : files'.shelf = m := by
        rw [← hShelf]
        funext key
        rw [Store.shelf, Store.shelf, Store.content?,
          Store.content?, hTree]
      simp only [hFind]
      rcases found with e | (_ | d)
      · exact
          ⟨hKeeps.uploads, files', rfl, hFlat', hPresent,
            hShelf'⟩
      · exact
          ⟨hKeeps.uploads, files', rfl, hFlat', hPresent,
            hShelf'⟩
      · simp only [server_sendCopy]
        exact
          Keeps.of_temp hKeeps.uploads hFlat' hShelf' hPresent

/- The names of a key are short enough for the file system. -/
def FitsKey
    (key : FileKey) : Prop :=
  Tree.Fits key.1 ∧ Tree.Fits key.2

instance
    (key : FileKey) :
    Decidable (FitsKey key) := by
  unfold FitsKey
  infer_instance

/- A file without a key is not found. -/
theorem downloadResponse_of_none
    (hKeeps : s.Keeps m)
    (hHere : s.wrongServer? c = none)
    (hKey :
      Store.key? (c.fileId.getD c.entity) c.domain = none) :
    s.downloadResponse c =
      .only (noSuchFile (c.fileId.getD c.entity)) := by
  rcases hKeeps.store with ⟨files, hStore, -⟩
  simp only [downloadResponse, hHere, hStore, Store.find,
    hKey]

/- A file with a key is sent if it is on the shelf. -/
theorem downloadResponse_of_some
    {key : FileKey}
    (hKeeps : s.Keeps m)
    (hHere : s.wrongServer? c = none)
    (hKey :
      Store.key? (c.fileId.getD c.entity) c.domain = some key)
    (hFits : FitsKey key) :
    s.downloadResponse c =
      match m key with
      | none => .only (noSuchFile (c.fileId.getD c.entity))
      | some content =>
          { answer :=
              { Answer.fileOk key.2 with
                dataLength := UInt64.ofNat content.length }
            payload := content } := by
  rcases hKeeps.store with
    ⟨files, hStore, hFlat, hTemp, rfl⟩
  have hFind :=
    Store.find_key hFlat hTemp hKey hFits.1 hFits.2
  simp only [downloadResponse, hHere, hStore]
  cases hShelf : files.shelf key with
  | none =>
      rw [hShelf] at hFind
      rcases hFind with ⟨temp, hFind, -⟩
      simp only [hFind]
  | some content =>
      rw [hShelf] at hFind
      rcases hFind with ⟨copy, temp, hFind, hRead, -⟩
      simp only [hFind, hRead]

end Server

end Courier

------------------------------------------------------------
-- Deletions
------------------------------------------------------------

namespace Courier

namespace Server

variable {s : Server}
variable {m : Shelf}
variable {c : Command}

/- A command that deletes a file is carried out as one. -/
theorem process_of_delete
    (hHere : s.wrongServer? c = none)
    (hDelete : c.hasVerb Command.deleteVerb = true) :
    s.process c = s.deleteFile c := by
  simp only [Command.hasVerb, Bool.and_eq_true,
    beq_iff_eq] at hDelete
  have hStop : Command.deleteVerb ≠ Command.stopVerb := by
    decide
  have hHealth :
      Command.deleteVerb ≠ Command.healthVerb := by
    decide
  simp only [process, hHere, hDelete.1, if_true,
    processInternal, hDelete.2, hStop, hHealth, if_false]

/- A file without a key is not deleted. -/
theorem deleteFile_of_none
    (hKeeps : s.Keeps m)
    (hKey :
      Store.key? (c.fileId.getD c.entity) c.domain = none) :
    (s.deleteFile c).1 =
        noSuchFile (c.fileId.getD c.entity) ∧
      (s.deleteFile c).2.Keeps m := by
  rcases hKeeps.store with
    ⟨files, hStore, hFlat, hTemp, hShelf⟩
  simp only [deleteFile, hStore, Store.delete,
    Delete.ofCommand, hKey]
  exact
    ⟨trivial, hKeeps.uploads, files, rfl, hFlat, hTemp, hShelf⟩

/-
  A file with a key is deleted if it is on the shelf, and it
  is not there afterwards.
-/
theorem deleteFile_of_some
    {key : FileKey}
    (hKeeps : s.Keeps m)
    (hKey :
      Store.key? (c.fileId.getD c.entity) c.domain = some key)
    (hFits : FitsKey key) :
    (s.deleteFile c).1 =
        (if (m key).isSome then
          .fileOk (c.fileId.getD c.entity)
        else
          noSuchFile (c.fileId.getD c.entity)) ∧
      (s.deleteFile c).2.Keeps (m.erase key) := by
  rcases hKeeps.store with
    ⟨files, hStore, hFlat, hTemp, rfl⟩
  rcases
    Store.delete_key hFlat hKey hFits.1 hFits.2 with
    ⟨files', hDelete, hFlat', hShelf', hTemp'⟩
  have hKept :
      ({ s with store := some files' } : Server).Keeps
        (files.shelf.erase key) := by
    refine
      ⟨hKeeps.uploads, files', rfl, hFlat', ?_, hShelf'⟩
    rw [hTemp']
    exact hTemp
  simp only [deleteFile, hStore, Delete.ofCommand, hDelete]
  cases hSome : (files.shelf key).isSome with
  | true => simpa [hSome] using hKept
  | false => simpa [hSome] using hKept

end Server

end Courier

------------------------------------------------------------
-- Connections
------------------------------------------------------------

namespace Courier

namespace Server

variable {s : Server}
variable {c : Command}
variable {input : Stream.Reader}
variable {w : Stream.Writer}

/-
  A server as it was set up, without what commands change:
  its files and whether it was told to stop.
-/
def setup
    (s : Server) : Server :=
  { s with
    store := none
    signals := .empty
    uploads := .empty }

/- What a setup tells of its server. -/
theorem same_of_setup
    {s' : Server}
    (hSetup : s'.setup = s.setup) :
    s'.name = s.name ∧
      s'.maxMessageSize = s.maxMessageSize := by
  have hName := congrArg Server.name hSetup
  have hSize := congrArg Server.maxMessageSize hSetup
  exact ⟨hName, hSize⟩

/- A server without its files. -/
def beyondFiles
    (s : Server) : Server :=
  { s with
    store := none
    uploads := .empty }

/- Files do not belong to the setup. -/
theorem setup_of_beyondFiles
    {s' : Server}
    (hSame : s'.beyondFiles = s.beyondFiles) :
    s'.setup = s.setup := by
  have hSetup := congrArg setup hSame
  exact hSetup

/- An upload changes nothing but files. -/
theorem beyondFiles_receive
    (s : Server)
    (c : Command)
    (r : Stream.Reader) :
    (s.receive c r).server.beyondFiles = s.beyondFiles := by
  simp only [receive]
  split
  · rfl
  · rfl
  · rfl
  · simp only [keep]
    split
    · rfl
    · rfl

/- A request for a file changes nothing but files. -/
theorem beyondFiles_send
    (s : Server)
    (c : Command)
    (w : Stream.Writer) :
    (s.send c w).server.beyondFiles = s.beyondFiles := by
  simp only [send]
  split
  · rfl
  · rfl
  · split
    · rw [server_sendCopy]
      rfl
    · rfl
    · rfl

/- A deletion changes nothing but files. -/
theorem beyondFiles_deleteFile
    (s : Server)
    (c : Command) :
    (s.deleteFile c).2.beyondFiles = s.beyondFiles := by
  simp only [deleteFile]
  split
  · rfl
  · split <;> rfl

/- An upload leaves the setup alone. -/
theorem setup_receive
    (s : Server)
    (c : Command)
    (r : Stream.Reader) :
    (s.receive c r).server.setup = s.setup :=
  setup_of_beyondFiles (s.beyondFiles_receive c r)

/- A request for a file leaves the setup alone. -/
theorem setup_send
    (s : Server)
    (c : Command)
    (w : Stream.Writer) :
    (s.send c w).server.setup = s.setup :=
  setup_of_beyondFiles (s.beyondFiles_send c w)

/-
  What a command without a stream does to a server: it stops
  the server, it deletes a file, or it changes nothing.
-/
inductive Processes
    (s : Server)
    (c : Command) : Answer → Server → Prop where
| stopped
    (hHere : s.wrongServer? c = none)
    (hStop : c.hasVerb Command.stopVerb = true) :
    Processes s c .stop s.trigger
| deleted
    (hHere : s.wrongServer? c = none)
    (hDelete : c.hasVerb Command.deleteVerb = true) :
    Processes s c (s.deleteFile c).1 (s.deleteFile c).2
| kept
    {a : Answer}
    (hNot :
      s.wrongServer? c = none →
        c.hasVerb Command.stopVerb = false ∧
          c.hasVerb Command.deleteVerb = false) :
    Processes s c a s

/- Every command without a stream does one of these. -/
theorem processes_process
    (s : Server)
    (c : Command) :
    s.Processes c (s.process c).1 (s.process c).2 := by
  cases hHere : s.wrongServer? c with
  | some refusal =>
      simp only [process, hHere]
      exact .kept (by simp [hHere])
  | none =>
  cases hInternal : c.isInternal with
  | false =>
      simp only [process, hHere, hInternal,
        Bool.false_eq_true, if_false]
      exact .kept (by simp [Command.hasVerb, hInternal])
  | true =>
      have hVerb (verb : String) :
          c.hasVerb verb = (c.name == verb) := by
        rw [Command.hasVerb, hInternal, Bool.true_and]
      simp only [process, hHere, hInternal, if_true,
        processInternal]
      split
      · next hStop =>
          exact .stopped hHere (by simp [hVerb, hStop])
      next hStop =>
      split
      · next hHealth =>
          refine .kept fun _ => ?_
          rw [hVerb, hVerb, hHealth]
          decide
      split
      · next hDelete =>
          exact .deleted hHere (by simp [hVerb, hDelete])
      next hDelete =>
      split
      · exact .kept (by simp [hVerb, hStop, hDelete])
      · exact .kept (by simp [hVerb, hStop, hDelete])

/- Other commands leave the setup alone. -/
theorem setup_process
    (s : Server)
    (c : Command) :
    (s.process c).2.setup = s.setup := by
  have hProcesses := s.processes_process c
  generalize (s.process c).1 = a, (s.process c).2 = s'
    at hProcesses ⊢
  cases hProcesses with
  | stopped _ _ => rfl
  | deleted _ _ =>
      exact setup_of_beyondFiles (s.beyondFiles_deleteFile c)
  | kept _ => rfl

/- A connection without a command leaves no trace. -/
theorem server_handle_of_none
    (hRead : (s.request input).outcome = none) :
    (s.handle input w).server = s := by
  unfold handle
  rw [← request]
  simp only [hRead]

/- The server after a message that it could not read. -/
theorem server_handle_of_error
    {e : ProtocolError}
    (hRead : (s.request input).outcome = some (.error e)) :
    (s.handle input w).server = s := by
  unfold handle
  rw [← request]
  simp only [hRead]
  split <;> rfl

/- The server after a command. -/
theorem server_handle_of_ok
    (hRead : (s.request input).outcome = some (.ok c)) :
    (s.handle input w).server =
      if c.hasVerb Command.uploadVerb then
        (s.receive c (s.request input).reader).server
      else if c.hasVerb Command.downloadVerb then
        (s.send c w).server
      else
        (s.process c).2 := by
  unfold handle
  rw [← request]
  simp only [hRead, carryOut]
  split
  · rfl
  split
  · rfl
  split <;> rfl

/- A connection leaves the setup alone. -/
theorem setup_handle
    (s : Server)
    (input : Stream.Reader)
    (w : Stream.Writer) :
    (s.handle input w).server.setup = s.setup := by
  cases hRead : (s.request input).outcome with
  | none => rw [server_handle_of_none hRead]
  | some m =>
      cases m with
      | error e => rw [server_handle_of_error hRead]
      | ok c =>
          rw [server_handle_of_ok hRead]
          split
          · exact setup_receive s c _
          split
          · exact setup_send s c w
          · exact setup_process s c

end Server

end Courier
