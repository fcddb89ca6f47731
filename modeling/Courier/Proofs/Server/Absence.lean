import Courier.Proofs.Server.Confinement
import Courier.Proofs.Storage.Absence

/-
  What a server says of files that are not there.

  Nothing that happens to a server leads to a store that
  requests would not lead to.  A command that asks for an
  absent file, or has it deleted, is answered with the news
  that there is no such file, unless a name on the way to it
  is too long for the file system.

  Key definitions include:
    * `Server.AsksFor`
    * `Server.AnswersWith`

  Key theorems include:
    * `Server.isReached_run`
    * `Server.answersWith_of_absent`
    * `Server.answer_to_absent`
-/

------------------------------------------------------------
-- Stores of Servers
------------------------------------------------------------

namespace Courier

namespace Server

/- The store of the server, if it has one, was reached. -/
def IsReached
    (s : Server) : Prop :=
  ∀ files, s.store = some files → files.IsReached

variable {s : Server}
variable {c : Command}

/- Taking an upload is a request at most. -/
theorem isReached_accept
    {files : Store}
    (hReached : files.IsReached)
    (u : Upload)
    (count : Nat)
    (source : Except IoError Bytes) :
    (accept u files count source).2.IsReached := by
  have hJudge (content : Bytes) :
      (judge u files content).2.IsReached := by
    have hStored :=
      hReached.request
        (.store (.whole content) u.fileName u.domain)
    rw [Store.afterRequest] at hStored
    simp only [judge]
    split
    · split <;> next hStore =>
        rw [hStore] at hStored
        exact hStored
    · exact hReached
  unfold accept
  split
  · exact hReached
  · split
    · exact hJudge _
    · exact hReached

/- An upload leads to a store that was reached. -/
theorem isReached_receive
    (hReached : s.IsReached)
    (c : Command)
    (r : Stream.Reader) :
    (s.receive c r).server.IsReached := by
  unfold receive
  split
  · exact hReached
  · exact hReached
  · exact hReached
  · next files u _ hFiles _ =>
      unfold keep
      split
      · exact hReached
      · rintro files' ⟨⟩
        split
        · exact hReached files hFiles
        · exact isReached_accept (hReached files hFiles) u _ _

/- So does a request for a file. -/
theorem isReached_send
    (hReached : s.IsReached)
    (c : Command)
    (w : Stream.Writer) :
    (s.send c w).server.IsReached := by
  simp only [send]
  split
  · exact hReached
  · exact hReached
  · next files _ hFiles =>
      have hFound :=
        (hReached files hFiles).request
          (.find (c.fileId.getD c.entity) c.domain)
      split
      · next d _ =>
          rw [server_sendCopy]
          rintro files' ⟨⟩
          exact hFound.drop d.copy
      · rintro files' ⟨⟩
        exact hFound
      · rintro files' ⟨⟩
        exact hFound

/- So does a command without a stream. -/
theorem isReached_process
    (hReached : s.IsReached)
    (c : Command) :
    (s.process c).2.IsReached := by
  have hDelete : (s.deleteFile c).2.IsReached := by
    simp only [deleteFile]
    split
    · exact hReached
    · next files hFiles =>
        have hDeleted :=
          (hReached files hFiles).request
            (.delete (c.fileId.getD c.entity) c.domain)
        split <;>
          · rintro files' ⟨⟩
            exact hDeleted
  have hProcesses := s.processes_process c
  generalize (s.process c).1 = a, (s.process c).2 = s'
    at hProcesses ⊢
  cases hProcesses with
  | stopped _ _ => exact hReached
  | deleted _ _ => exact hDelete
  | kept _ => exact hReached

/- So does every event. -/
theorem isReached_step
    (hReached : s.IsReached)
    (t : Option Tunnel)
    (e : Event) :
    (s.step t e).IsReached := by
  have hSteps := s.steps_step t e
  generalize s.outcome? t e = o, s.step t e = s' at hSteps ⊢
  cases hSteps with
  | trigger => exact hReached
  | idle _ _ => exact hReached
  | upload _ _ => exact isReached_receive hReached _ _
  | download _ _ _ => exact isReached_send hReached _ _
  | command _ _ => exact isReached_process hReached _

/- Whatever happens to a server, its store was reached. -/
theorem isReached_run
    (hReached : s.IsReached)
    (t : Option Tunnel)
    (events : List Event) :
    (s.run t events).IsReached := by
  induction events generalizing s with
  | nil => exact hReached
  | cons e events ih =>
      exact ih (isReached_step hReached t e)

end Server

end Courier

------------------------------------------------------------
-- Answers
------------------------------------------------------------

namespace Courier

namespace Server

/-
  The command is for this server, and it asks for a file of
  the store or has it deleted.
-/
structure AsksFor
    (s : Server)
    (files : Store)
    (fileId : String)
    (domain : Option String)
    (c : Command) : Prop where
  store : s.store = some files
  here : s.wrongServer? c = none
  verb :
    c.hasVerb Command.downloadVerb = true ∨
      c.hasVerb Command.deleteVerb = true
  fileId : c.fileId.getD c.entity = fileId
  domain : c.domain = domain

/-
  Whoever sends the command to the server is sent the answer
  and nothing else, or as much of it as is taken.
-/
def AnswersWith
    (s : Server)
    (c : Command)
    (a : Answer) : Prop :=
  ∀ input w,
    (s.request input).outcome = some (.ok c) →
      (s.handle input w).writer = (s.reply w a).writer

/- What is said if no file was found or deleted, and why. -/
def absentAnswer
    (fileId : String) : Except StorageError Unit → Answer
  | .ok () => noSuchFile fileId
  | .error e => storageFailure e.message

variable {s : Server}
variable {files : Store}
variable {fileId : String}
variable {domain : Option String}
variable {c : Command}

/- A file that is not found is not sent. -/
theorem writer_send_of_absent
    {found : Except StorageError Unit}
    (hAsks : s.AsksFor files fileId domain c)
    (hFind :
      (files.find fileId domain).1 = found.map fun _ => none)
    (w : Stream.Writer) :
    (s.send c w).writer =
      (s.reply w (absentAnswer fileId found)).writer := by
  simp only [send, hAsks.here, hAsks.store, hAsks.fileId,
    hAsks.domain]
  cases hResult : files.find fileId domain with
  | mk result files' =>
      rw [hResult] at hFind
      cases found with
      | ok u =>
          cases hFind
          rfl
      | error e =>
          cases hFind
          rfl

/- A file that is not found is not deleted. -/
theorem process_of_absent
    {found : Except StorageError Unit}
    (hAsks : s.AsksFor files fileId domain c)
    (hVerb : c.hasVerb Command.deleteVerb = true)
    (hDelete :
      (files.delete fileId domain).1 =
        found.map fun _ => false) :
    (s.process c).1 = absentAnswer fileId found := by
  simp only [process_of_delete hAsks.here hVerb, deleteFile,
    hAsks.store, Delete.ofCommand, hAsks.fileId, hAsks.domain]
  cases hResult : files.delete fileId domain with
  | mk result files' =>
      rw [hResult] at hDelete
      cases found with
      | ok u =>
          cases hDelete
          rfl
      | error e =>
          cases hDelete
          rfl

/-
  What becomes of the search in the store is what the server
  says of the file.
-/
theorem answersWith_of_absent
    (found : Except StorageError Unit)
    (hAsks : s.AsksFor files fileId domain c)
    (hFind :
      (files.find fileId domain).1 = found.map fun _ => none)
    (hDelete :
      (files.delete fileId domain).1 =
        found.map fun _ => false) :
    s.AnswersWith c (absentAnswer fileId found) := by
  intro input w hRead
  unfold handle
  rw [← request]
  simp only [hRead, carryOut]
  rcases hAsks.verb with hVerb | hVerb
  · have hUpload :=
      hasVerb_other Command.uploadVerb hVerb
        (by decide)
    simp only [hUpload, hVerb, Bool.false_eq_true, if_false,
      if_true]
    exact writer_send_of_absent hAsks hFind w
  · have hUpload :=
      hasVerb_other Command.uploadVerb hVerb
        (by decide)
    have hDownload :=
      hasVerb_other Command.downloadVerb hVerb
        (by decide)
    have hStop : c.isStop = false :=
      hasVerb_other Command.stopVerb hVerb
        (by decide)
    have hTimeout :=
      congrArg Server.readTimeout (s.setup_process c)
    change (s.process c).2.readTimeout = s.readTimeout
      at hTimeout
    simp only [hUpload, hDownload, hStop, Bool.false_eq_true,
      if_false, Exchange.answer, reply,
      process_of_absent hAsks hVerb hDelete, hTimeout]

/-
  What becomes of a request for an absent file, whatever was
  stored and deleted before.  If the names on the way to the
  file are short enough, it is found missing, in the store
  and by whoever asks the server.  Otherwise the name is
  reported as too long.
-/
theorem answer_to_absent
    {files : Store}
    {fileId : String}
    {domain : Option String}
    (hReached : files.IsReached)
    (hLacks : files.Lacks fileId domain) :
    (files.CanLookUp fileId domain →
        (files.find fileId domain).1 = .ok none ∧
          (files.delete fileId domain).1 = .ok false ∧
          ∀ (s : Server) (c : Command),
            s.AsksFor files fileId domain c →
              s.AnswersWith c (noSuchFile fileId)) ∧
      (¬ files.CanLookUp fileId domain →
        (files.find fileId domain).1 =
            .error (.io .nameTooLong) ∧
          (files.delete fileId domain).1 =
            .error (.io .nameTooLong) ∧
          ∀ (s : Server) (c : Command),
            s.AsksFor files fileId domain c →
              s.AnswersWith c
                (storageFailure
                  (StorageError.io .nameTooLong).message))
    := by
  constructor
  · intro hNames
    rcases Store.find_of_lacks hReached hLacks hNames with
      ⟨hFind, hDelete⟩
    refine ⟨hFind, hDelete, ?_⟩
    intro s c hAsks
    exact
      answersWith_of_absent (.ok ()) hAsks hFind hDelete
  · intro hNames
    rcases Store.find_of_not_canLookUp hReached hNames with
      ⟨hFind, hDelete⟩
    refine ⟨hFind, hDelete, ?_⟩
    intro s c hAsks
    exact
      answersWith_of_absent (.error (.io .nameTooLong)) hAsks
        hFind hDelete

/- A store whose only file was deleted. -/
def emptied : Store :=
  Store.empty.afterAll
    [.store (.whole [97]) "report" (some "acme"),
      .delete "report" (some "acme")]

/- A client that has a file deleted once more. -/
theorem answer_to_absent_emptied :
    emptied.IsReached ∧
      emptied.Lacks "report" (some "acme") ∧
      emptied.CanLookUp "report" (some "acme") ∧
      (emptied.find "report" (some "acme")).1 = .ok none ∧
      (emptied.delete "report" (some "acme")).1 = .ok false ∧
      ({ fresh with store := some emptied }
          : Server).AnswersWith
        (Delete.toCommand ⟨"report", some "acme"⟩)
        (noSuchFile "report") := by
  have hReached : emptied.IsReached :=
    (Store.IsReached.empty 0).afterAll _
  have hKey :
      Store.key? "report" (some "acme") =
        some ("acme", "report") := by
    decide +kernel
  have hLacks : emptied.Lacks "report" (some "acme") := by
    intro key hSome
    rw [hKey] at hSome
    cases hSome
    decide +kernel
  have hNames : emptied.CanLookUp "report" (some "acme") := by
    intro key hSome
    rw [hKey] at hSome
    cases hSome
    decide +kernel
  have hAsks :
      ({ fresh with store := some emptied }
          : Server).AsksFor emptied "report" (some "acme")
        (Delete.toCommand ⟨"report", some "acme"⟩) :=
    ⟨rfl, rfl, Or.inr rfl, rfl, rfl⟩
  rcases (answer_to_absent hReached hLacks).1 hNames with
    ⟨hFind, hDelete, hAnswers⟩
  exact
    ⟨hReached, hLacks, hNames, hFind, hDelete,
      hAnswers _ _ hAsks⟩

/- A name of as many letters as given. -/
def longName
    (n : Nat) : String :=
  String.ofList (List.replicate n 'x')

/- Such a name has as many letters. -/
theorem length_longName
    (n : Nat) :
    (longName n).length = n := by
  rw [longName, String.length_ofList, List.length_replicate]

/- If it has more than two, it stays as it is. -/
theorem isComponent_longName
    {n : Nat}
    (hLong : 2 < n) :
    Store.IsComponent (longName n) := by
  have hNe (other : String) (hShort : other.length ≤ 2) :
      longName n ≠ other := by
    intro hSame
    rw [← hSame, length_longName] at hShort
    omega
  refine ⟨?_, hNe "" ?_, hNe "." ?_, hNe ".." ?_⟩
  · intro c hMem
    rw [longName, String.toList_ofList] at hMem
    rw [List.eq_of_mem_replicate hMem]
    rfl
  · decide
  · decide
  · decide

/- So it is the name of a directory for that domain. -/
theorem key?_longName
    {n : Nat}
    (hLong : 2 < n) :
    Store.key? "f" (some (longName n)) =
      some (longName n, "f") := by
  have hComponent := isComponent_longName hLong
  have hDomain :
      Store.domainComponent? (some (longName n)) =
        some (longName n) := by
    unfold Store.domainComponent?
    split
    · next hNone => cases hNone
    · next hEmpty =>
        exact absurd (Option.some.inj hEmpty)
          hComponent.ne_empty
    · next hSame =>
        rw [← Option.some.inj hSame]
        exact (Store.component?_eq_self_iff _).mpr hComponent
  have hName : Store.component? "f" = some "f" := by
    decide
  rw [Store.key?, hName, hDomain]

/-
  A domain whose name is longer than a directory's can be
  has no files, but looking for one fails.
-/
theorem not_forall_found_missing :
    ¬ ∀ (files : Store) (fileId : String)
        (domain : Option String),
      files.IsReached →
        files.Lacks fileId domain →
        (files.find fileId domain).1 = .ok none ∧
          (files.delete fileId domain).1 = .ok false := by
  intro hAll
  have hKey := key?_longName (n := 256) (by decide)
  have hReached : Store.empty.IsReached :=
    Store.IsReached.empty 0
  have hLacks :
      Store.empty.Lacks "f" (some (longName 256)) := by
    intro key hSome
    rfl
  have hLong :
      ¬ Store.empty.CanLookUp "f" (some (longName 256)) := by
    intro hNames
    have hLength := Tree.length_le_of_fits (hNames _ hKey).1
    rw [length_longName] at hLength
    exact absurd hLength (by decide)
  have hFound :=
    (hAll Store.empty "f" (some (longName 256)) hReached
      hLacks).1
  rw [(Store.find_of_not_canLookUp hReached hLong).1]
    at hFound
  cases hFound

end Server

end Courier
