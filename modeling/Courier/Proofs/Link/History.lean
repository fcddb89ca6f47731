import Courier.Proofs.Link.Step
import Courier.Proofs.Storage.Shelf

/-
  What downloads obtain after any number of calls.

  A download obtains the bytes of the latest upload for its
  key, unless a deletion came after it.  Calls that fail or
  are about another key make no difference.

  Key definitions include:
    * `Link.IsLatest`

  Key theorems include:
    * `Link.run_mirrors`
    * `Link.isLatest_iff`
    * `Link.isLatest_filter`
    * `Link.download_obtains`
-/

------------------------------------------------------------
-- Runs
------------------------------------------------------------

namespace Courier

namespace Link

/-
  Wherever a run is cut, the calls before have left the link
  in step, and the next call is within its bounds.
-/
theorem run_mirrors
    {l : Link}
    {m : Shelf}
    {ids : List String}
    {calls : List FileCall}
    {before after : List Entry}
    {e : Entry}
    (hMirrors : l.Mirrors m ids)
    (hOrderly : l.IsOrderly ids calls)
    (hRun : (l.run calls).1 = before ++ e :: after) :
    ∃ (l' : Link) (ids' : List String) (call : FileCall),
      l'.Mirrors (m.run (before.filterMap Entry.operation?))
          ids' ∧
        l'.Admits ids' call ∧
        e = (l'.step call).1 := by
  induction calls generalizing l m ids before with
  | nil =>
      have hNone : before ++ e :: after = [] := hRun.symm
      simp at hNone
  | cons call calls ih =>
      rcases hOrderly with ⟨hAdmits, hRest⟩
      have hFirst :
          (l.run (call :: calls)).1 =
            (l.step call).1 :: ((l.step call).2.run calls).1 :=
        rfl
      rw [hFirst] at hRun
      cases before with
      | nil =>
          have hSame := (List.cons.inj hRun).1
          exact ⟨l, ids, call, hMirrors, hAdmits, hSame.symm⟩
      | cons first before =>
          rcases List.cons.inj hRun with ⟨rfl, hRun'⟩
          have hStep := step_mirrors hMirrors hAdmits
          rcases ih hStep hRest hRun' with
            ⟨l', ids', call', hMirrors', hAdmits', hSame⟩
          refine ⟨l', ids', call', ?_, hAdmits', hSame⟩
          rw [← Shelf.run_append] at hMirrors'
          have hOperations :
              (l.step call).1.operation?.toList ++
                  before.filterMap Entry.operation? =
                ((l.step call).1 :: before).filterMap
                  Entry.operation? := by
            rw [List.filterMap_cons]
            cases (l.step call).1.operation? with
            | none => rfl
            | some o => rfl
          rw [hOperations] at hMirrors'
          exact hMirrors'

end Link

end Courier

------------------------------------------------------------
-- The Latest Upload
------------------------------------------------------------

namespace Courier

namespace Link

/-
  The upload was answered with good news and has given the
  key the content.
-/
def Entry.Stores
    (e : Entry)
    (key : FileKey)
    (content : Bytes) : Prop :=
  ∃ files u,
    e.call = .upload files u ∧
      e.isFileOk = true ∧
      Store.key? u.fileName u.domain = some key ∧
      uploadedBytes? files u = some content

/-
  The deletion was answered with good news and has taken the
  file of the key away.
-/
def Entry.Deletes
    (e : Entry)
    (key : FileKey) : Prop :=
  ∃ d,
    e.call = .delete d ∧
      e.isFileOk = true ∧
      Store.key? d.fileId d.domain = some key

/- The call has done nothing to the file of the key. -/
def Entry.Spares
    (e : Entry)
    (key : FileKey) : Prop :=
  (∀ content, ¬e.Stores key content) ∧ ¬e.Deletes key

/-
  The content is that of the latest upload for the key that
  was answered with good news, and no such deletion of the
  key came after it.
-/
def IsLatest
    (entries : List Entry)
    (key : FileKey)
    (content : Bytes) : Prop :=
  ∃ before e after,
    entries = before ++ e :: after ∧
      e.Stores key content ∧
      ∀ later ∈ after, later.Spares key

/- The call was answered with good news about the key. -/
def Entry.concerns
    (key : FileKey)
    (e : Entry) : Bool :=
  e.isFileOk && e.call.key? == some key

variable {e : Entry}
variable {key : FileKey}
variable {content : Bytes}

/-
  A call with good news has changed the file of a key: an
  upload has stored it, and a deletion has taken it away.
-/
theorem Entry.operation?_eq_some_iff
    {o : Shelf.Operation} :
    e.operation? = some o ↔
      e.isFileOk = true ∧
        ((∃ files u key content,
            e.call = .upload files u ∧
              Store.key? u.fileName u.domain = some key ∧
              uploadedBytes? files u = some content ∧
              o = .store key content) ∨
          ∃ d key,
            e.call = .delete d ∧
              Store.key? d.fileId d.domain = some key ∧
              o = .delete key) := by
  unfold Entry.operation?
  cases hOk : e.isFileOk with
  | false => simp
  | true =>
      simp only [Bool.not_true, Bool.false_eq_true, if_false,
        true_and]
      cases e.call with
      | upload files u =>
          cases hKey : Store.key? u.fileName u.domain with
          | none => simp [hKey]
          | some found =>
              rcases found with ⟨directory, name⟩
              cases hBytes : uploadedBytes? files u with
              | none => simp [hKey, hBytes]
              | some bytes =>
                  simp [hKey, hBytes, and_assoc, eq_comm]
      | download fileId domain d => simp
      | delete d =>
          cases hKey : Store.key? d.fileId d.domain with
          | none => simp [hKey]
          | some found =>
              rcases found with ⟨directory, name⟩
              simp [hKey, and_assoc, eq_comm]

/- An upload that stores is an operation that stores. -/
theorem Entry.stores_iff :
    e.Stores key content ↔
      e.operation? = some (.store key content) := by
  rw [Entry.operation?_eq_some_iff]
  constructor
  · rintro ⟨files, u, hCall, hOk, hKey, hBytes⟩
    exact
      ⟨hOk, Or.inl ⟨files, u, _, _, hCall, hKey, hBytes, rfl⟩⟩
  · rintro ⟨hOk,
      ⟨files, u, _, _, hCall, hKey, hBytes, ⟨⟩⟩ |
        ⟨d, _, -, -, ⟨⟩⟩⟩
    exact ⟨files, u, hCall, hOk, hKey, hBytes⟩

/- A deletion that deletes is an operation that deletes. -/
theorem Entry.deletes_iff :
    e.Deletes key ↔ e.operation? = some (.delete key) := by
  rw [Entry.operation?_eq_some_iff]
  constructor
  · rintro ⟨d, hCall, hOk, hKey⟩
    exact ⟨hOk, Or.inr ⟨d, _, hCall, hKey, rfl⟩⟩
  · rintro ⟨hOk,
      ⟨files, u, _, _, -, -, -, ⟨⟩⟩ | ⟨d, _, hCall, hKey, ⟨⟩⟩⟩
    exact ⟨d, hCall, hOk, hKey⟩

/- A call spares a key if its operation does. -/
theorem Entry.spares_iff :
    e.Spares key ↔ ∀ o ∈ e.operation?, o.Spares key := by
  unfold Entry.Spares
  rw [Entry.deletes_iff]
  simp only [Entry.stores_iff, Option.mem_def]
  constructor
  · rintro ⟨hStores, hDeletes⟩ o hSome hKey
    subst hKey
    cases o with
    | store other bytes => exact absurd hSome (hStores bytes)
    | find other => rfl
    | delete other => exact absurd hSome hDeletes
  · intro hSpares
    constructor
    · intro content hStore
      cases hSpares _ hStore rfl
    · intro hDelete
      cases hSpares _ hDelete rfl

/-
  The latest upload with one more call in front: it comes
  later, or it is that call and nothing happens later.
-/
theorem isLatest_cons
    (e : Entry)
    (entries : List Entry) :
    IsLatest (e :: entries) key content ↔
      (e.Stores key content ∧
          ∀ later ∈ entries, later.Spares key) ∨
        IsLatest entries key content :=
  Shelf.exists_split_cons_iff e entries

/-
  The file of a key after some calls is that of the latest
  upload, or the one from before if no call was about it.
-/
theorem run_eq_iff
    (m : Shelf)
    (entries : List Entry) :
    m.run (entries.filterMap Entry.operation?) key =
        some content ↔
      (m key = some content ∧
          ∀ e ∈ entries, e.Spares key) ∨
        IsLatest entries key content := by
  unfold IsLatest
  simp only [Entry.spares_iff, Entry.stores_iff]
  exact Shelf.run_eq_some_iff Entry.operation? m entries

/-
  The latest upload is what the ledger of all calls has for
  its key.
-/
theorem isLatest_iff
    (entries : List Entry) :
    IsLatest entries key content ↔
      ledger entries key = some content := by
  rw [ledger, run_eq_iff]
  simp [Shelf.empty]

/- A call that fails or names another key spares the file. -/
theorem Entry.spares_of_not_concerns
    (hNot : e.concerns key = false) :
    e.Spares key := by
  constructor
  · rintro content ⟨files, u, hCall, hOk, hKey, -⟩
    simp [Entry.concerns, hOk, hCall, FileCall.key?, hKey]
      at hNot
  · rintro ⟨d, hCall, hOk, hKey⟩
    simp [Entry.concerns, hOk, hCall, FileCall.key?, hKey]
      at hNot

/- Calls that fail or name another key make no difference. -/
theorem isLatest_filter
    (entries : List Entry) :
    IsLatest (entries.filter (Entry.concerns key)) key
        content ↔
      IsLatest entries key content := by
  induction entries with
  | nil => exact Iff.rfl
  | cons e entries ih =>
      have hSpared :
          (∀ later ∈ entries.filter (Entry.concerns key),
              later.Spares key) ↔
            ∀ later ∈ entries, later.Spares key := by
        constructor
        · intro hSpares later hMem
          cases hConcerns : later.concerns key with
          | true =>
              exact
                hSpares later
                  (List.mem_filter.mpr ⟨hMem, hConcerns⟩)
          | false =>
              exact Entry.spares_of_not_concerns hConcerns
        · intro hSpares later hMem
          exact hSpares later (List.mem_of_mem_filter hMem)
      cases hConcerns : e.concerns key with
      | true =>
          rw [List.filter_cons_of_pos hConcerns, isLatest_cons,
            isLatest_cons, ih, hSpared]
      | false =>
          have hSpares :=
            Entry.spares_of_not_concerns hConcerns
          rw [List.filter_cons_of_neg (by simp [hConcerns]), ih,
            isLatest_cons]
          exact
            ⟨Or.inr, fun hLatest =>
              hLatest.resolve_left fun hLast =>
                hSpares.1 content hLast.1⟩

end Link

end Courier

------------------------------------------------------------
-- Downloads in a Run
------------------------------------------------------------

namespace Courier

namespace Link

/-
  A download that obtains an answer leaves at its
  destination the bytes of the latest upload for its key, or
  is told that there is none.  Calls that fail or are about
  another key make no difference to that.
-/
theorem download_obtains
    {l : Link}
    {calls : List FileCall}
    {before after : List Entry}
    {e : Entry}
    {fileId : String}
    {domain : Option String}
    {d : Destination}
    {a : Answer}
    (hSuits : l.server.Suits l.settings)
    (hEmpty : l.server.Keeps Shelf.empty)
    (hOrderly : l.IsOrderly [] calls)
    (hRun : (l.run calls).1 = before ++ e :: after)
    (hCall : e.call = .download fileId domain d)
    (hOutcome : e.outcome = .ok a) :
    ((∃ key content d',
        Store.key? fileId domain = some key ∧
          IsLatest before key content ∧
          a.status = .fileOk ∧
          e.destination = some d' ∧
          d'.content = some content) ∨
      (a.status = .fileNok ∧
        a.failure = some .notFound ∧
        ∀ key ∈ Store.key? fileId domain,
          ∀ content, ¬IsLatest before key content)) ∧
      ∀ key content,
        IsLatest (before.filter (Entry.concerns key)) key
            content ↔
          IsLatest before key content := by
  refine ⟨?_, fun key content => isLatest_filter before⟩
  have hStart : l.Mirrors Shelf.empty [] :=
    ⟨hSuits, hEmpty, Shelf.isSized_empty,
      List.forall_mem_nil _⟩
  rcases run_mirrors hStart hOrderly hRun with
    ⟨l', ids', call, hMirrors, hAdmits, rfl⟩
  have hSame : call = .download fileId domain d := by
    rw [← hCall, call_step]
  subst hSame
  have hObtains :=
    (step_download hMirrors hAdmits).2 a hOutcome
  rw [← ledger] at hObtains
  cases hKey : Store.key? fileId domain with
  | none =>
      rw [hKey] at hObtains
      refine Or.inr ⟨hObtains.1, hObtains.2, ?_⟩
      rintro key ⟨⟩
  | some key =>
      rw [hKey, Option.bind_some] at hObtains
      cases hLedger : ledger before key with
      | none =>
          rw [hLedger] at hObtains
          refine Or.inr ⟨hObtains.1, hObtains.2, ?_⟩
          rintro other ⟨⟩ content hLatest
          rw [isLatest_iff, hLedger] at hLatest
          cases hLatest
      | some content =>
          rw [hLedger] at hObtains
          exact
            Or.inl
              ⟨key, content, _, rfl,
                (isLatest_iff before).mpr hLedger,
                hObtains.1, rfl, hObtains.2⟩

/- A client and a fresh server that take all frames. -/
def desk : Link :=
  { settings :=
      { serverName := "backend"
        host := "localhost"
        adminPort := 6380
        webPort := 8080
        mode := .sockets
        defaultTimeoutMs := 5000
        clientTimeoutSecs := none
        webOverride := false
        maxMessageSize := 4294967295
        bufferSize := 32768
        trust := none
        https := false
        webAnchors := []
        endpoint := "cmdlink"
        keyName := "key"
        key := "" }
    server :=
      { Server.fresh with maxMessageSize := Frame.maxLength }
    tunnel := none }

/- A file with the letter a in it goes to the server. -/
def letterCall : FileCall :=
  .upload (fun _ => .ok (.ofBytes [97]))
    { fileName := "a b"
      domain := none
      user := none
      size := 1
      checksum := "0CC175B9C0F1B6A831C399E269772661"
      source := some "a b" }

/- The file comes back under its id. -/
def copyCall : FileCall :=
  .download "a_b" (some "") (.ofContent "copy" none)

/- The upload is within the bounds of the fresh server. -/
theorem admits_letterCall :
    desk.Admits [] letterCall := by
  refine
    ⟨List.forall_mem_nil _, ?_,
      Server.framesFit_of_eq _ rfl rfl, trivial⟩
  intro key hKey
  have hPlace :
      letterCall.key? = some ("default", "a_b") := by
    decide +kernel
  rw [hPlace] at hKey
  cases hKey
  rintro files ⟨⟩
  decide +kernel

/- A run of two calls. -/
theorem run_pair
    (l : Link)
    (first second : FileCall) :
    (l.run [first, second]).1 =
      [(l.step first).1] ++
        [((l.step first).2.step second).1] := by
  simp only [run, List.cons_append, List.nil_append]

/- The client is told that the letter is stored. -/
theorem step_letterCall :
    ((desk.step letterCall).1.returned,
        (desk.step letterCall).1.operation?) =
      (["a_b"], some (.store ("default", "a_b") [97])) := by
  decide +kernel

/- The download is within the bounds that are left. -/
theorem admits_copyCall :
    (desk.step letterCall).2.Admits
      ([] ++ (desk.step letterCall).1.returned) copyCall := by
  have hReturned := congrArg Prod.fst step_letterCall
  have hServer :
      (desk.step letterCall).2.server.maxMessageSize =
        Frame.maxLength :=
    (Server.same_of_setup (setup_step desk letterCall)).2
  have hSettings :
      (desk.step letterCall).2.settings.maxMessageSize.toNat =
        Frame.maxLength := by
    rw [settings_step]
    rfl
  simp only at hReturned
  rw [hReturned]
  refine
    ⟨fun fileId hMem => hMem, ?_,
      Server.framesFit_of_eq _ hServer hSettings,
      ⟨Stream.Writer.isOpen_endless, rfl⟩⟩
  intro key hKey
  have hPlace :
      copyCall.key? = some ("default", "a_b") := by
    decide +kernel
  rw [hPlace] at hKey
  cases hKey
  show Server.FitsKey ("default", "a_b")
  decide +kernel

/- The letter comes back. -/
theorem download_obtains_letter :
    desk.server.Suits desk.settings ∧
      desk.server.Keeps Shelf.empty ∧
      desk.IsOrderly [] [letterCall, copyCall] ∧
      ∃ first second a d',
        (desk.run [letterCall, copyCall]).1 =
            [first] ++ [second] ∧
          second.call = copyCall ∧
          second.outcome = .ok a ∧
          a.status = .fileOk ∧
          second.destination = some d' ∧
          d'.content = some [97] := by
  have hSuits : desk.server.Suits desk.settings :=
    ⟨rfl, by decide +kernel⟩
  have hKeeps : desk.server.Keeps Shelf.empty :=
    ⟨rfl, Store.empty, rfl, Tree.isFlat_nil, rfl, rfl⟩
  have hOrderly : desk.IsOrderly [] [letterCall, copyCall] :=
    ⟨admits_letterCall, admits_copyCall, trivial⟩
  have hAnswered :
      ((desk.step letterCall).2.step
        copyCall).1.outcome.toBool = true := by
    decide +kernel
  have hStored := congrArg Prod.snd step_letterCall
  have hLatest :
      ledger [(desk.step letterCall).1] ("default", "a_b") =
        some [97] := by
    simp only at hStored
    rw [ledger, List.filterMap_cons, hStored]
    rfl
  have hPlace :
      Store.key? "a_b" (some "") = some ("default", "a_b") := by
    decide +kernel
  cases hOutcome :
    ((desk.step letterCall).2.step copyCall).1.outcome with
  | error e =>
      rw [hOutcome] at hAnswered
      cases hAnswered
  | ok a =>
      have hRun := desk.run_pair letterCall copyCall
      rcases
        (download_obtains hSuits hKeeps hOrderly hRun
          (call_step _ copyCall) hOutcome).1 with
        ⟨key, content, d', hKey, hContent, hStatus, hLeft,
          hCopy⟩ | ⟨-, -, hNone⟩
      · rw [hPlace] at hKey
        cases hKey
        rw [isLatest_iff, hLatest] at hContent
        cases hContent
        exact
          ⟨hSuits, hKeeps, hOrderly, _, _, a, d', hRun,
            call_step _ copyCall, hOutcome, hStatus, hLeft,
            hCopy⟩
      · rw [← isLatest_iff] at hLatest
        exact absurd hLatest (hNone _ hPlace _)

end Link

end Courier
