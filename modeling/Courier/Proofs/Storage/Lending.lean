import Courier.Proofs.Storage.Room
import Courier.Storage.Lending

/-
  A store tells its callers what a finite map would.

  Between two calls the files in its tree are those of the
  map, each in a directory of the root, and there is nothing
  else but such directories.  The temporary copies are those
  that callers hold, with the contents they were handed out
  with.

  Key definitions include:
    * `Tree.Shows`
    * `Lending.Holds`
    * `Lending.Admits`
    * `Lending.Call.Fits`
    * `Lending.IsOrderly`

  Key theorems include:
    * `Lending.holds_perform`
    * `Lending.run_eq_repliesTo`
    * `Lending.isOrderly_of_fits`
-/

------------------------------------------------------------
-- Trees and Maps
------------------------------------------------------------

namespace Courier

namespace Tree

/-
  The files of the tree are those of a map, each at the path
  of its key.
-/
def Shows
    (t : Tree)
    (m : Shelf) : Prop :=
  ∀ path content,
    t.node? path = some (.file content) ↔
      ∃ key,
        path = Store.pathOf key ∧ m key = some content

/- A tree shows the map of its files. -/
theorem Shows.shelf_eq
    {s : Store}
    {m : Shelf}
    (hShows : s.tree.Shows m) :
    s.shelf = m := by
  funext key
  apply Option.ext
  intro content
  have hFile :
      s.shelf key = some content ↔
        s.tree.node? (Store.pathOf key) =
          some (.file content) :=
    file?_eq_some_iff
  rw [hFile, hShows]
  constructor
  · rintro ⟨other, hPath, hSome⟩
    rw [Store.pathOf_injective hPath]
    exact hSome
  · intro hSome
    exact ⟨key, rfl, hSome⟩

/-
  A tree follows a map when one file changes in both, in the
  same way.
-/
theorem Shows.update
    {t t' : Tree}
    {m m' : Shelf}
    {key : FileKey}
    {found : Option Bytes}
    (hShows : t.Shows m)
    (hTree :
      ∀ path,
        t'.file? path =
          if path = Store.pathOf key then found
          else t.file? path)
    (hMap :
      ∀ other,
        m' other = if other = key then found else m other) :
    t'.Shows m' := by
  intro path content
  rw [← file?_eq_some_iff, hTree path]
  by_cases hHere : path = Store.pathOf key
  · rw [if_pos hHere]
    constructor
    · intro hFound
      refine ⟨key, hHere, ?_⟩
      rw [hMap key, if_pos rfl]
      exact hFound
    · rintro ⟨other, hPath, hSome⟩
      have hSame : other = key :=
        Store.pathOf_injective (hPath.symm.trans hHere)
      rw [hMap other, if_pos hSame] at hSome
      exact hSome
  · rw [if_neg hHere, file?_eq_some_iff, hShows path content]
    -- The keys of other paths are not the changed one.
    have hOther (other : FileKey)
        (hPath : path = Store.pathOf other) :
        m' other = m other := by
      have hNe : other ≠ key := by
        rintro rfl
        exact hHere hPath
      rw [hMap other, if_neg hNe]
    constructor
    · rintro ⟨other, hPath, hSome⟩
      exact ⟨other, hPath, (hOther other hPath).trans hSome⟩
    · rintro ⟨other, hPath, hSome⟩
      exact
        ⟨other, hPath, (hOther other hPath).symm.trans hSome⟩

/-
  A directory that there is after some accesses was there
  before, or one of them touched it.
-/
theorem directory_of_accesses
    {t : Tree}
    {path : Path}
    {accesses : List Access}
    (hNode :
      (accesses.foldl Access.after t).node? path =
        some .directory) :
    t.node? path = some .directory ∨
      ∃ a ∈ accesses, path ∈ a.paths := by
  by_cases hTouched : ∃ a ∈ accesses, path ∈ a.paths
  · exact Or.inr hTouched
  · left
    rw [← hNode]
    apply Eq.symm
    apply Access.node?_foldl_after
    intro a hMem hPath
    exact hTouched ⟨a, hMem, hPath⟩

end Tree

end Courier

------------------------------------------------------------
-- Lending Stores and Maps
------------------------------------------------------------

namespace Courier

namespace Lending

/-
  The store has the files of a map and directories for them,
  and its temporary copies are those that callers hold.
-/
structure Holds
    (l : Lending)
    (m : Shelf) : Prop where
  isFlat : l.store.IsFlat
  shows : l.store.tree.Shows m
  directory :
    ∀ path,
      l.store.tree.node? path = some .directory →
        path = [] ∨
          ∃ d, path = [d] ∧ Store.IsComponent d
  component :
    ∀ key,
      (m key).isSome = true →
        Store.IsComponent key.1 ∧ Store.IsComponent key.2
  isPresent : l.store.temp.isPresent = true
  lent : l.store.temp.files = l.lent
  nodup : (l.lent.map Prod.fst).Nodup
  fresh :
    ∀ file ∈ l.lent, file.1 < l.store.temp.next

/- A store without files holds the empty map. -/
theorem holds_opened
    (serial : Nat) :
    (opened serial).Holds Shelf.empty := by
  have hNode (path : Path) :
      (opened serial).store.tree.node? path =
        if path = [] then some .directory else none :=
    rfl
  exact
    { isFlat := Tree.isFlat_nil
      shows := by
        intro path content
        rw [hNode path]
        constructor
        · intro hFile
          split at hFile
          · cases hFile
          · cases hFile
        · rintro ⟨key, -, hSome⟩
          cases hSome
      directory := by
        intro path hDirectory
        rw [hNode path] at hDirectory
        split at hDirectory
        · next hRoot => exact Or.inl hRoot
        · cases hDirectory
      component := by
        intro key hSome
        cases hSome
      isPresent := rfl
      lent := rfl
      nodup := List.nodup_nil
      fresh := by
        intro file hMem
        cases hMem }

variable {l : Lending}
variable {m m' : Shelf}

/-
  A request makes no other directories than those that the
  names of files ask for.
-/
theorem Holds.directory_afterRequest
    (hHolds : l.Holds m)
    {q : Store.Request}
    (hFlat : (l.store.afterRequest q).IsFlat)
    {path : Path}
    (hNode :
      (l.store.afterRequest q).tree.node? path =
        some .directory) :
    path = [] ∨ ∃ d, path = [d] ∧ Store.IsComponent d := by
  have hTree := Store.tree_afterRequest l.store q
  have hAccessed := hNode
  rw [hTree] at hAccessed
  rcases Tree.directory_of_accesses hAccessed with
    hOld | ⟨a, hAccess, hPath⟩
  · exact hHolds.directory path hOld
  · rcases Store.isConfined_of_accesses hAccess hPath with
      ⟨d, hSame, hComponent⟩ | ⟨d, f, hSame, -, -⟩
    · exact Or.inr ⟨d, hSame, hComponent⟩
    · rw [hSame] at hNode
      exact absurd hNode (hFlat.file d f)

/-
  The store holds another map after a request that changes
  its tree as the map is changed and no temporary copy.
-/
theorem Holds.afterRequest
    (hHolds : l.Holds m)
    {q : Store.Request}
    {s' : Store}
    (hAfter : l.store.afterRequest q = s')
    (hFlat : s'.IsFlat)
    (hShows : s'.tree.Shows m')
    (hTemp : s'.temp = l.store.temp)
    (hComponent :
      ∀ key,
        (m' key).isSome = true →
          (m key).isSome = true ∨
            Store.IsComponent key.1 ∧
              Store.IsComponent key.2) :
    Holds { l with store := s' } m' := by
  subst hAfter
  exact
    { isFlat := hFlat
      shows := hShows
      directory := by
        intro path hNode
        exact hHolds.directory_afterRequest hFlat hNode
      component := by
        intro key hSome
        rcases hComponent key hSome with hOld | hNew
        · exact hHolds.component key hOld
        · exact hNew
      isPresent := by
        rw [hTemp]
        exact hHolds.isPresent
      lent := by
        rw [hTemp]
        exact hHolds.lent
      nodup := hHolds.nodup
      fresh := by
        rw [hTemp]
        exact hHolds.fresh }

end Lending

end Courier

------------------------------------------------------------
-- Calls One by One
------------------------------------------------------------

namespace Courier

namespace Lending

/-
  The names that a call needs are short enough for the file
  system, the hidden name of a new file among them.
-/
def Admits
    (l : Lending) : Call → Prop
  | .store _ name domain =>
      ∀ key ∈ Store.key? name domain, l.store.HasRoom key
  | .find fileId domain | .delete fileId domain =>
      ∀ key ∈ Store.key? fileId domain,
        Tree.Fits key.1 ∧ Tree.Fits key.2
  | .giveBack _ => True

variable {l : Lending}
variable {m : Shelf}

/- Storing a file gives its key the content in the map. -/
theorem holds_store
    (hHolds : l.Holds m)
    {content : Bytes}
    {name : String}
    {domain : Option String}
    (hAdmits : l.Admits (.store content name domain)) :
    (l.perform (.store content name domain)).1 =
        m.replyTo (.store content name domain) ∧
      (l.perform (.store content name domain)).2.Holds
        (m.afterCall (.store content name domain)) := by
  simp only [perform, Shelf.replyTo, Shelf.afterCall,
    Shelf.operation?]
  cases hDomain : Store.domainComponent? domain with
  | none =>
      simp only [Store.store, Store.key?, hDomain]
      cases Store.component? name with
      | none => exact ⟨trivial, hHolds⟩
      | some fileId => exact ⟨trivial, hHolds⟩
  | some d =>
      cases hName : Store.component? name with
      | none =>
          simp only [Store.store, Store.key?, hDomain, hName]
          exact ⟨trivial, hHolds⟩
      | some fileId =>
          have hKey :
              Store.key? name domain = some (d, fileId) := by
            rw [Store.key?, hName, hDomain]
          have hRoom := hAdmits (d, fileId) hKey
          rcases
            Store.store_eq_ok hHolds.isFlat hKey hRoom
              content with
            ⟨s', hStore, hFlat, -, hTemp⟩
          rcases Store.file?_of_store hStore with
            ⟨key, stored, hSame, hContent, hFiles⟩
          cases hKey.symm.trans hSame
          cases hContent
          simp only [hStore, hKey, Option.map_some, Shelf.after]
          refine ⟨trivial, ?_⟩
          have hAfter :
              l.store.afterRequest
                (.store (.whole content) name domain) = s' := by
            rw [Store.afterRequest, hStore]
          apply hHolds.afterRequest hAfter hFlat ?_ hTemp
          · intro key hSome
            by_cases hHere : key = (d, fileId)
            · right
              rw [hHere]
              exact Store.isComponent_of_key? hKey
            · left
              rw [m.put_other content hHere] at hSome
              exact hSome
          · exact hHolds.shows.update hFiles fun _ => rfl

/- Deleting a file takes its key out of the map. -/
theorem holds_delete
    (hHolds : l.Holds m)
    {fileId : String}
    {domain : Option String}
    (hAdmits : l.Admits (.delete fileId domain)) :
    (l.perform (.delete fileId domain)).1 =
        m.replyTo (.delete fileId domain) ∧
      (l.perform (.delete fileId domain)).2.Holds
        (m.afterCall (.delete fileId domain)) := by
  simp only [perform, Shelf.replyTo, Shelf.afterCall,
    Shelf.operation?]
  cases hKey : Store.key? fileId domain with
  | none =>
      simp only [Store.delete, hKey]
      exact ⟨rfl, hHolds⟩
  | some key =>
      rcases hAdmits key hKey with ⟨hFits, hFitsName⟩
      rcases
        Store.delete_key hHolds.isFlat hKey hFits hFitsName with
        ⟨s', hDelete, hFlat, -, hTemp⟩
      have hAfter :
          l.store.afterRequest (.delete fileId domain) = s' := by
        rw [Store.afterRequest, hDelete]
      have hFiles := Store.file?_of_delete hKey hDelete
      rw [hHolds.shows.shelf_eq] at hDelete
      simp only [hDelete, Option.any_some, Option.map_some,
        Shelf.after]
      refine ⟨trivial, ?_⟩
      apply hHolds.afterRequest hAfter hFlat ?_ hTemp
      · intro other hSome
        left
        by_cases hHere : other = key
        · rw [hHere, m.erase_same] at hSome
          cases hSome
        · rw [m.erase_other hHere] at hSome
          exact hSome
      · exact hHolds.shows.update hFiles fun _ => rfl

/- The copies that callers hold have old numbers. -/
theorem Holds.isFresh
    (hHolds : l.Holds m) :
    l.store.temp.IsFresh := by
  intro file hMem
  rw [hHolds.lent] at hMem
  exact hHolds.fresh file hMem

/-
  Reading the file of a key gives what the map has, or says
  that it is missing.
-/
theorem Holds.readFile
    (hHolds : l.Holds m)
    {key : FileKey}
    (hFits : Tree.Fits key.1 ∧ Tree.Fits key.2) :
    l.store.tree.readFile (Store.pathOf key) =
      match m key with
      | some content => .ok content
      | none => .error .notFound := by
  have hRead :=
    Tree.readFile_file hHolds.isFlat hFits.1 hFits.2
  have hShelf : l.store.shelf key = m key :=
    congrFun hHolds.shows.shelf_eq key
  rw [Store.pathOf, hRead, ← hShelf, Store.shelf_eq]
  rcases hHolds.isFlat.file_cases key.1 key.2 with
    hNode | ⟨content, hNode⟩
  · rw [hNode]
  · rw [hNode]

/-
  Looking for a file hands out a new copy of what the map
  has, or nothing.
-/
theorem holds_find
    (hHolds : l.Holds m)
    {fileId : String}
    {domain : Option String}
    (hAdmits : l.Admits (.find fileId domain)) :
    (l.perform (.find fileId domain)).1 =
        m.replyTo (.find fileId domain) ∧
      (l.perform (.find fileId domain)).2.Holds
        (m.afterCall (.find fileId domain)) := by
  simp only [perform, lend, Shelf.replyTo, Shelf.afterCall,
    Shelf.operation?]
  cases hKey : Store.key? fileId domain with
  | none =>
      simp only [Store.find, hKey]
      exact ⟨rfl, hHolds⟩
  | some key =>
      have hRead := hHolds.readFile (hAdmits key hKey)
      have hPresent := hHolds.isPresent
      have hFresh := hHolds.isFresh
      cases hFile : m key with
      | none =>
          rw [hFile] at hRead
          simp only [hFile, Option.bind_some, Option.map_none,
            Store.find_missing hKey hPresent hFresh hRead]
          refine ⟨trivial, ?_⟩
          exact
            { hHolds with
              fresh := by
                intro file hMem
                exact
                  Nat.lt_succ_of_lt (hHolds.fresh file hMem) }
      | some content =>
          rw [hFile] at hRead
          simp only [hFile, Option.bind_some, Option.map_some,
            Store.find_file hKey hPresent hFresh hRead,
            TemporaryFiles.read, List.lookup_cons_self]
          refine ⟨trivial, ?_⟩
          exact
            { hHolds with
              lent := by rw [hHolds.lent]
              nodup := by
                rw [List.map_cons, List.nodup_cons]
                refine ⟨?_, hHolds.nodup⟩
                -- Only smaller numbers were given before.
                intro hOld
                rcases List.mem_map.mp hOld with
                  ⟨file, hMem, hSame⟩
                have hLess := hHolds.fresh file hMem
                simp only at hSame
                omega
              fresh := by
                rw [List.forall_mem_cons]
                refine ⟨Nat.lt_succ_self _, ?_⟩
                intro file hMem
                exact
                  Nat.lt_succ_of_lt (hHolds.fresh file hMem) }

/- A copy that is given back is removed. -/
theorem holds_giveBack
    (hHolds : l.Holds m)
    (copy : Nat) :
    (l.perform (.giveBack copy)).1 =
        m.replyTo (.giveBack copy) ∧
      (l.perform (.giveBack copy)).2.Holds
        (m.afterCall (.giveBack copy)) := by
  refine ⟨rfl, ?_⟩
  exact
    { hHolds with
      lent := by
        show
          (l.store.temp.files.filter
            fun file => file.1 != copy) = _
        rw [hHolds.lent]
        rfl
      nodup := by
        have hSublist :=
          (List.filter_sublist (l := l.lent)
            (p := fun file => file.1 != copy)).map Prod.fst
        exact hHolds.nodup.sublist hSublist
      fresh := by
        intro file hMem
        exact hHolds.fresh file (List.mem_filter.mp hMem).1 }

/-
  Whatever the call, the caller is told what the map says,
  and the store follows the map.
-/
theorem holds_perform
    (hHolds : l.Holds m)
    {call : Call}
    (hAdmits : l.Admits call) :
    (l.perform call).1 = m.replyTo call ∧
      (l.perform call).2.Holds (m.afterCall call) := by
  cases call with
  | store content name domain => exact holds_store hHolds hAdmits
  | find fileId domain => exact holds_find hHolds hAdmits
  | delete fileId domain => exact holds_delete hHolds hAdmits
  | giveBack copy => exact holds_giveBack hHolds copy

end Lending

end Courier

------------------------------------------------------------
-- Runs
------------------------------------------------------------

namespace Courier

namespace Lending

/-
  Each call finds room for the names that it needs when its
  turn comes.
-/
def IsOrderly
    (l : Lending) : List Call → Prop
  | [] => True
  | call :: calls =>
      l.Admits call ∧ IsOrderly (l.perform call).2 calls

/- The names in a call leave room for those of any store. -/
def Call.Fits : Call → Prop
  | .store _ name domain =>
      ∀ key ∈ Store.key? name domain,
        Tree.Fits key.1 ∧ key.2.length + 42 ≤ Tree.maxName
  | .find fileId domain | .delete fileId domain =>
      ∀ key ∈ Store.key? fileId domain,
        Tree.Fits key.1 ∧ Tree.Fits key.2
  | .giveBack _ => True

instance
    (call : Call) :
    Decidable call.Fits := by
  cases call with
  | store content name domain =>
      exact
        inferInstanceAs
          (Decidable
            (∀ key ∈ Store.key? name domain,
              Tree.Fits key.1 ∧
                key.2.length + 42 ≤ Tree.maxName))
  | find fileId domain =>
      exact
        inferInstanceAs
          (Decidable
            (∀ key ∈ Store.key? fileId domain,
              Tree.Fits key.1 ∧ Tree.Fits key.2))
  | delete fileId domain =>
      exact
        inferInstanceAs
          (Decidable
            (∀ key ∈ Store.key? fileId domain,
              Tree.Fits key.1 ∧ Tree.Fits key.2))
  | giveBack copy => exact instDecidableTrue

/- A call brings a store five steps closer to its limits. -/
theorem size_perform
    (l : Lending)
    (call : Call) :
    (l.perform call).2.store.serial +
        (l.perform call).2.store.tree.length ≤
      l.store.serial + l.store.tree.length + 5 := by
  have hRequest (q : Store.Request) :
      (l.store.afterRequest q).serial +
          (l.store.afterRequest q).tree.length ≤
        l.store.serial + l.store.tree.length + 5 := by
    have hSerial := l.store.serial_afterRequest q
    have hTree := l.store.length_afterRequest q
    omega
  cases call with
  | store content name domain =>
      exact hRequest (.store (.whole content) name domain)
  | find fileId domain =>
      have hSame :
          (l.lend fileId domain).2.store =
            l.store.afterRequest (.find fileId domain) := by
        unfold lend
        split
        next found s' hFind =>
          rw [Store.afterRequest, hFind]
          split
          · rfl
          · rfl
          · split
            · rfl
            · rfl
      rw [perform, hSame]
      exact hRequest (.find fileId domain)
  | delete fileId domain =>
      exact hRequest (.delete fileId domain)
  | giveBack copy => exact Nat.le_add_right _ 5

/-
  Calls whose names are short enough find room one after
  another, as long as marks have thirty-six digits.
-/
theorem isOrderly_of_fits
    {l : Lending}
    {calls : List Call}
    (hFits : ∀ call ∈ calls, call.Fits)
    (hMarks :
      l.store.serial + l.store.tree.length +
        5 * calls.length < Nat.pow 10 36) :
    l.IsOrderly calls := by
  induction calls generalizing l with
  | nil => trivial
  | cons call calls ih =>
      rw [List.forall_mem_cons] at hFits
      rw [List.length_cons] at hMarks
      have hSize := l.size_perform call
      constructor
      · have hFirst := hFits.1
        cases call with
        | store content name domain =>
            intro key hKey
            rcases hFirst key hKey with ⟨hDirectory, hShort⟩
            have hName := (Store.isComponent_of_key? hKey).2
            exact
              Store.hasRoom_of_length hName hDirectory hShort
                (by omega)
        | find fileId domain => exact hFirst
        | delete fileId domain => exact hFirst
        | giveBack copy => trivial
      · exact ih hFits.2 (by omega)

/- A run follows the map call by call. -/
theorem holds_run
    {l : Lending}
    {m : Shelf}
    {calls : List Call}
    (hHolds : l.Holds m)
    (hOrderly : l.IsOrderly calls) :
    (l.run calls).1 = m.repliesTo calls ∧
      ∀ before after,
        calls = before ++ after →
          (l.run before).2.Holds (m.afterCalls before) := by
  induction calls generalizing l m with
  | nil =>
      refine ⟨rfl, ?_⟩
      intro before after hSplit
      rw [(List.append_eq_nil_iff.mp hSplit.symm).1]
      exact hHolds
  | cons call calls ih =>
      rcases hOrderly with ⟨hAdmits, hRest⟩
      rcases holds_perform hHolds hAdmits with
        ⟨hReply, hHolds'⟩
      rcases ih hHolds' hRest with ⟨hReplies, hPrefixes⟩
      constructor
      · show
          (l.perform call).1 ::
              ((l.perform call).2.run calls).1 =
            m.repliesTo (call :: calls)
        rw [hReply, hReplies]
        rfl
      · intro before after hSplit
        cases before with
        | nil => exact hHolds
        | cons first before =>
            rw [List.cons_append, List.cons.injEq] at hSplit
            rcases hSplit with ⟨rfl, hSplit⟩
            exact hPrefixes before after hSplit

/-
  From an empty root on, callers are told what a finite map
  from keys to contents would tell them, call by call.  And
  whenever a call has been served, the store has the files
  of the map and nothing else but directories of the root,
  and one temporary copy for each one that a caller holds.
-/
theorem run_eq_repliesTo
    (serial : Nat)
    {calls : List Call}
    (hOrderly : (opened serial).IsOrderly calls) :
    ((opened serial).run calls).1 =
        Shelf.empty.repliesTo calls ∧
      ∀ before after,
        calls = before ++ after →
          ((opened serial).run before).2.Holds
            (Shelf.empty.afterCalls before) :=
  holds_run (holds_opened serial) hOrderly

/-
  Two names that become the same one, two spellings of the
  same domain, and a name for the directory above.
-/
def colliding : List Call :=
  [.store [1] "a b" none,
    .store [2] "a/b" (some ""),
    .find "a?b" (some "default"),
    .store [3] ".." none,
    .delete "a_b" none,
    .find "a_b" none,
    .giveBack 0]

/- What the second file's name and domain stand for. -/
def collidingReplies : List Reply :=
  [.stored (.ok "a_b"),
    .stored (.ok "a_b"),
    .found
      (.ok
        (some
          { fileId := "a_b"
            fileName := "a_b"
            domain := some "default"
            content := [2] })),
    .stored (.error (.invalidName "..")),
    .deleted (.ok true),
    .found (.ok none),
    .givenBack]

/- The later of two files with one key is found. -/
theorem run_eq_repliesTo_colliding :
    (opened 0).IsOrderly colliding ∧
      ((opened 0).run colliding).1 = collidingReplies ∧
      ((opened 0).run (colliding.take 3)).2.Holds
        (Shelf.empty.afterCalls (colliding.take 3)) := by
  have hOrderly : (opened 0).IsOrderly colliding := by
    apply isOrderly_of_fits
    · decide +kernel
    · decide
  have hRun := run_eq_repliesTo 0 hOrderly
  have hReplies :
      Shelf.empty.repliesTo colliding = collidingReplies := by
    rfl
  refine ⟨hOrderly, hRun.1.trans hReplies, ?_⟩
  exact
    hRun.2 (colliding.take 3) (colliding.drop 3)
      (List.take_append_drop 3 colliding).symm

end Lending

end Courier
