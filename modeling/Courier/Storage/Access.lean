import Courier.Storage.Store

/-
  What a store touches in its tree.

  Every request to a store comes down to a few accesses to
  paths below the root.  The accesses of a request depend on
  the tree only in whether the later ones are made.

  Key definitions include:
    * `Access`
    * `Access.paths`
    * `Access.after`
    * `Store.Request`
    * `Store.accesses`
    * `Store.afterRequest`

  Key theorems include:
    * `Store.tree_afterRequest`
-/

------------------------------------------------------------
-- Accesses
------------------------------------------------------------

namespace Courier

/- What can be done with paths in a tree. -/
inductive Access where
| makeDirectory : Path → Access
| read : Path → Access
| write : Path → Bytes → Access
| rename : (old new : Path) → Access
| discard : Path → Access
deriving DecidableEq, Repr

namespace Access

/- The paths that are touched. -/
def paths : Access → List Path
  | .makeDirectory path
  | .read path
  | .write path _
  | .discard path => [path]
  | .rename old new => [old, new]

/- A tree after a change, which may fail. -/
def kept
    (t : Tree)
    (changed : Except IoError Tree) : Tree :=
  match changed with
  | .ok t' => t'
  | .error _ => t

/- A tree after an access, which changes nothing if it fails. -/
def after
    (t : Tree) : Access → Tree
  | .makeDirectory path => kept t (t.makeDirectory path)
  | .read _ => t
  | .write path content => kept t (t.writeFile path content)
  | .rename old new => kept t (t.rename old new)
  | .discard path => t.discard path

end Access

end Courier

------------------------------------------------------------
-- Requests
------------------------------------------------------------

namespace Courier

namespace Store

/- What a store can be asked for. -/
inductive Request where
| store :
    (source : Source) → (name : String) →
    (domain : Option String) → Request
| find :
    (fileId : String) → (domain : Option String) → Request
| delete :
    (fileId : String) → (domain : Option String) → Request

/- A store after a request. -/
def afterRequest
    (s : Store) : Request → Store
  | .store source name domain => (s.store source name domain).2
  | .find fileId domain => (s.find fileId domain).2
  | .delete fileId domain => (s.delete fileId domain).2

/- A store after one request after another. -/
def afterAll
    (s : Store)
    (requests : List Request) : Store :=
  requests.foldl afterRequest s

/- The accesses that copy a source to a path. -/
def fillAccesses
    (path : Path) : Source → List Access
  | .closed _ => []
  | .whole content => [.write path content]
  | .broken written _ => [.write path written]

/- The accesses that give a file its content and its name. -/
def placeAccesses
    (t : Tree)
    (hidden final : Path)
    (source : Source) : List Access :=
  fillAccesses hidden source ++
    match fill t hidden source with
    | (.error _, _) => [.discard hidden]
    | (.ok (), t') =>
        match t'.rename hidden final with
        | .error _ => [.rename hidden final, .discard hidden]
        | .ok _ => [.rename hidden final]

/- The accesses of a request, in the order they are made. -/
def accesses
    (s : Store) : Request → List Access
  | .store source name domain =>
      match domainComponent? domain, component? name with
      | some directory, some fileId =>
          .makeDirectory [directory] ::
            match s.tree.makeDirectory [directory] with
            | .error _ => []
            | .ok t =>
                placeAccesses t
                  (hiddenPath s.tree directory fileId s.serial)
                  [directory, fileId] source
      | _, _ => []
  | .find fileId domain =>
      match key? fileId domain with
      | some (directory, name) =>
          if s.temp.isPresent then [.read [directory, name]]
          else []
      | none => []
  | .delete fileId domain =>
      match key? fileId domain with
      | some (directory, name) => [.discard [directory, name]]
      | none => []

end Store

end Courier

------------------------------------------------------------
-- Changes Come from Accesses
------------------------------------------------------------

namespace Courier

namespace Store

/- Copying a source makes no other changes. -/
theorem tree_fill
    (t : Tree)
    (path : Path)
    (source : Source) :
    (fill t path source).2 =
      (fillAccesses path source).foldl Access.after t := by
  cases source with
  | closed e => rfl
  | whole content =>
      simp only [fill, fillAccesses, List.foldl_cons,
        List.foldl_nil, Access.after]
      cases t.writeFile path content with
      | error e => rfl
      | ok t' => rfl
  | broken written e =>
      simp only [fill, fillAccesses, List.foldl_cons,
        List.foldl_nil, Access.after]
      cases t.writeFile path written with
      | error refused => rfl
      | ok t' => rfl

/- Placing a file makes no other changes. -/
theorem tree_place
    (t : Tree)
    (hidden final : Path)
    (source : Source) :
    (place t hidden final source).2 =
      (placeAccesses t hidden final source).foldl
        Access.after t := by
  rw [placeAccesses, List.foldl_append, ← tree_fill, place]
  rcases fill t hidden source with ⟨filled, t'⟩
  cases filled with
  | error e => rfl
  | ok u =>
      cases hRename : t'.rename hidden final with
      | error e => simp [Access.after, Access.kept, hRename]
      | ok t'' => simp [Access.after, Access.kept, hRename]

/- What is done to store a file. -/
theorem tree_afterStore
    (s : Store)
    (source : Source)
    (name : String)
    (domain : Option String) :
    (s.store source name domain).2.tree =
      (s.accesses (.store source name domain)).foldl
        Access.after s.tree := by
  simp only [store, accesses]
  cases domainComponent? domain with
  | none => rfl
  | some directory =>
      cases component? name with
      | none => rfl
      | some fileId =>
          cases hMake : s.tree.makeDirectory [directory] with
          | error e => simp [Access.after, Access.kept, hMake]
          | ok t =>
              have hPlace :=
                tree_place t
                  (hiddenPath s.tree directory fileId s.serial)
                  [directory, fileId] source
              simp only [List.foldl_cons, Access.after,
                Access.kept, hMake]
              rw [← hPlace]
              cases (place t
                (hiddenPath s.tree directory fileId s.serial)
                [directory, fileId] source) with
              | mk placed t' => cases placed <;> rfl

/- Looking for a file leaves the tree as it is. -/
theorem tree_afterFind
    (s : Store)
    (fileId : String)
    (domain : Option String) :
    (s.find fileId domain).2.tree =
      (s.accesses (.find fileId domain)).foldl
        Access.after s.tree := by
  simp only [find, accesses]
  cases hKey : key? fileId domain with
  | none => rfl
  | some key =>
      rcases key with ⟨directory, name⟩
      unfold TemporaryFiles.create
      by_cases hTemp : s.temp.isPresent
      · cases hRead : s.tree.readFile [directory, name] with
        | error e =>
            by_cases hKind : e.kind = .notFound <;>
              simp [Access.after, hTemp, hRead, hKind]
        | ok content =>
            simp [Access.after, hTemp, hRead]
      · simp [hTemp]

/- What is done to delete a file. -/
theorem tree_afterDelete
    (s : Store)
    (fileId : String)
    (domain : Option String) :
    (s.delete fileId domain).2.tree =
      (s.accesses (.delete fileId domain)).foldl
        Access.after s.tree := by
  simp only [delete, accesses]
  cases key? fileId domain with
  | none => rfl
  | some key =>
      cases hUnlink : s.tree.unlink [key.1, key.2] with
      | error e =>
          by_cases hKind : e.kind = .notFound <;>
            simp [Access.after, Tree.discard, hKind, hUnlink]
      | ok t =>
          simp [Access.after, Tree.discard, hUnlink]

/- A request changes the tree by its accesses only. -/
theorem tree_afterRequest
    (s : Store)
    (q : Request) :
    (s.afterRequest q).tree =
      (s.accesses q).foldl Access.after s.tree := by
  cases q with
  | store source name domain =>
      exact s.tree_afterStore source name domain
  | find fileId domain =>
      exact s.tree_afterFind fileId domain
  | delete fileId domain =>
      exact s.tree_afterDelete fileId domain

end Store

end Courier
