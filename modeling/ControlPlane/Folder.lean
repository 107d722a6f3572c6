/-
# Folders

Paths as their components, and a small tree of folders and files in which a path is made with
all the folders above it.  A path is gone through name by name, also by its dots, so that two
spellings of the same path can lead to different failures.

* `Folder.components`: two spellings of a path are the same when their components are equal;
* `Folder.names`: what is gone through on the way to where a path leads;
* `Folder.Tree.makeAll`: makes a folder with those above it, and the failure if one is in the
  way.
-/
import ControlPlane.OsError
import ControlPlane.Table
import ControlPlane.Text.Utf8

namespace ControlPlane

instance Key.list {κ : Type} [Key κ] : Key (List κ) where
  decideLt := inferInstance
  decideEq := inferInstance
  irrefl l :=
    have : Std.Irrefl (α := κ) (· < ·) := ⟨Key.irrefl⟩
    List.lt_irrefl l
  trans h₁ h₂ :=
    have : Trans (α := κ) (β := κ) (γ := κ) (· < ·) (· < ·) (· < ·) := ⟨Key.trans⟩
    List.lt_trans h₁ h₂
  total a b := by
    have : Std.Trichotomous (α := κ) (· < ·) := ⟨fun x y h₁ h₂ => by
      rcases Key.total x y with h | h | h
      · exact absurd h h₁
      · exact h
      · exact absurd h h₂⟩
    rcases Decidable.em (a < b) with h | h
    · exact .inl h
    · rcases Decidable.em (b < a) with h' | h'
      · exact .inr (.inr h')
      · exact .inr (.inl (List.le_antisymm (List.not_lt.1 h') (List.not_lt.1 h)))

namespace Folder

/-! ## 1. Paths -/

/-- **The components of a path**, or where they lead.  The root is written as the separator, a
dot is kept only at the very front, and empty parts do not count. -/
abbrev Place := List String

/-- The parts of a text between separators. -/
def parts (path : String) : List String :=
  (path.toList.splitOn '/').map String.ofList

/-- **The components of a path.** -/
def components (path : String) : Place :=
  let ps := parts path
  let rest := ps.filter fun p => p ≠ "" && p ≠ "."
  if path.toList.head? = some '/' then "/" :: rest
  else if ps.head? = some "." then "." :: rest
  else rest

/-- **The names of a path**, one step each on the way to where it leads.  The root is written as
the separator, dots count, and empty parts do not. -/
def names (path : String) : List String :=
  let ns := (parts path).filter (· ≠ "")
  if path.toList.head? = some '/' then "/" :: ns else ns

/-! ## 2. A tree of folders and files -/

/-- **A tree of folders and files**: what stands at a place, with all that is below it. -/
inductive Tree where
  | file
  | folder (below : List (String × Tree))
  deriving Repr

namespace Tree

/-- A folder with nothing in it. -/
def empty : Tree := .folder []

/-- Whether a tree is a folder. -/
def isFolder : Tree → Bool
  | .file => false
  | .folder _ => true

/-- What stands in a folder under a name. -/
def child? (t : Tree) (c : String) : Option Tree :=
  match t with
  | .file => none
  | .folder below => Entries.get? c below

/-- A folder with something put under a name. -/
def withChild (t : Tree) (c : String) (new : Tree) : Tree :=
  match t with
  | .file => .folder [(c, new)]
  | .folder below => .folder (Entries.insert c new below)

/-- The tree below a place. -/
def get? (t : Tree) : Place → Option Tree
  | [] => some t
  | c :: p =>
    match t.child? c with
    | some below => below.get? p
    | none => none

/-- A tree with something put at a place. -/
def put (t : Tree) (new : Tree) : Place → Tree
  | [] => new
  | c :: p => t.withChild c (((t.child? c).getD empty).put new p)

/-! ## 3. Going along a path

The working folder is the empty place.  The places above it are folders as well, and so is the
root. -/

/-- The longest name, in bytes. -/
def maxName : Nat := 255

/-- The length in bytes from which on a path is refused. -/
def maxPath : Nat := 4096

/-- Whether a place is a folder in any tree. -/
def isAbove (p : Place) : Bool := p.all (· = "..") || p = ["/"]

/-- Whether there is a folder at a place. -/
def isFolderAt (t : Tree) (p : Place) : Bool :=
  isAbove p || ((t.get? p).map isFolder).getD false

/-- The place above a place. -/
def above (p : Place) : Place :=
  if p = ["/"] then p
  else if p.all (· = "..") then p ++ [".."]
  else p.dropLast

/-- One step along a path. -/
def enter (t : Tree) (p : Place) (c : String) : Except OsError Place :=
  if !t.isFolderAt p then .error .notDirectory
  else if c = "/" then .ok ["/"]
  else if c = "." then .ok p
  else if c = ".." then .ok (above p)
  else if maxName < Text.Utf8.size c then .error .nameTooLong
  else if (t.get? (p ++ [c])).isSome then .ok (p ++ [c])
  else .error .noEntry

/-- Where names lead. -/
def walk (t : Tree) (ns : List String) : Except OsError Place := ns.foldlM t.enter []

/-- Whether names lead to a folder. -/
def leadsToFolder (t : Tree) (ns : List String) : Bool :=
  match t.walk ns with
  | .ok p => !ns.isEmpty && t.isFolderAt p
  | .error _ => false

/-! ## 4. Making folders and files -/

/-- Puts something new at the end of a path. -/
def make (t new : Tree) (ns : List String) : Except OsError Tree :=
  match ns.getLast? with
  | none => .error .noEntry
  | some c => do
    let p ← t.walk ns.dropLast
    match t.enter p c with
    | .ok _ => .error .alreadyExists
    | .error e => if e = .noEntry then .ok (t.put new (p ++ [c])) else .error e

/-- Goes along names from a place on and makes what is missing, as folders: the tree after it,
and the failure, if any. -/
def makeWay (t : Tree) (p : Place) : List String → Tree × Option OsError
  | [] => (t, none)
  | c :: ns =>
    match t.enter p c with
    | .ok p => if t.isFolderAt p then t.makeWay p ns else (t, some .alreadyExists)
    | .error e =>
      if e = .noEntry then (t.put empty (p ++ [c])).makeWay (p ++ [c]) ns else (t, some e)

/-- Makes a folder, or finds one. -/
def makeFolder (t : Tree) (ns : List String) : Except OsError Tree :=
  match t.make empty ns with
  | .ok t => .ok t
  | .error e => if e = .alreadyExists && t.leadsToFolder ns then .ok t else .error e

/-- The failure for a path that holds a zero character. -/
def zeroInName : String := "file name contained an unexpected NUL byte"

/-- Why a path is refused whatever stands there, if it is. -/
def refuses (path : String) : Option String :=
  if path.toList.contains '\x00' then some zeroInName
  else if maxPath ≤ Text.Utf8.size path then some OsError.nameTooLong.message
  else none

/-- Makes a folder at the end of a path; if something on the way is missing, then once more when
the way to its last component has been made. -/
def makeUp (t : Tree) (path : String) : Tree × Option OsError :=
  match t.makeFolder (names path) with
  | .ok t => (t, none)
  | .error e =>
    if e ≠ .noEntry then (t, some e)
    else
      match t.makeWay [] (components path).dropLast with
      | (t, some e) => (t, some e)
      | (t, none) =>
        match t.makeFolder (names path) with
        | .ok t => (t, none)
        | .error e => (t, some e)

/-- **Makes a folder with those above it**: the tree after it, and the failure, if any. -/
def makeAll (t : Tree) (path : String) : Tree × Option String :=
  match refuses path with
  | some e => (t, some e)
  | none =>
    let (t, e) := t.makeUp path
    (t, e.map OsError.message)

/-- Whether a path leads to a folder. -/
def hasFolder (t : Tree) (path : String) : Bool :=
  (refuses path).isNone && t.leadsToFolder (names path)

/-- Makes an empty file, or finds one: the tree after it, and whether that worked. -/
def makeFile (t : Tree) (path : String) : Tree × Bool :=
  if (refuses path).isSome || path.toList.getLast? = some '/' then (t, false)
  else
    match t.make .file (names path) with
    | .ok t => (t, true)
    | .error _ =>
      match t.walk (names path) with
      | .ok p => (t, !t.isFolderAt p)
      | .error _ => (t, false)

end Tree

end Folder

end ControlPlane
