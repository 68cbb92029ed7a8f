import Mathlib.Data.List.Basic

/-! The field package of apimachinery, as far as the policy checks use it. A `*field.Path`
is a chain of elements with parent pointers; here it is the list of its elements from the
leaf up to the root, so the nil pointer is the empty list and every method works on nil as
the Go one does. A field error stores the path already rendered by `String()`. -/
namespace PodSecurity.Field

/-- One element of a path: a field name, or (with an empty name) a subscript. -/
structure Elem where
  name : String
  index : String
deriving DecidableEq, Repr

/-- A `*field.Path`, leaf first; `[]` is nil. -/
abbrev Path := List Elem

/-- The root from the first name, then one child for each further name. -/
def newPath (name : String) (moreNames : List String) : Path :=
  moreNames.foldl (fun r n => ⟨n, ""⟩ :: r) [⟨name, ""⟩]

/-- A fresh path from the names whose root is hung below `p`. -/
def Path.child (p : Path) (name : String) (moreNames : List String) : Path :=
  newPath name moreNames ++ p

def Path.index (p : Path) (i : Int) : Path := ⟨"", toString i⟩ :: p

def Path.key (p : Path) (key : String) : Path := ⟨"", key⟩ :: p

/-- What `String()` writes for one element; `dot` says whether it has a parent. -/
def Elem.render (e : Elem) (dot : Bool) : String :=
  (if dot ∧ e.name ≠ "" then "." else "") ++ (if e.name ≠ "" then e.name else "[" ++ e.index ++ "]")

/-- `String()`: the elements from the root down, `<nil>` for nil. -/
def Path.toString : Path → String
  | [] => "<nil>"
  | e :: parent => (if parent = [] then "" else Path.toString parent) ++ e.render (parent ≠ [])

inductive ErrorType where
  | forbidden
  | required
deriving DecidableEq, Repr

/-- The dynamic types the checks store in a `BadValue interface{}`. -/
inductive BadValue where
  | str (s : String)
  | int (n : Int)
  | bool (b : Bool)
deriving DecidableEq, Repr

structure Error where
  type : ErrorType
  field : String
  badValue : BadValue
  detail : String
deriving DecidableEq, Repr

def forbidden (field : Path) (detail : String) : Error := ⟨.forbidden, Path.toString field, .str "", detail⟩

def required (field : Path) (detail : String) : Error := ⟨.required, Path.toString field, .str "", detail⟩

theorem newPath_eq (name : String) (moreNames : List String) :
    newPath name moreNames = (moreNames.map fun n => (⟨n, ""⟩ : Elem)).reverse ++ [⟨name, ""⟩] := by
  suffices onto : ∀ l : Path, moreNames.foldl (fun r n => ⟨n, ""⟩ :: r) l =
      (moreNames.map fun n => (⟨n, ""⟩ : Elem)).reverse ++ l from onto _
  induction moreNames with
  | nil => simp
  | cons n ns ih => intro l; simp [ih]

@[simp] theorem newPath_ne_nil (name : String) (moreNames : List String) : newPath name moreNames ≠ [] := by
  simp [newPath_eq]

@[simp] theorem Path.child_ne_nil (p : Path) (name : String) (moreNames : List String) :
    p.child name moreNames ≠ [] := by
  simp [Path.child]

@[simp] theorem Path.index_ne_nil (p : Path) (i : Int) : p.index i ≠ [] := List.cons_ne_nil _ _

@[simp] theorem Path.key_ne_nil (p : Path) (k : String) : p.key k ≠ [] := List.cons_ne_nil _ _

/-- Naming several fields at once is naming them one after another. -/
theorem Path.child_cons (p : Path) (name next : String) (moreNames : List String) :
    p.child name (next :: moreNames) = (p.child name []).child next moreNames := by
  simp [Path.child, newPath_eq]

theorem toString_named {p : Path} (parent : p ≠ []) (name : String) (named : name ≠ "") (index : String) :
    Path.toString (⟨name, index⟩ :: p) = Path.toString p ++ "." ++ name := by
  simp [Path.toString, Elem.render, parent, named, String.append_assoc]

theorem toString_subscript {p : Path} (parent : p ≠ []) (index : String) :
    Path.toString (⟨"", index⟩ :: p) = Path.toString p ++ "[" ++ index ++ "]" := by
  simp [Path.toString, Elem.render, parent, String.append_assoc]

theorem toString_root (name : String) (named : name ≠ "") : Path.toString (newPath name []) = name := by
  simp [newPath, Path.toString, Elem.render, named]

theorem toString_child {p : Path} (parent : p ≠ []) (name : String) (named : name ≠ "") :
    Path.toString (p.child name []) = Path.toString p ++ "." ++ name :=
  toString_named parent name named ""

theorem toString_index {p : Path} (parent : p ≠ []) (i : Int) :
    Path.toString (p.index i) = Path.toString p ++ "[" ++ toString i ++ "]" :=
  toString_subscript parent _

theorem toString_key {p : Path} (parent : p ≠ []) (k : String) :
    Path.toString (p.key k) = Path.toString p ++ "[" ++ k ++ "]" :=
  toString_subscript parent k

end PodSecurity.Field
