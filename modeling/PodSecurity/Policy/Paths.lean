import PodSecurity.Field

/-! Lazy field paths. A `PathFn` is nil or a closure that builds a path when called; the
composition methods build a closure over the parent and return nil for a nil parent, so
without field errors no path is ever built. -/
namespace PodSecurity

/-- `type PathFn func() *field.Path`: `none` is the nil function. -/
abbrev PathFn := Option (Unit → Field.Path)

def withPath (path : Field.Path) : PathFn :=
  if path = [] then none else some fun _ => path

def PathFn.index (parent : PathFn) (i : Int) : PathFn :=
  match parent with
  | none => none
  | some f => some fun _ => let p := f (); if p = [] then [] else p.index i

def PathFn.child (parent : PathFn) (name : String) (moreNames : List String) : PathFn :=
  match parent with
  | none => none
  | some f => some fun _ => let p := f (); if p = [] then [] else p.child name moreNames

def PathFn.key (parent : PathFn) (key : String) : PathFn :=
  match parent with
  | none => none
  | some f => some fun _ => let p := f (); if p = [] then [] else p.key key

/-- What calling the function gives; `none` for the nil function, which is never called. -/
def PathFn.resolve : PathFn → Option Field.Path
  | none => none
  | some f => some (f ())

def annotationsPath : PathFn := withPath (Field.newPath "metadata" ["annotations"])
def specPath : PathFn := withPath (Field.newPath "spec" [])
def initContainersFldPath : PathFn := specPath.child "initContainers" []
def containersFldPath : PathFn := specPath.child "containers" []
def ephemeralContainersFldPath : PathFn := specPath.child "ephemeralContainers" []
def securityContextPath : PathFn := specPath.child "securityContext" []
def seLinuxOptionsTypePath : PathFn := securityContextPath.child "seLinuxOptions" ["type"]
def seLinuxOptionsUserPath : PathFn := securityContextPath.child "seLinuxOptions" ["user"]
def seLinuxOptionsRolePath : PathFn := securityContextPath.child "seLinuxOptions" ["role"]

/-- One composition step, as `child`, `index` and `key` take it. -/
inductive PathStep where
  | child (name : String) (moreNames : List String)
  | index (i : Int)
  | key (k : String)

def PathFn.step (pathFn : PathFn) : PathStep → PathFn
  | .child name moreNames => pathFn.child name moreNames
  | .index i => pathFn.index i
  | .key k => pathFn.key k

/-- The same step on an eager path. -/
def Field.Path.step (p : Field.Path) : PathStep → Field.Path
  | .child name moreNames => p.child name moreNames
  | .index i => p.index i
  | .key k => p.key k

def PathFn.steps (pathFn : PathFn) (steps : List PathStep) : PathFn := steps.foldl PathFn.step pathFn

def Field.Path.steps (p : Field.Path) (steps : List PathStep) : Field.Path := steps.foldl Field.Path.step p

@[simp] theorem Field.Path.step_ne_nil (p : Field.Path) (s : PathStep) : p.step s ≠ [] := by
  cases s <;> simp [Field.Path.step]

theorem Field.Path.steps_ne_nil (p : Field.Path) (present : p ≠ []) (steps : List PathStep) :
    p.steps steps ≠ [] := by
  induction steps generalizing p with
  | nil => exact present
  | cons s rest ih => exact ih _ (Field.Path.step_ne_nil p s)

@[simp] theorem withPath_nil : withPath [] = none := rfl

theorem resolve_withPath {p : Field.Path} (present : p ≠ []) : (withPath p).resolve = some p := by
  simp [withPath, present, PathFn.resolve]

@[simp] theorem PathFn.step_none (s : PathStep) : PathFn.step none s = none := by
  cases s <;> rfl

theorem PathFn.resolve_step (pathFn : PathFn) (s : PathStep) :
    (pathFn.step s).resolve = pathFn.resolve.map fun p => if p = [] then [] else Field.Path.step p s := by
  cases pathFn <;> cases s <;> rfl

/-- A nil PathFn stays nil through any composition. -/
@[simp] theorem PathFn.steps_none (steps : List PathStep) : PathFn.steps none steps = none := by
  induction steps with
  | nil => rfl
  | cons s rest ih => simpa [PathFn.steps] using ih

/-- A PathFn that yields a non-nil path follows the eager builder step for step. -/
theorem PathFn.resolve_steps {pathFn : PathFn} {p : Field.Path} (yields : pathFn.resolve = some p)
    (present : p ≠ []) (steps : List PathStep) : (pathFn.steps steps).resolve = some (p.steps steps) := by
  induction steps generalizing pathFn p with
  | nil => exact yields
  | cons s rest ih =>
    have first : (pathFn.step s).resolve = some (p.step s) := by
      simp [PathFn.resolve_step, yields, present]
    exact ih first (Field.Path.step_ne_nil p s)

end PodSecurity
