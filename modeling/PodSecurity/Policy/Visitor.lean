import PodSecurity.Policy.Check
import PodSecurity.Policy.Violations

/-! The traversal every container check shares. The visitor is a closure that writes to the
check's local variables; here those variables are a state `σ` the visitor passes on. -/
namespace PodSecurity

variable {σ : Type}

/-- One of the loops of `visitContainers`: the `i`-th container of a collection is visited
with `fldPath.index(i)` when field errors are requested, and with nil otherwise. -/
def visitCollection (opts : Options) (fldPath : PathFn) (visitor : σ → Container → PathFn → σ) :
    Nat → List Container → σ → σ
  | _, [], s => s
  | i, c :: cs, s =>
    visitCollection opts fldPath visitor (i + 1) cs
      (visitor s c (if opts.withFieldErrors then fldPath.index i else none))

def visitContainers (podSpec : PodSpec) (opts : Options) (visitor : σ → Container → PathFn → σ)
    (s : σ) : σ :=
  let s := visitCollection opts initContainersFldPath visitor 0 podSpec.initContainers s
  let s := visitCollection opts containersFldPath visitor 0 podSpec.containers s
  visitCollection opts ephemeralContainersFldPath visitor 0
    (podSpec.ephemeralContainers.map (·.ephemeralContainerCommon)) s

/-- Every container of a pod in traversal order, with its collection and its index there. -/
def podContainers (podSpec : PodSpec) : List (String × Nat × Container) :=
  podSpec.initContainers.enum.map (fun (i, c) => ("initContainers", i, c)) ++
  podSpec.containers.enum.map (fun (i, c) => ("containers", i, c)) ++
  podSpec.ephemeralContainers.enum.map (fun (i, e) => ("ephemeralContainers", i, e.ephemeralContainerCommon))

/-- The containers the checks look at, in traversal order. -/
def allContainers (podSpec : PodSpec) : List Container :=
  podSpec.initContainers ++ podSpec.containers ++ podSpec.ephemeralContainers.map (·.ephemeralContainerCommon)

/-- The path `spec.<collection>[i]`. -/
def containerPath (collection : String) (i : Nat) : Field.Path :=
  ((Field.newPath "spec" []).child collection []).index i

/-- What the visitor is given for the container at `spec.<collection>[i]`. -/
def visitPath (opts : Options) (collection : String) (i : Nat) : PathFn :=
  if opts.withFieldErrors then some fun _ => containerPath collection i else none

theorem visitCollection_eq (opts : Options) (fldPath : PathFn) (visitor : σ → Container → PathFn → σ)
    (n : Nat) (cs : List Container) (s : σ) :
    visitCollection opts fldPath visitor n cs s =
      (cs.enumFrom n).foldl
        (fun s v => visitor s v.2 (if opts.withFieldErrors then fldPath.index v.1 else none)) s := by
  induction cs generalizing n s with
  | nil => rfl
  | cons c cs ih => exact ih (n + 1) _

theorem collection_index (collection : String) (i : Nat) :
    (specPath.child collection []).index i = some fun _ => containerPath collection i := by
  simp [specPath, withPath, PathFn.child, PathFn.index, containerPath]

theorem map_enumFrom_snd {α β : Type} (f : α → β) (n : Nat) (l : List α) :
    (l.enumFrom n).map (fun x => f x.2) = l.map f := by
  have h := congrArg (List.map f) (List.enumFrom_map_snd n l)
  rwa [List.map_map] at h

theorem podContainers_containers (podSpec : PodSpec) :
    (podContainers podSpec).map (·.2.2) = allContainers podSpec := by
  simp only [podContainers, List.map_append, List.map_map, Function.comp_def, List.enum,
    map_enumFrom_snd (fun c : Container => c), map_enumFrom_snd EphemeralContainer.ephemeralContainerCommon, List.map_id',
    allContainers]

theorem visitContainers_foldl (podSpec : PodSpec) (opts : Options) (visitor : σ → Container → PathFn → σ)
    (s : σ) :
    visitContainers podSpec opts visitor s =
      (podContainers podSpec).foldl (fun s v => visitor s v.2.2 (visitPath opts v.1 v.2.1)) s := by
  simp only [visitContainers, visitCollection_eq, initContainersFldPath, containersFldPath,
    ephemeralContainersFldPath, collection_index, podContainers, List.foldl_append, List.foldl_map,
    List.enum, List.enumFrom_map, visitPath]
  rfl

/-- `visitContainers` calls the visitor once for each container, in traversal order: the
init containers, then the regular ones, then the ephemeral ones seen as Containers. It
passes nil without field errors, and otherwise a function yielding
`spec.<collection>[i]`, `i` counted within the container's own collection. -/
theorem visitContainers_visits (podSpec : PodSpec) (opts : Options)
    (visitor : σ → Container → PathFn → σ) (s : σ) :
    visitContainers podSpec opts visitor s =
      (podContainers podSpec).foldl (fun s v => visitor s v.2.2 (visitPath opts v.1 v.2.1)) s ∧
    (podContainers podSpec).map (·.2.2) = allContainers podSpec :=
  ⟨visitContainers_foldl podSpec opts visitor s, podContainers_containers podSpec⟩

theorem exists_podContainers {podSpec : PodSpec} {c : Container} (mem : c ∈ allContainers podSpec) :
    ∃ v ∈ podContainers podSpec, v.2.2 = c := by
  rw [← podContainers_containers, List.mem_map] at mem
  exact mem

theorem podContainers_collection {podSpec : PodSpec} {v : String × Nat × Container}
    (mem : v ∈ podContainers podSpec) : v.1 ≠ "" := by
  simp only [podContainers, List.mem_append, List.mem_map] at mem
  rcases mem with (⟨_, _, rfl⟩ | ⟨_, _, rfl⟩) | ⟨_, _, rfl⟩ <;> simp

theorem visitPath_eq (opts : Options) (collection : String) (i : Nat) :
    visitPath opts collection i = if opts.withFieldErrors then withPath (containerPath collection i) else none := by
  simp [visitPath, withPath, containerPath]

theorem resolve_visitPath (opts : Options) (collection : String) (i : Nat) :
    (visitPath opts collection i).resolve = if opts.withFieldErrors then some (containerPath collection i) else none := by
  cases h : opts.withFieldErrors <;> simp [visitPath, PathFn.resolve, h]

theorem toString_containerPath {collection : String} (named : collection ≠ "") (i : Nat) :
    Field.Path.toString (containerPath collection i) = "spec." ++ collection ++ "[" ++ toString i ++ "]" := by
  rw [containerPath, Field.toString_index (by simp), Field.toString_child (by simp) _ named,
    Field.toString_root _ (by decide)]
  rfl

theorem toString_securityContext {collection : String} (named : collection ≠ "") (i : Nat) {field : String}
    (hf : field ≠ "") :
    Field.Path.toString ((containerPath collection i).child "securityContext" [field]) =
      "spec." ++ collection ++ "[" ++ toString i ++ "].securityContext." ++ field := by
  rw [Field.Path.child_cons, Field.toString_child (by simp) _ hf,
    Field.toString_child (by simp [containerPath]) _ (by decide), toString_containerPath named]
  simp only [String.append_assoc]
  rfl

/-- The error a check's forbidden(...).withBadValue(v) over the visit path gives: the
forbidden error at the eager path with field errors, nothing without. -/
theorem call_forbidden_visitPath (opts : Options) (collection : String) (i : Nat) (steps : List PathStep)
    (v : Field.BadValue) :
    ((forbidden ((visitPath opts collection i).steps steps)).withBadValue v).call =
      if opts.withFieldErrors then
        some ⟨.forbidden, Field.Path.toString ((containerPath collection i).steps steps), v, ""⟩
      else none := by
  have present : containerPath collection i ≠ [] := by simp [containerPath]
  rw [visitPath_eq]
  cases opts.withFieldErrors
  · simp [forbidden, ErrFn.withBadValue]
  · exact ErrFn.call_of_resolve (forbidden_resolve_steps (resolve_withPath present) present steps v)

namespace Eager

/-- Modelled from the spec: the form of visitContainers that privilegedV1Dot0 and the
user-namespace procMountV1Dot0 call is not under src/; it hands the visitor the container's
`*field.Path` itself, nil without field errors. -/
def visitContainers (podSpec : PodSpec) (opts : Options) (visitor : σ → Container → Field.Path → σ)
    (s : σ) : σ :=
  PodSecurity.visitContainers podSpec opts (fun s c pathFn => visitor s c (pathFn.resolve.getD [])) s

/-- Modelled from the spec: the forbidden that takes a `*field.Path` is not under src/; like
the PathFn one it gives nil for nil. -/
def forbidden (path : Field.Path) : ErrFn := PodSecurity.forbidden (withPath path)

/-- Modelled from the spec: withBadValue as a function of the ErrFn. -/
def withBadValue (f : ErrFn) (badValue : Field.BadValue) : ErrFn := f.withBadValue badValue

theorem call_forbidden {path : Field.Path} (present : path ≠ []) (v : Field.BadValue) :
    (withBadValue (forbidden path) v).call = some ⟨.forbidden, Field.Path.toString path, v, ""⟩ :=
  ErrFn.call_of_resolve (forbidden_resolve_steps (resolve_withPath present) present [] v)

theorem visitContainers_eq (podSpec : PodSpec) (opts : Options) (visitor : σ → Container → Field.Path → σ)
    (s : σ) :
    visitContainers podSpec opts visitor s =
      (podContainers podSpec).foldl (fun s v =>
        visitor s v.2.2 (if opts.withFieldErrors then containerPath v.1 v.2.1 else [])) s := by
  simp only [visitContainers, visitContainers_foldl, resolve_visitPath]
  congr 1
  funext s v
  cases opts.withFieldErrors <;> rfl

end Eager

end PodSecurity
