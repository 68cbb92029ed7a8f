import PodSecurity.Policy.Paths

/-! The accumulator a check records its violations in, and the deferred error constructors.
An error function is a closure over a PathFn; it is nil when the PathFn is, and `Add` calls
the error functions only when field errors were requested. -/
namespace PodSecurity

/-- `type ErrFn func() *field.Error`: nil, or a deferred constructor that may itself give
nil. Its body runs in `m`; the checks run it in `Id`. -/
abbrev ErrFn (m : Type → Type := Id) := Option (Unit → m (Option Field.Error))

def ErrFn.withBadValue (f : ErrFn) (badValue : Field.BadValue) : ErrFn :=
  match f with
  | none => none
  | some g => some fun _ =>
    match (g () : Option Field.Error) with
    | none => none
    | some err => some { err with badValue := badValue }

def forbidden (pathFn : PathFn) : ErrFn :=
  match pathFn with
  | none => none
  | some f => some fun _ => let path := f (); if path = [] then none else some (Field.forbidden path "")

def required (pathFn : PathFn) : ErrFn :=
  match pathFn with
  | none => none
  | some f => some fun _ => let path := f (); if path = [] then none else some (Field.required path "")

/-- What calling the function gives; `none` for the nil function. -/
def ErrFn.resolve : ErrFn → Option (Option Field.Error)
  | none => none
  | some g => some (g ())

/-- The error `Add` keeps from one function: nothing for nil, or for a nil result. -/
def ErrFn.call : ErrFn → Option Field.Error
  | none => none
  | some g => g ()

@[simp] theorem ErrFn.call_none : ErrFn.call none = none := rfl

theorem ErrFn.call_of_resolve {f : ErrFn} {e : Option Field.Error} (yields : f.resolve = some e) :
    f.call = e := by
  cases f <;> simp_all [ErrFn.resolve, ErrFn.call]

theorem forbidden_resolve_steps {pathFn : PathFn} {p : Field.Path} (yields : pathFn.resolve = some p)
    (present : p ≠ []) (steps : List PathStep) (v : Field.BadValue) :
    ((forbidden (pathFn.steps steps)).withBadValue v).resolve =
      some (some ⟨.forbidden, Field.Path.toString (p.steps steps), v, ""⟩) := by
  have built := PathFn.resolve_steps yields present steps
  cases h : pathFn.steps steps with
  | none => simp [h, PathFn.resolve] at built
  | some f =>
    simp only [h, PathFn.resolve, Option.some.injEq] at built
    simp [forbidden, ErrFn.withBadValue, ErrFn.resolve, built, Field.Path.steps_ne_nil p present,
      Field.forbidden]

theorem required_resolve_steps {pathFn : PathFn} {p : Field.Path} (yields : pathFn.resolve = some p)
    (present : p ≠ []) (steps : List PathStep) (v : Field.BadValue) :
    ((required (pathFn.steps steps)).withBadValue v).resolve =
      some (some ⟨.required, Field.Path.toString (p.steps steps), v, ""⟩) := by
  have built := PathFn.resolve_steps yields present steps
  cases h : pathFn.steps steps with
  | none => simp [h, PathFn.resolve] at built
  | some f =>
    simp only [h, PathFn.resolve, Option.some.injEq] at built
    simp [required, ErrFn.withBadValue, ErrFn.resolve, built, Field.Path.steps_ne_nil p present,
      Field.required]

@[simp] theorem forbidden_steps_none (steps : List PathStep) (v : Field.BadValue) :
    (forbidden (PathFn.steps none steps)).withBadValue v = none := by
  simp [forbidden, ErrFn.withBadValue]

/-- The lazy builder agrees with the eager one: composed on a non-nil path, the PathFn
yields the eager path and the error functions over it yield their errors there; on nil,
nothing is ever built. -/
theorem lazy_path_agrees (p : Field.Path) (steps : List PathStep) (v : Field.BadValue) :
    (p ≠ [] →
      ((withPath p).steps steps).resolve = some (p.steps steps) ∧
      ((forbidden ((withPath p).steps steps)).withBadValue v).resolve =
        some (some ⟨.forbidden, Field.Path.toString (p.steps steps), v, ""⟩) ∧
      ((required ((withPath p).steps steps)).withBadValue v).resolve =
        some (some ⟨.required, Field.Path.toString (p.steps steps), v, ""⟩)) ∧
    PathFn.steps none steps = none ∧ (withPath []).steps steps = none ∧
    forbidden none = none ∧ required none = none ∧ ErrFn.withBadValue none v = none := by
  refine ⟨fun present => ?_, PathFn.steps_none steps, PathFn.steps_none steps, rfl, rfl, rfl⟩
  have yields := resolve_withPath present
  exact ⟨PathFn.resolve_steps yields present steps, forbidden_resolve_steps yields present steps v,
    required_resolve_steps yields present steps v⟩

theorem lazy_path_agrees_procMount :
    let p := Field.newPath "spec" []
    let steps := [PathStep.child "containers" [], .index 3, .child "securityContext" ["procMount"]]
    p ≠ [] ∧
      ((withPath p).steps steps).resolve = some (p.steps steps) ∧
      ((forbidden ((withPath p).steps steps)).withBadValue (.str "Unmasked")).resolve =
        some (some ⟨.forbidden, Field.Path.toString (p.steps steps), .str "Unmasked", ""⟩) ∧
      ((required ((withPath p).steps steps)).withBadValue (.str "Unmasked")).resolve =
        some (some ⟨.required, Field.Path.toString (p.steps steps), .str "Unmasked", ""⟩) :=
  ⟨by simp, (lazy_path_agrees _ _ _).1 (by simp)⟩

/-- The accumulator of one check. `errs` is set exactly when field errors are requested:
`NewViolations` sets it so and `Add` keeps it, so `Add` never writes through a nil `errs`.
Go's `Data()` and `Errs()` return the fields `data` and `errs`. -/
structure Violations where
  data : List String
  errs : Option (List Field.Error)
  withFieldErrors : Bool
  errs_present : errs.isSome = withFieldErrors

def newViolations (withFieldErrors : Bool) : Violations :=
  ⟨[], if withFieldErrors then some [] else none, withFieldErrors, by cases withFieldErrors <;> rfl⟩

/-- `*v.errs = append(*v.errs, errs...)`. -/
def Violations.pushErrs (v : Violations) (errs : List Field.Error) : Violations :=
  ⟨v.data, v.errs.map (· ++ errs), v.withFieldErrors, by simp [v.errs_present]⟩

def Violations.appendData (v : Violations) (data : List String) : Violations :=
  ⟨v.data ++ data, v.errs, v.withFieldErrors, v.errs_present⟩

/-- One pass of the loop in `Add`: call a non-nil function, keep a non-nil result. -/
def Violations.addErr [Monad m] (v : Violations) : ErrFn m → m Violations
  | none => pure v
  | some f => do
    match ← f () with
    | none => pure v
    | some err => pure (v.pushErrs [err])

def Violations.add [Monad m] (v : Violations) (data : String) (errFns : List (ErrFn m)) : m Violations :=
  let v := v.appendData [data]
  if v.withFieldErrors then errFns.foldlM Violations.addErr v else pure v

def Violations.empty (v : Violations) : Bool := v.data.length == 0

def Violations.len (v : Violations) : Nat := v.data.length

/-- A sequence of `Add` calls, each a label with its error functions. -/
def Violations.addAll [Monad m] (v : Violations) (calls : List (String × List (ErrFn m))) : m Violations :=
  calls.foldlM (fun v call => v.add call.1 call.2) v

theorem Violations.ext {v w : Violations} (data : v.data = w.data) (errs : v.errs = w.errs)
    (flag : v.withFieldErrors = w.withFieldErrors) : v = w := by
  cases v; cases w; cases data; cases errs; cases flag; rfl

@[simp] theorem newViolations_data (w : Bool) : (newViolations w).data = [] := rfl
@[simp] theorem newViolations_errs (w : Bool) :
    (newViolations w).errs = if w then some [] else none := rfl
@[simp] theorem newViolations_withFieldErrors (w : Bool) : (newViolations w).withFieldErrors = w := rfl
@[simp] theorem Violations.pushErrs_data (v : Violations) (es : List Field.Error) :
    (v.pushErrs es).data = v.data := rfl
@[simp] theorem Violations.pushErrs_errs (v : Violations) (es : List Field.Error) :
    (v.pushErrs es).errs = v.errs.map (· ++ es) := rfl
@[simp] theorem Violations.pushErrs_withFieldErrors (v : Violations) (es : List Field.Error) :
    (v.pushErrs es).withFieldErrors = v.withFieldErrors := rfl
@[simp] theorem Violations.appendData_data (v : Violations) (data : List String) :
    (v.appendData data).data = v.data ++ data := rfl
@[simp] theorem Violations.appendData_errs (v : Violations) (data : List String) :
    (v.appendData data).errs = v.errs := rfl
@[simp] theorem Violations.appendData_withFieldErrors (v : Violations) (data : List String) :
    (v.appendData data).withFieldErrors = v.withFieldErrors := rfl

@[simp] theorem Violations.appendData_nil (v : Violations) : v.appendData [] = v :=
  Violations.ext (by simp) rfl rfl

@[simp] theorem Violations.pushErrs_nil (v : Violations) : v.pushErrs [] = v :=
  Violations.ext rfl (by simp) rfl

theorem Violations.appendData_appendData (v : Violations) (a b : List String) :
    (v.appendData a).appendData b = v.appendData (a ++ b) :=
  Violations.ext (by simp) rfl rfl

theorem Violations.pushErrs_pushErrs (v : Violations) (a b : List Field.Error) :
    (v.pushErrs a).pushErrs b = v.pushErrs (a ++ b) :=
  Violations.ext rfl (by simp [Function.comp_def]) rfl

theorem Violations.pushErrs_appendData (v : Violations) (es : List Field.Error) (data : List String) :
    (v.pushErrs es).appendData data = (v.appendData data).pushErrs es := rfl

theorem Violations.errs_of_off (v : Violations) (off : v.withFieldErrors = false) : v.errs = none := by
  simpa [off] using v.errs_present

theorem Violations.pushErrs_of_off (v : Violations) (off : v.withFieldErrors = false)
    (es : List Field.Error) : v.pushErrs es = v :=
  Violations.ext rfl (by simp [v.errs_of_off off]) rfl

/-- In `Id` one pass of the loop appends what the function gives, if anything. -/
theorem Violations.addErr_id (v : Violations) (f : ErrFn) :
    (v.addErr f : Id Violations) = v.pushErrs f.call.toList := by
  rcases f with _ | g
  · apply Violations.ext <;> simp [Violations.addErr, ErrFn.call]
  · show (match (g () : Option Field.Error) with | none => v | some err => v.pushErrs [err]) = _
    cases h : (g () : Option Field.Error) <;> apply Violations.ext <;> simp [ErrFn.call, h]

theorem Violations.foldlM_addErr_id (v : Violations) (errFns : List ErrFn) :
    (errFns.foldlM Violations.addErr v : Id Violations) = v.pushErrs (errFns.filterMap ErrFn.call) := by
  induction errFns generalizing v with
  | nil => apply Violations.ext <;> simp
  | cons f rest ih =>
    rw [List.foldlM_cons, Id.bind_eq, Violations.addErr_id, ih]
    apply Violations.ext <;> cases h : f.call <;> simp [List.filterMap_cons, h, Function.comp_def]

/-- `Add` in `Id`: the label goes onto `data` and the errors of the functions onto `errs`
(a no-op without field errors, where `errs` is nil). -/
theorem Violations.add_id (v : Violations) (data : String) (errFns : List ErrFn) :
    (v.add data errFns : Id Violations) = (v.appendData [data]).pushErrs (errFns.filterMap ErrFn.call) := by
  unfold Violations.add
  cases hw : v.withFieldErrors
  · simp only [appendData_withFieldErrors, hw, Bool.false_eq_true, ↓reduceIte, Id.pure_eq]
    exact ((v.appendData [data]).pushErrs_of_off (by simp [hw]) _).symm
  · simp only [appendData_withFieldErrors, hw, ↓reduceIte]
    exact Violations.foldlM_addErr_id _ errFns

theorem Violations.addAll_id (v : Violations) (calls : List (String × List ErrFn)) :
    (v.addAll calls : Id Violations) =
      (v.appendData (calls.map Prod.fst)).pushErrs (calls.flatMap fun call => call.2.filterMap ErrFn.call) := by
  induction calls generalizing v with
  | nil => apply Violations.ext <;> simp [Violations.addAll]
  | cons call rest ih =>
    show ((v.add call.1 call.2 : Id Violations).addAll rest : Id Violations) = _
    rw [Violations.add_id, ih]
    apply Violations.ext <;> simp [Function.comp_def]

/-- Without field errors a run of `Add` calls is pure in any monad: it appends the labels
and calls none of the error functions. -/
theorem Violations.addAll_off [Monad m] [LawfulMonad m] (v : Violations) (off : v.withFieldErrors = false)
    (calls : List (String × List (ErrFn m))) :
    v.addAll calls = pure (v.appendData (calls.map Prod.fst)) := by
  induction calls generalizing v with
  | nil => exact congrArg pure (Violations.ext (by simp) rfl rfl)
  | cons call rest ih =>
    have first : v.add call.1 call.2 = pure (v.appendData [call.1]) := by
      simp [Violations.add, off]
    rw [Violations.addAll, List.foldlM_cons, first, pure_bind]
    rw [← Violations.addAll, ih _ (by simp [off])]
    exact congrArg pure (Violations.ext (by simp) rfl rfl)

/-- Every run of `Add` calls from `NewViolations`: the labels in call order, and the errors
of the non-nil functions in call and argument order exactly when field errors are on;
without them no error function runs, in whatever monad it runs. -/
theorem newViolations_addAll (w : Bool) (calls : List (String × List ErrFn)) :
    (let v : Violations := (newViolations w).addAll calls;
      v.data = calls.map Prod.fst ∧ v.len = calls.length ∧ (v.empty = true ↔ calls = []) ∧
      v.errs = if w then some (calls.flatMap fun call => call.2.filterMap ErrFn.call) else none) ∧
    ∀ (m : Type → Type) [Monad m] [LawfulMonad m] (calls : List (String × List (ErrFn m))),
      (newViolations false).addAll calls = pure ((newViolations false).appendData (calls.map Prod.fst)) := by
  refine ⟨?_, fun m _ _ calls => Violations.addAll_off _ rfl calls⟩
  simp only [Violations.addAll_id, Violations.pushErrs_data, Violations.appendData_data,
    newViolations_data, List.nil_append, Violations.len, Violations.empty, Violations.pushErrs_errs,
    Violations.appendData_errs, newViolations_errs]
  refine ⟨trivial, List.length_map _ _, by simp, by cases w <;> simp⟩

end PodSecurity
