import PodSecurity.Policy.Check

/-! The framework the checks plug into: a Check is an id, a level and versioned
implementations; the registry holds the checks in registration order; the resolver picks
the implementation for a policy version; the evaluator runs the checks of a level; the
aggregator folds their results into one verdict. Only the checks' registrations are under
src/; this module is modelled from the spec. -/
namespace PodSecurity

/-- Modelled from the spec: api.Level is not under src/; the levels are ordered
privileged < baseline < restricted. -/
inductive Level where
  | privileged
  | baseline
  | restricted
deriving DecidableEq, Repr

/-- The strictness of a level. -/
def Level.rank : Level → Nat
  | .privileged => 0
  | .baseline => 1
  | .restricted => 2

instance : LE Level := ⟨fun a b => a.rank ≤ b.rank⟩

instance (a b : Level) : Decidable (a ≤ b) := inferInstanceAs (Decidable (a.rank ≤ b.rank))

/-- Modelled from the spec: api.Version is not under src/; it is a major.minor policy
schema version, ordered by major and then minor. -/
structure Version where
  major : Nat
  minor : Nat
deriving DecidableEq, Repr

/-- Modelled from the spec: api.MajorMinorVersion. -/
def majorMinorVersion (major minor : Nat) : Version := ⟨major, minor⟩

instance : LE Version := ⟨fun a b => a.major < b.major ∨ a.major = b.major ∧ a.minor ≤ b.minor⟩

instance : LT Version := ⟨fun a b => a.major < b.major ∨ a.major = b.major ∧ a.minor < b.minor⟩

instance (a b : Version) : Decidable (a ≤ b) :=
  inferInstanceAs (Decidable (a.major < b.major ∨ a.major = b.major ∧ a.minor ≤ b.minor))

instance (a b : Version) : Decidable (a < b) :=
  inferInstanceAs (Decidable (a.major < b.major ∨ a.major = b.major ∧ a.minor < b.minor))

theorem Version.le_def (a b : Version) : a ≤ b ↔ a.major < b.major ∨ a.major = b.major ∧ a.minor ≤ b.minor :=
  Iff.rfl

theorem Version.lt_def (a b : Version) : a < b ↔ a.major < b.major ∨ a.major = b.major ∧ a.minor < b.minor :=
  Iff.rfl

theorem Version.le_of_lt {a b : Version} (lt : a < b) : a ≤ b := by
  rw [Version.lt_def] at lt; rw [Version.le_def]; omega

theorem Version.le_refl (a : Version) : a ≤ a := by
  rw [Version.le_def]; omega

theorem Version.not_le_of_lt {a b : Version} (lt : a < b) : ¬b ≤ a := by
  rw [Version.lt_def] at lt; rw [Version.le_def]; omega

/-- Modelled from the spec: the evaluation function of a VersionedCheck, as withOptions
hands it over. -/
abbrev CheckPodFn := ObjectMeta → PodSpec → Options → CheckResult

/-- Modelled from the spec: withOptions is not under src/; it passes the options on. -/
def withOptions (checkPod : ObjectMeta → PodSpec → Options → CheckResult) : CheckPodFn := checkPod

structure VersionedCheck where
  minimumVersion : Version
  checkPod : CheckPodFn

structure Check where
  id : String
  level : Level
  versions : List VersionedCheck

/-- The registration-time invariant: the versions' minimum versions strictly increase. -/
def Check.Valid (check : Check) : Prop :=
  check.versions.Pairwise fun a b => a.minimumVersion < b.minimumVersion

instance (check : Check) : Decidable check.Valid := inferInstanceAs (Decidable (List.Pairwise _ _))

/-- The registry: the checks in registration order, each of them valid. -/
structure Registry where
  checks : List Check
  valid : ∀ check ∈ checks, check.Valid

def Registry.empty : Registry := ⟨[], by simp⟩

/-- Modelled from the spec: addCheck is not under src/. It appends the check, keeping
registration order, and refuses one whose versions do not strictly increase; that failure
is fatal to process start, never deferred to evaluation. -/
def Registry.addCheck (registry : Registry) (check : Check) : Option Registry :=
  if valid : check.Valid then
    some ⟨registry.checks ++ [check], by
      simpa [or_imp, forall_and] using ⟨registry.valid, valid⟩⟩
  else none

/-- Modelled from the spec: the version resolver scans the versions in ascending order
and keeps the last one whose minimum version does not exceed the target. -/
def Check.resolve (check : Check) (version : Version) : Option VersionedCheck :=
  check.versions.foldl (fun found e => if e.minimumVersion ≤ version then some e else found) none

/-- Modelled from the spec: the evaluator runs the checks at or below the level, in
registration order; a check with no version for the target passes. -/
def evaluate (checks : List Check) (level : Level) (version : Version) (podMetadata : ObjectMeta)
    (podSpec : PodSpec) (opts : Options) : List CheckResult :=
  (checks.filter fun check => check.level ≤ level).map fun check =>
    match check.resolve version with
    | some versioned => versioned.checkPod podMetadata podSpec opts
    | none => { allowed := true }

/-- The aggregated outcome over the checks of a level. -/
structure Verdict where
  allowed : Bool
  reasons : List String
  details : List String
  errs : List Field.Error
deriving DecidableEq, Repr

/-- Modelled from the spec: the level aggregator. Allowed is the conjunction; the failing
results give the reasons (duplicates dropped, first seen first), the details and the
concatenated field errors, in their order. -/
def aggregate (results : List CheckResult) : Verdict :=
  let failing := results.filter (!·.allowed)
  { allowed := results.all (·.allowed)
    reasons := (failing.map (·.forbiddenReason)).eraseDups
    details := failing.map (·.forbiddenDetail)
    errs := failing.flatMap (·.errList.getD []) }

/-- Two verdicts that agree but for the order of their field errors. -/
def Verdict.SameUpToErrorOrder (v₁ v₂ : Verdict) : Prop :=
  v₁.allowed = v₂.allowed ∧ v₁.reasons = v₂.reasons ∧ v₁.details = v₂.details ∧
    v₁.errs.Perm v₂.errs

/-- What every result must satisfy: a pass carries no reason, detail or error list, and
without field errors there is no error list. -/
def CheckResult.Sound (opts : Options) (result : CheckResult) : Prop :=
  (result.allowed = true → result.forbiddenReason = "" ∧ result.forbiddenDetail = "" ∧ result.errList = none) ∧
    (opts.withFieldErrors = false → result.errList = none)

/-- The shape every check's tail has: a failing result built from the error list, or a pass. -/
theorem sound_of_ite {opts : Options} {fails : Prop} [Decidable fails] {reason detail : String}
    {errList : Option (List Field.Error)} (off : opts.withFieldErrors = false → errList = none) :
    CheckResult.Sound opts
      (if fails then { allowed := false, forbiddenReason := reason, forbiddenDetail := detail, errList := errList }
      else { allowed := true }) := by
  split
  · exact ⟨nofun, off⟩
  · exact ⟨fun _ => ⟨rfl, rfl, rfl⟩, fun _ => rfl⟩

/-- With field errors, a result fails exactly when it reports a non-empty error list. -/
def CheckResult.Reported (result : CheckResult) : Prop :=
  result.allowed = false ↔ ∃ errs, result.errList = some errs ∧ errs ≠ []

theorem reported_of_ite {fails : Prop} [Decidable fails] {reason detail : String} {errs : List Field.Error}
    (nonempty : fails → errs ≠ []) :
    CheckResult.Reported
      (if fails then { allowed := false, forbiddenReason := reason, forbiddenDetail := detail, errList := some errs }
      else { allowed := true }) := by
  split
  · exact iff_of_true rfl ⟨errs, rfl, nonempty ‹_›⟩
  · exact iff_of_false (by decide) (by simp)

/-- When every result reports its failure, the verdict refuses exactly when its combined
error list is not empty. -/
theorem aggregate_allowed_eq_false_iff {results : List CheckResult} (reported : ∀ r ∈ results, r.Reported) :
    (aggregate results).allowed = false ↔ (aggregate results).errs ≠ [] := by
  have carries : ∀ r ∈ results, r.allowed = false → r.errList.getD [] ≠ [] := fun r mem fails => by
    obtain ⟨errs, some_, nonempty⟩ := (reported r mem).mp fails
    simpa [some_] using nonempty
  simp only [aggregate, List.all_eq_false, ne_eq, List.flatMap_eq_nil_iff, List.mem_filter, not_forall,
    Bool.not_eq_true', Bool.not_eq_eq_eq_not, Bool.not_true]
  exact ⟨fun ⟨r, mem, fails⟩ => ⟨r, ⟨mem, by simpa using fails⟩, carries r mem (by simpa using fails)⟩,
    fun ⟨r, ⟨mem, fails⟩, _⟩ => ⟨r, mem, by simpa using fails⟩⟩

/-- The resolver's scan computes the last version at or below the target. -/
theorem resolve_scan (version : Version) (versions : List VersionedCheck) (found : Option VersionedCheck) :
    versions.foldl (fun found e => if e.minimumVersion ≤ version then some e else found) found =
      ((versions.filter fun e => e.minimumVersion ≤ version).getLast?).or found := by
  induction versions generalizing found with
  | nil => rfl
  | cons e rest ih =>
    rw [List.foldl_cons, ih]
    by_cases le : e.minimumVersion ≤ version
    · simp only [if_pos le, List.filter_cons, le, decide_True, if_true, List.getLast?_cons]
      cases (rest.filter fun e => e.minimumVersion ≤ version).getLast? <;> rfl
    · simp [le, List.filter_cons]

theorem resolve_eq_getLast? (check : Check) (version : Version) :
    check.resolve version = (check.versions.filter fun e => e.minimumVersion ≤ version).getLast? := by
  rw [Check.resolve, resolve_scan]
  cases (check.versions.filter fun e => e.minimumVersion ≤ version).getLast? <;> rfl

/-- Version resolution on a valid check selects the entry with the greatest minimum
version at or below the target. -/
theorem resolve_eq_some_iff {check : Check} (valid : check.Valid) (version : Version) (e : VersionedCheck) :
    check.resolve version = some e ↔
      e ∈ check.versions ∧ e.minimumVersion ≤ version ∧
        ∀ e' ∈ check.versions, e'.minimumVersion ≤ version → e'.minimumVersion ≤ e.minimumVersion := by
  rw [resolve_eq_getLast?, List.getLast?_eq_some_iff]
  constructor
  · rintro ⟨pre, split⟩
    have sorted := split ▸ valid.filter (fun e : VersionedCheck => decide (e.minimumVersion ≤ version))
    have mem : e ∈ check.versions.filter fun e => e.minimumVersion ≤ version := by simp [split]
    simp only [List.mem_filter, decide_eq_true_eq] at mem
    refine ⟨mem.1, mem.2, fun e' mem' le' => ?_⟩
    have : e' ∈ pre ++ [e] := split ▸ List.mem_filter.mpr ⟨mem', decide_eq_true le'⟩
    rcases List.mem_append.mp this with before | last
    · exact Version.le_of_lt (List.pairwise_append.mp sorted |>.2.2 e' before e (List.mem_singleton_self e))
    · rw [List.mem_singleton.mp last]; exact Version.le_refl _
  · rintro ⟨mem, le, greatest⟩
    obtain ⟨pre, post, split⟩ := List.append_of_mem mem
    rw [Check.Valid, split] at valid
    rw [split] at greatest ⊢
    have later := (List.pairwise_append.mp valid).2.1
    rw [List.pairwise_cons] at later
    have skipped : (post.filter fun e => e.minimumVersion ≤ version) = [] :=
      List.filter_eq_nil_iff.mpr fun e' mem' le' =>
        Version.not_le_of_lt (later.1 e' mem') (greatest e' (by simp [mem']) (of_decide_eq_true le'))
    exact ⟨pre.filter fun e => e.minimumVersion ≤ version, by simp [List.filter_cons, le, skipped]⟩

theorem resolve_eq_some_iff_between_versions :
    let pass : CheckPodFn := fun _ _ _ => { allowed := true }
    let check : Check := ⟨"example", .baseline,
      [⟨majorMinorVersion 1 0, pass⟩, ⟨majorMinorVersion 1 5, pass⟩, ⟨majorMinorVersion 2 0, pass⟩]⟩
    let e : VersionedCheck := ⟨majorMinorVersion 1 5, pass⟩
    check.Valid ∧
      (check.resolve (majorMinorVersion 1 7) = some e ↔
        e ∈ check.versions ∧ e.minimumVersion ≤ majorMinorVersion 1 7 ∧
          ∀ e' ∈ check.versions, e'.minimumVersion ≤ majorMinorVersion 1 7 → e'.minimumVersion ≤ e.minimumVersion) :=
  ⟨by decide, resolve_eq_some_iff (by decide) _ _⟩

/-- Every result of the evaluator is a pass for a check without a version for the target,
or what one version of a check of the list returns. -/
theorem mem_evaluate {checks : List Check} {level : Level} {version : Version} {podMetadata : ObjectMeta}
    {podSpec : PodSpec} {opts : Options} {r : CheckResult}
    (mem : r ∈ evaluate checks level version podMetadata podSpec opts) :
    r = { allowed := true } ∨
      ∃ check ∈ checks, ∃ versioned ∈ check.versions, r = versioned.checkPod podMetadata podSpec opts := by
  simp only [evaluate, List.mem_map, List.mem_filter] at mem
  obtain ⟨check, ⟨listed, -⟩, rfl⟩ := mem
  cases resolved : check.resolve version with
  | none => exact Or.inl rfl
  | some versioned =>
    have : versioned ∈ (check.versions.filter fun e => e.minimumVersion ≤ version) :=
      List.mem_of_getLast?_eq_some (resolve_eq_getLast? check version ▸ resolved)
    exact Or.inr ⟨check, listed, versioned, (List.mem_filter.mp this).1, rfl⟩

theorem aggregate_allowed (results : List CheckResult) :
    (aggregate results).allowed = true ↔ ∀ r ∈ results, r.allowed = true := by
  simp [aggregate]

theorem aggregate_of_pass {results : List CheckResult} (pass : ∀ r ∈ results, r.allowed = true) :
    aggregate results = ⟨true, [], [], []⟩ := by
  have none_ : results.filter (!·.allowed) = [] := List.filter_eq_nil_iff.mpr fun r mem => by simp [pass r mem]
  have all : results.all (·.allowed) = true := List.all_eq_true.mpr pass
  simp only [aggregate, none_, all, List.map_nil, List.flatMap_nil]
  rfl

/-- A pass among the results does not change the verdict. -/
theorem aggregate_pass_append (l₁ l₂ : List CheckResult) :
    aggregate (l₁ ++ { allowed := true } :: l₂) = aggregate (l₁ ++ l₂) := by
  simp [aggregate, List.filter_append, List.all_append]

/-- The verdict reads the error lists only for its own. -/
theorem aggregate_map_erase_errList (results : List CheckResult) :
    aggregate (results.map fun r => { r with errList := none }) = { aggregate results with errs := [] } := by
  simp [aggregate, List.filter_map, List.all_map, List.map_map, List.flatMap_map, Function.comp_def,
    List.flatMap_eq_nil_iff]

/-- The verdict's errors are those of the results, in order, less those of the passes. -/
theorem aggregate_errs_sublist (results : List CheckResult) :
    (aggregate results).errs.Sublist (results.flatMap (·.errList.getD [])) := by
  induction results with
  | nil => exact .slnil
  | cons r rs ih =>
    simp only [aggregate] at ih ⊢
    rw [List.filter_cons, List.flatMap_cons]
    split
    · rw [List.flatMap_cons]
      exact ih.append_left _
    · exact ih.trans (List.sublist_append_right _ _)

/-- Results that agree up to the order of their errors give verdicts that do. -/
theorem aggregate_cons_sameUpToErrorOrder {r₁ r₂ : CheckResult} (same : r₁.SameUpToErrorOrder r₂)
    (rest : List CheckResult) : (aggregate (r₁ :: rest)).SameUpToErrorOrder (aggregate (r₂ :: rest)) := by
  obtain ⟨allowed, reason, detail, errs⟩ := same
  have getD : (r₁.errList.getD []).Perm (r₂.errList.getD []) := by
    generalize r₁.errList = e₁, r₂.errList = e₂ at errs
    cases errs with
    | none => exact .nil
    | some perm => exact perm
  simp only [aggregate, List.all_cons, List.filter_cons, allowed]
  split
  · simp only [List.map_cons, List.flatMap_cons, reason, detail]
    exact ⟨rfl, rfl, rfl, getD.append_right _⟩
  · exact ⟨rfl, rfl, rfl, .refl _⟩

/-- When passes carry no error list, the verdict's errors are all the results' errors, in
order. -/
theorem aggregate_errs_eq {results : List CheckResult}
    (bare : ∀ r ∈ results, r.allowed = true → r.errList = none) :
    (aggregate results).errs = results.flatMap (·.errList.getD []) := by
  induction results with
  | nil => rfl
  | cons r rs ih =>
    have rest := ih fun r' mem => bare r' (List.mem_cons_of_mem _ mem)
    simp only [aggregate] at rest ⊢
    rw [List.filter_cons, List.flatMap_cons]
    split
    · rw [List.flatMap_cons, rest]
    · rename_i passes
      rw [bare r (List.mem_cons_self _ _) (by simpa using passes), rest]
      rfl

end PodSecurity
