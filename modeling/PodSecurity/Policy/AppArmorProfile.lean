import PodSecurity.Policy.Check
import PodSecurity.Policy.Violations

/-! appArmorProfileV1Dot0, the one check over the pod's annotations. It ranges over the map
in Go's iteration order, which is the order of `ObjectMeta.annotations` here; the labels
are sorted before they are reported, the field errors are not. -/
namespace PodSecurity

/-- Modelled from the spec: corev1.AppArmorBetaContainerAnnotationKeyPrefix is not under
src/; its value is the restricted field the check's doc comment names. -/
def appArmorBetaContainerAnnotationKeyPrefix : String := "container.apparmor.security.beta.kubernetes.io/"

/-- Modelled from the spec: corev1.AppArmorBetaProfileRuntimeDefault is not under src/. -/
def appArmorBetaProfileRuntimeDefault : String := "runtime/default"

/-- Modelled from the spec: corev1.AppArmorBetaProfileNamePrefix is not under src/. -/
def appArmorBetaProfileNamePrefix : String := "localhost/"

def allowedProfile (profile : String) : Bool :=
  profile.length == 0 || profile == appArmorBetaProfileRuntimeDefault ||
    hasPrefix profile appArmorBetaProfileNamePrefix

/-- One iteration of the range over the annotations. `quote` is Go's `%q` verb
(strconv.Quote), taken as given. -/
def appArmorProfileStep (quote : String → String) (opts : Options) (forbiddenAppArmorProfile : Violations) :
    String × String → Violations
  | (k, v) =>
  if hasPrefix k appArmorBetaContainerAnnotationKeyPrefix && !allowedProfile v then
    if opts.withFieldErrors then
      forbiddenAppArmorProfile.add (k ++ "=" ++ quote v) [(forbidden (annotationsPath.key k)).withBadValue (.str v)]
    else forbiddenAppArmorProfile.add (k ++ "=" ++ quote v) ([] : List ErrFn)
  else forbiddenAppArmorProfile

/-- What appArmorProfileV1Dot0 returns from the labels it recorded and the field errors. -/
def appArmorProfileResult (data : List String) (errList : Option (List Field.Error)) : CheckResult :=
  if data.length ≠ 0 then
    let forbiddenValues := sortStrings data
    { allowed := false
      forbiddenReason := pluralize "forbidden AppArmor profile" "forbidden AppArmor profiles" forbiddenValues.length
      forbiddenDetail := String.intercalate ", " forbiddenValues
      errList := errList }
  else { allowed := true }

def appArmorProfileV1Dot0 (quote : String → String) (podMetadata : ObjectMeta) (podSpec : PodSpec)
    (opts : Options) : CheckResult :=
  let forbiddenAppArmorProfile :=
    podMetadata.annotations.foldl (appArmorProfileStep quote opts) (newViolations opts.withFieldErrors)
  appArmorProfileResult forbiddenAppArmorProfile.data forbiddenAppArmorProfile.errs

/-- Whether an annotation sets a profile the check forbids. -/
def forbiddenEntry (entry : String × String) : Bool :=
  hasPrefix entry.1 appArmorBetaContainerAnnotationKeyPrefix && !allowedProfile entry.2

/-- The label `key=%q(value)` of an annotation. -/
def appArmorLabel (quote : String → String) (entry : String × String) : String :=
  entry.1 ++ "=" ++ quote entry.2

/-- The field error for a forbidden annotation. -/
def appArmorError (entry : String × String) : Field.Error :=
  ⟨.forbidden, "metadata.annotations[" ++ entry.1 ++ "]", .str entry.2, ""⟩

theorem hasPrefix_iff (s pre : String) : hasPrefix s pre = true ↔ pre.data <+: s.data := by
  simp [hasPrefix]

theorem forbiddenEntry_iff (entry : String × String) :
    forbiddenEntry entry = true ↔
      appArmorBetaContainerAnnotationKeyPrefix.data <+: entry.1.data ∧ entry.2 ≠ "" ∧
        entry.2 ≠ appArmorBetaProfileRuntimeDefault ∧ ¬appArmorBetaProfileNamePrefix.data <+: entry.2.data := by
  simp [forbiddenEntry, allowedProfile, ← hasPrefix_iff, length_eq_zero_iff_eq_empty, not_or, and_assoc]

theorem call_annotationErrFn (k v : String) :
    ((forbidden (annotationsPath.key k)).withBadValue (.str v)).call = some (appArmorError (k, v)) := by
  have present : Field.newPath "metadata" ["annotations"] ≠ [] := by simp
  refine (ErrFn.call_of_resolve (forbidden_resolve_steps (resolve_withPath present) present
    [.key k] (.str v))).trans ?_
  simp only [Field.Path.steps, List.foldl, Field.Path.step]
  rw [Field.toString_key present]
  rfl

theorem appArmorProfileStep_eq (quote : String → String) (opts : Options) (v : Violations)
    (entry : String × String) :
    appArmorProfileStep quote opts v entry =
      if forbiddenEntry entry then
        (v.appendData [appArmorLabel quote entry]).pushErrs
          (if opts.withFieldErrors then [appArmorError entry] else [])
      else v := by
  obtain ⟨k, value⟩ := entry
  simp only [appArmorProfileStep, forbiddenEntry]
  split <;> cases opts.withFieldErrors <;>
    simp [Violations.add_id, call_annotationErrFn, appArmorLabel]

/-- The range over the annotations records each forbidden one, in iteration order. -/
theorem appArmorProfile_run (quote : String → String) (opts : Options) (annotations : List (String × String))
    (v : Violations) :
    annotations.foldl (appArmorProfileStep quote opts) v =
      (v.appendData ((annotations.filter forbiddenEntry).map (appArmorLabel quote))).pushErrs
        (if opts.withFieldErrors then (annotations.filter forbiddenEntry).map appArmorError else []) := by
  induction annotations generalizing v with
  | nil => simp
  | cons a rest ih =>
    rw [List.foldl_cons, ih, appArmorProfileStep_eq]
    cases h : forbiddenEntry a <;> cases opts.withFieldErrors <;>
      simp [List.filter_cons, h, Violations.pushErrs_appendData, Violations.appendData_appendData,
        Violations.pushErrs_pushErrs]

theorem appArmorProfileV1Dot0_eq (quote : String → String) (podMetadata : ObjectMeta) (podSpec : PodSpec)
    (opts : Options) :
    appArmorProfileV1Dot0 quote podMetadata podSpec opts =
      appArmorProfileResult ((podMetadata.annotations.filter forbiddenEntry).map (appArmorLabel quote))
        (if opts.withFieldErrors then some ((podMetadata.annotations.filter forbiddenEntry).map appArmorError)
        else none) := by
  rw [appArmorProfileV1Dot0, appArmorProfile_run]
  cases opts.withFieldErrors <;> simp

theorem appArmorProfileV1Dot0_allowed_eq_false_iff (quote : String → String) (podMetadata : ObjectMeta)
    (podSpec : PodSpec) (opts : Options) :
    (appArmorProfileV1Dot0 quote podMetadata podSpec opts).allowed = false ↔
      ∃ a ∈ podMetadata.annotations, appArmorBetaContainerAnnotationKeyPrefix.data <+: a.1.data ∧ a.2 ≠ "" ∧
        a.2 ≠ appArmorBetaProfileRuntimeDefault ∧ ¬appArmorBetaProfileNamePrefix.data <+: a.2.data := by
  have bad := length_map_filter_ne_zero (appArmorLabel quote) forbiddenEntry podMetadata.annotations
  simp only [forbiddenEntry_iff] at bad
  exact (fields_of_ite (appArmorProfileV1Dot0_eq quote podMetadata podSpec opts)).1.trans bad

/-- appArmorProfileV1Dot0 fails exactly when an annotation under the container key prefix
sets a profile that is not empty, not runtime/default and not under localhost/. It then
gives a reason pluralized by the number of such annotations and the sorted `key=%q(value)`
labels of exactly those annotations, joined by ", "; with field errors one Forbidden error
per such annotation at `metadata.annotations[key]`, in iteration order; without them, or
on a pass, no error list. -/
theorem appArmorProfileV1Dot0_correct (quote : String → String) (podMetadata : ObjectMeta) (podSpec : PodSpec)
    (opts : Options) :
    let result := appArmorProfileV1Dot0 quote podMetadata podSpec opts
    let offending := podMetadata.annotations.filter forbiddenEntry
    (result.allowed = false ↔
      ∃ a ∈ podMetadata.annotations, appArmorBetaContainerAnnotationKeyPrefix.data <+: a.1.data ∧ a.2 ≠ "" ∧
        a.2 ≠ appArmorBetaProfileRuntimeDefault ∧ ¬appArmorBetaProfileNamePrefix.data <+: a.2.data) ∧
    (result.allowed = false →
      result.forbiddenReason = pluralize "forbidden AppArmor profile" "forbidden AppArmor profiles" offending.length ∧
      ∃ labels : List String, labels.Sorted (· ≤ ·) ∧ labels.Perm (offending.map (appArmorLabel quote)) ∧
        result.forbiddenDetail = String.intercalate ", " labels) ∧
    result.errList = if opts.withFieldErrors = true ∧ result.allowed = false then
      some (offending.map appArmorError) else none := by
  obtain ⟨-, fields, errs⟩ := fields_of_ite (appArmorProfileV1Dot0_eq quote podMetadata podSpec opts)
  refine ⟨appArmorProfileV1Dot0_allowed_eq_false_iff quote podMetadata podSpec opts, fun failing => ?_, errs⟩
  obtain ⟨reason, detail⟩ := fields failing
  refine ⟨?_, _, List.sorted_insertionSort _ _, List.perm_insertionSort _ _, detail⟩
  rw [reason, sortStrings, List.length_insertionSort, List.length_map]

/-- With field errors, the iteration order of two forbidden annotations decides the order
of the error list: the labels are sorted before they are reported, the errors are not. -/
theorem appArmorProfileV1Dot0_errList_order (quote : String → String) (podSpec : PodSpec) :
    (appArmorProfileV1Dot0 quote
        ⟨[("container.apparmor.security.beta.kubernetes.io/a", "unconfined"),
          ("container.apparmor.security.beta.kubernetes.io/b", "unconfined")], by decide⟩ podSpec ⟨true⟩).errList ≠
      (appArmorProfileV1Dot0 quote
        ⟨[("container.apparmor.security.beta.kubernetes.io/b", "unconfined"),
          ("container.apparmor.security.beta.kubernetes.io/a", "unconfined")], by decide⟩ podSpec ⟨true⟩).errList := by
  have ha : forbiddenEntry ("container.apparmor.security.beta.kubernetes.io/a", "unconfined") := by decide
  have hb : forbiddenEntry ("container.apparmor.security.beta.kubernetes.io/b", "unconfined") := by decide
  simp [appArmorProfileV1Dot0_eq, appArmorProfileResult, List.filter_cons, ha, hb, appArmorError]

/-- The closing step of appArmorProfileV1Dot0 over two orders of the same annotations: the
same verdict, reason and detail, and error lists that are permutations of each other. -/
theorem appArmorProfileResult_perm (quote : String → String) {a₁ a₂ : List (String × String)} (same : a₁.Perm a₂)
    (withFieldErrors : Bool) :
    (appArmorProfileResult ((a₁.filter forbiddenEntry).map (appArmorLabel quote))
        (if withFieldErrors then some ((a₁.filter forbiddenEntry).map appArmorError) else none)).SameUpToErrorOrder
      (appArmorProfileResult ((a₂.filter forbiddenEntry).map (appArmorLabel quote))
        (if withFieldErrors then some ((a₂.filter forbiddenEntry).map appArmorError) else none)) := by
  have labels := (same.filter forbiddenEntry).map (appArmorLabel quote)
  simp only [appArmorProfileResult, labels.length_eq, sortStrings_perm labels]
  split
  · refine ⟨rfl, rfl, rfl, ?_⟩
    cases withFieldErrors
    · exact .none
    · exact .some ((same.filter _).map _)
  · exact ⟨rfl, rfl, rfl, .none⟩

/-- Visiting the annotations in another order changes neither the verdict nor the reason
nor the detail of appArmorProfileV1Dot0, and its error list only by a permutation. -/
theorem appArmorProfileV1Dot0_perm (quote : String → String) (m₁ m₂ : ObjectMeta)
    (same : m₁.annotations.Perm m₂.annotations) (podSpec : PodSpec) (opts : Options) :
    (appArmorProfileV1Dot0 quote m₁ podSpec opts).SameUpToErrorOrder (appArmorProfileV1Dot0 quote m₂ podSpec opts) := by
  rw [appArmorProfileV1Dot0_eq, appArmorProfileV1Dot0_eq]
  exact appArmorProfileResult_perm quote same opts.withFieldErrors

theorem appArmorProfileV1Dot0_perm_swap :
    [("container.apparmor.security.beta.kubernetes.io/a", "unconfined"),
      ("container.apparmor.security.beta.kubernetes.io/b", "unconfined")].Perm
      [("container.apparmor.security.beta.kubernetes.io/b", "unconfined"),
        ("container.apparmor.security.beta.kubernetes.io/a", "unconfined")] ∧
    (appArmorProfileV1Dot0 id
        ⟨[("container.apparmor.security.beta.kubernetes.io/a", "unconfined"),
          ("container.apparmor.security.beta.kubernetes.io/b", "unconfined")], by decide⟩ {} ⟨true⟩).SameUpToErrorOrder
      (appArmorProfileV1Dot0 id
        ⟨[("container.apparmor.security.beta.kubernetes.io/b", "unconfined"),
          ("container.apparmor.security.beta.kubernetes.io/a", "unconfined")], by decide⟩ {} ⟨true⟩) :=
  ⟨List.Perm.swap _ _ _, appArmorProfileV1Dot0_perm id _ _ (List.Perm.swap _ _ _) {} ⟨true⟩⟩

end PodSecurity
