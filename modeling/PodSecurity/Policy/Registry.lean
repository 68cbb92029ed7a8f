import PodSecurity.Policy.Framework
import PodSecurity.Policy.AppArmorProfile
import PodSecurity.Policy.HostPorts
import PodSecurity.Policy.Privileged
import PodSecurity.Policy.ProcMount
import PodSecurity.Policy.SELinuxOptions

/-! The checks of src/ as their init functions register them, and what the framework makes
of them: which pods the baseline admits, no field errors unless asked for, and passes that
carry nothing. -/
namespace PodSecurity

def checkAppArmorProfile (quote : String → String) : Check :=
  { id := "appArmorProfile"
    level := .baseline
    versions := [{ minimumVersion := majorMinorVersion 1 0, checkPod := withOptions (appArmorProfileV1Dot0 quote) }] }

def checkHostPorts : Check :=
  { id := "hostPorts"
    level := .baseline
    versions := [{ minimumVersion := majorMinorVersion 1 0, checkPod := withOptions hostPortsV1Dot0 }] }

def checkPrivileged : Check :=
  { id := "privileged"
    level := .baseline
    versions := [{ minimumVersion := majorMinorVersion 1 0, checkPod := withOptions privilegedV1Dot0 }] }

def checkProcMount : Check :=
  { id := "procMount"
    level := .baseline
    versions := [{ minimumVersion := majorMinorVersion 1 0, checkPod := withOptions procMountV1Dot0 }] }

def checkSELinuxOptions : Check :=
  { id := "seLinuxOptions"
    level := .baseline
    versions := [{ minimumVersion := majorMinorVersion 1 0, checkPod := withOptions seLinuxOptionsV1Dot0 }] }

/-- The checks in the order the init functions of their files run, by file name. -/
def baselineChecks (quote : String → String) : List Check :=
  [checkAppArmorProfile quote, checkHostPorts, checkPrivileged, checkProcMount, checkSELinuxOptions]

/-- The registry after the init functions ran: each calls addCheck once. -/
def registry (quote : String → String) : Option Registry :=
  Registry.empty.addCheck (checkAppArmorProfile quote) >>= (·.addCheck checkHostPorts) >>=
    (·.addCheck checkPrivileged) >>= (·.addCheck checkProcMount) >>= (·.addCheck checkSELinuxOptions)

namespace Eager

/-- The registration in the second procMount file: the same ID, level and version, over the
check that knows the user-namespace relaxation. -/
def checkProcMount (relaxPolicyForUserNamespacePods : Bool) : Check :=
  { id := "procMount"
    level := .baseline
    versions := [⟨majorMinorVersion 1 0, withOptions (procMountV1Dot0 relaxPolicyForUserNamespacePods)⟩] }

/-- The registered checks with the second procMount file in place of the first. -/
def baselineChecks (quote : String → String) (relaxPolicyForUserNamespacePods : Bool) : List Check :=
  [checkAppArmorProfile quote, checkHostPorts, checkPrivileged, checkProcMount relaxPolicyForUserNamespacePods,
    checkSELinuxOptions]

end Eager

theorem registry_checks (quote : String → String) :
    (registry quote).map (·.checks) = some (baselineChecks quote) := by
  simp [registry, Registry.addCheck, Registry.empty, Check.Valid, checkAppArmorProfile, checkHostPorts,
    checkPrivileged, checkProcMount, checkSELinuxOptions, baselineChecks]

theorem appArmorProfileV1Dot0_sound (quote : String → String) (podMetadata : ObjectMeta) (podSpec : PodSpec)
    (opts : Options) : (appArmorProfileV1Dot0 quote podMetadata podSpec opts).Sound opts := by
  rw [appArmorProfileV1Dot0_eq, appArmorProfileResult]
  exact sound_of_ite fun off => by simp [off]

theorem hostPortsV1Dot0_sound (podMetadata : ObjectMeta) (podSpec : PodSpec) (opts : Options) :
    (hostPortsV1Dot0 podMetadata podSpec opts).Sound opts := by
  rw [hostPortsV1Dot0_eq, hostPortsResult]
  exact sound_of_ite fun off => by simp [off]

theorem privilegedV1Dot0_sound (podMetadata : ObjectMeta) (podSpec : PodSpec) (opts : Options) :
    (privilegedV1Dot0 podMetadata podSpec opts).Sound opts := by
  rw [privilegedV1Dot0_eq, privilegedResult]
  exact sound_of_ite fun off => by simp [off]

theorem procMountV1Dot0_sound (podMetadata : ObjectMeta) (podSpec : PodSpec) (opts : Options) :
    (procMountV1Dot0 podMetadata podSpec opts).Sound opts := by
  rw [procMountV1Dot0_eq, procMountOutcome, procMountResult]
  exact sound_of_ite fun off => by simp [off]

theorem seLinuxOptionsV1Dot0_sound (podMetadata : ObjectMeta) (podSpec : PodSpec) (opts : Options) :
    (seLinuxOptionsV1Dot0 podMetadata podSpec opts).Sound opts := by
  rw [seLinuxOptionsV1Dot0_eq, seLinuxOptionsResult]
  exact sound_of_ite fun off => by simp [off]

/-- What the checks registered here forbid, each in the words of its own theorem. -/
def baselineViolation (podMetadata : ObjectMeta) (podSpec : PodSpec) : Prop :=
  (∃ a ∈ podMetadata.annotations, appArmorBetaContainerAnnotationKeyPrefix.data <+: a.1.data ∧ a.2 ≠ "" ∧
    a.2 ≠ appArmorBetaProfileRuntimeDefault ∧ ¬appArmorBetaProfileNamePrefix.data <+: a.2.data) ∨
  (∃ c ∈ allContainers podSpec, ∃ port ∈ c.ports, port.hostPort ≠ 0) ∨
  (∃ c ∈ allContainers podSpec, c.securityContext.bind (·.privileged) = some true) ∨
  (∃ c ∈ allContainers podSpec, ∃ pm, c.securityContext.bind (·.procMount) = some pm ∧ pm ≠ defaultProcMount) ∨
  (∃ o ∈ podSpec.securityContext.bind (·.seLinuxOptions), o.bad) ∨
  ∃ c ∈ allContainers podSpec, ∃ o ∈ c.securityContext.bind (·.seLinuxOptions), o.bad

theorem evaluate_baselineChecks (quote : String → String) {level : Level} (atLeast : Level.baseline ≤ level)
    {version : Version} (recent : majorMinorVersion 1 0 ≤ version) (podMetadata : ObjectMeta) (podSpec : PodSpec)
    (opts : Options) :
    evaluate (baselineChecks quote) level version podMetadata podSpec opts =
      [appArmorProfileV1Dot0 quote podMetadata podSpec opts, hostPortsV1Dot0 podMetadata podSpec opts,
        privilegedV1Dot0 podMetadata podSpec opts, procMountV1Dot0 podMetadata podSpec opts,
        seLinuxOptionsV1Dot0 podMetadata podSpec opts] := by
  simp [evaluate, baselineChecks, checkAppArmorProfile, checkHostPorts, checkPrivileged, checkProcMount,
    checkSELinuxOptions, Check.resolve, atLeast, recent, withOptions]

theorem evaluate_baselineChecks_pass (quote : String → String) {level : Level} {version : Version}
    (before : ¬(Level.baseline ≤ level ∧ majorMinorVersion 1 0 ≤ version)) (podMetadata : ObjectMeta)
    (podSpec : PodSpec) (opts : Options) :
    ∀ r ∈ evaluate (baselineChecks quote) level version podMetadata podSpec opts, r.allowed = true := by
  by_cases atLeast : Level.baseline ≤ level
  · have old : ¬majorMinorVersion 1 0 ≤ version := fun recent => before ⟨atLeast, recent⟩
    simp [evaluate, baselineChecks, checkAppArmorProfile, checkHostPorts, checkPrivileged, checkProcMount,
      checkSELinuxOptions, Check.resolve, atLeast, old]
  · simp [evaluate, baselineChecks, checkAppArmorProfile, checkHostPorts, checkPrivileged, checkProcMount,
      checkSELinuxOptions, atLeast]

/-- The verdict over the checks registered here: a pod is refused exactly when the level
is baseline or stricter, the version is 1.0 or later, and one of the checks finds what it
forbids. -/
theorem baseline_verdict (quote : String → String) (level : Level) (version : Version) (podMetadata : ObjectMeta)
    (podSpec : PodSpec) (opts : Options) :
    (aggregate (evaluate (baselineChecks quote) level version podMetadata podSpec opts)).allowed = false ↔
      (Level.baseline ≤ level ∧ majorMinorVersion 1 0 ≤ version) ∧ baselineViolation podMetadata podSpec := by
  by_cases applies : Level.baseline ≤ level ∧ majorMinorVersion 1 0 ≤ version
  · rw [evaluate_baselineChecks quote applies.1 applies.2, baselineViolation,
      ← appArmorProfileV1Dot0_allowed_eq_false_iff quote podMetadata podSpec opts,
      ← hostPortsV1Dot0_allowed_eq_false_iff podMetadata podSpec opts,
      ← privilegedV1Dot0_allowed_eq_false_iff podMetadata podSpec opts,
      ← procMountV1Dot0_allowed_eq_false_iff podMetadata podSpec opts,
      ← seLinuxOptionsV1Dot0_allowed_eq_false_iff podMetadata podSpec opts]
    simp only [aggregate, List.all_cons, List.all_nil, Bool.and_true, Bool.and_eq_false_iff, applies, and_self,
      true_and]
  · have pass := (aggregate_allowed _).mpr (evaluate_baselineChecks_pass quote applies podMetadata podSpec opts)
    simp [pass, applies]

theorem evaluate_eager_baselineChecks (quote : String → String) (relaxPolicyForUserNamespacePods : Bool)
    {level : Level} (atLeast : Level.baseline ≤ level) {version : Version} (recent : majorMinorVersion 1 0 ≤ version)
    (podMetadata : ObjectMeta) (podSpec : PodSpec) (opts : Options) :
    evaluate (Eager.baselineChecks quote relaxPolicyForUserNamespacePods) level version podMetadata podSpec opts =
      [appArmorProfileV1Dot0 quote podMetadata podSpec opts, hostPortsV1Dot0 podMetadata podSpec opts,
        privilegedV1Dot0 podMetadata podSpec opts,
        Eager.procMountV1Dot0 relaxPolicyForUserNamespacePods podMetadata podSpec opts,
        seLinuxOptionsV1Dot0 podMetadata podSpec opts] := by
  simp [evaluate, Eager.baselineChecks, checkAppArmorProfile, checkHostPorts, checkPrivileged, Eager.checkProcMount,
    checkSELinuxOptions, Check.resolve, atLeast, recent, withOptions]

theorem evaluate_baselineChecks_without_procMount (quote : String → String) {level : Level}
    (atLeast : Level.baseline ≤ level) {version : Version} (recent : majorMinorVersion 1 0 ≤ version)
    (podMetadata : ObjectMeta) (podSpec : PodSpec) (opts : Options) :
    evaluate ((baselineChecks quote).filter (·.id ≠ "procMount")) level version podMetadata podSpec opts =
      [appArmorProfileV1Dot0 quote podMetadata podSpec opts, hostPortsV1Dot0 podMetadata podSpec opts,
        privilegedV1Dot0 podMetadata podSpec opts, seLinuxOptionsV1Dot0 podMetadata podSpec opts] := by
  simp [evaluate, baselineChecks, checkAppArmorProfile, checkHostPorts, checkPrivileged, checkProcMount,
    checkSELinuxOptions, Check.resolve, atLeast, recent, withOptions]

/-- With the second procMount file registered instead of the first, a verdict is the
verdict of the first registry without its procMount check for the pods the user-namespace
relaxation covers, and the same verdict for every other pod. -/
theorem eager_baseline_verdict (quote : String → String) (relaxPolicyForUserNamespacePods : Bool) (level : Level)
    (version : Version) (podMetadata : ObjectMeta) (podSpec : PodSpec) (opts : Options) :
    aggregate
        (evaluate (Eager.baselineChecks quote relaxPolicyForUserNamespacePods) level version podMetadata podSpec opts) =
      aggregate (evaluate
        (if relaxPolicyForUserNamespacePod relaxPolicyForUserNamespacePods podSpec then
          (baselineChecks quote).filter (·.id ≠ "procMount")
        else baselineChecks quote) level version podMetadata podSpec opts) := by
  by_cases applies : Level.baseline ≤ level ∧ majorMinorVersion 1 0 ≤ version
  · rw [evaluate_eager_baselineChecks quote _ applies.1 applies.2]
    split
    · rename_i relaxed
      rw [evaluate_baselineChecks_without_procMount quote applies.1 applies.2, Eager.procMountV1Dot0, if_pos relaxed]
      exact aggregate_pass_append [_, _, _] [_]
    · rename_i kept
      rw [evaluate_baselineChecks quote applies.1 applies.2,
        Eager.procMountV1Dot0_eq _ podMetadata podSpec opts (by simpa using kept), ← procMountV1Dot0_eq podMetadata]
  · by_cases atLeast : Level.baseline ≤ level
    · have old : ¬majorMinorVersion 1 0 ≤ version := fun recent => applies ⟨atLeast, recent⟩
      rw [aggregate_of_pass, aggregate_of_pass] <;> (try split) <;>
        simp [evaluate, Eager.baselineChecks, baselineChecks, checkAppArmorProfile, checkHostPorts, checkPrivileged,
          checkProcMount, Eager.checkProcMount, checkSELinuxOptions, Check.resolve, atLeast, old]
    · split <;> simp [evaluate, Eager.baselineChecks, baselineChecks, atLeast, checkAppArmorProfile, checkHostPorts,
        checkPrivileged, checkProcMount, Eager.checkProcMount, checkSELinuxOptions]

/-- The order a range over the annotations map visits them in decides nothing but the order
of a verdict's field errors. -/
theorem baseline_verdict_annotation_order (quote : String → String) (level : Level) (version : Version)
    (m₁ m₂ : ObjectMeta) (same : m₁.annotations.Perm m₂.annotations) (podSpec : PodSpec) (opts : Options) :
    (aggregate (evaluate (baselineChecks quote) level version m₁ podSpec opts)).SameUpToErrorOrder
      (aggregate (evaluate (baselineChecks quote) level version m₂ podSpec opts)) := by
  by_cases applies : Level.baseline ≤ level ∧ majorMinorVersion 1 0 ≤ version
  · rw [evaluate_baselineChecks quote applies.1 applies.2, evaluate_baselineChecks quote applies.1 applies.2]
    refine aggregate_cons_sameUpToErrorOrder ?_ _
    rw [appArmorProfileV1Dot0_eq, appArmorProfileV1Dot0_eq]
    exact appArmorProfileResult_perm quote same opts.withFieldErrors
  · rw [aggregate_of_pass (evaluate_baselineChecks_pass quote applies m₁ podSpec opts),
      aggregate_of_pass (evaluate_baselineChecks_pass quote applies m₂ podSpec opts)]
    exact ⟨rfl, rfl, rfl, .refl _⟩

theorem baseline_verdict_annotation_order_swap :
    [("container.apparmor.security.beta.kubernetes.io/a", "unconfined"),
      ("container.apparmor.security.beta.kubernetes.io/b", "unconfined")].Perm
      [("container.apparmor.security.beta.kubernetes.io/b", "unconfined"),
        ("container.apparmor.security.beta.kubernetes.io/a", "unconfined")] ∧
    Verdict.SameUpToErrorOrder
      (aggregate (evaluate (baselineChecks id) .baseline (majorMinorVersion 1 0)
        ⟨[("container.apparmor.security.beta.kubernetes.io/a", "unconfined"),
          ("container.apparmor.security.beta.kubernetes.io/b", "unconfined")], by decide⟩ {} ⟨true⟩))
      (aggregate (evaluate (baselineChecks id) .baseline (majorMinorVersion 1 0)
        ⟨[("container.apparmor.security.beta.kubernetes.io/b", "unconfined"),
          ("container.apparmor.security.beta.kubernetes.io/a", "unconfined")], by decide⟩ {} ⟨true⟩)) :=
  ⟨List.Perm.swap _ _ _, baseline_verdict_annotation_order id _ _ _ _ (List.Perm.swap _ _ _) {} ⟨true⟩⟩

theorem mem_evaluate_baselineChecks {quote : String → String} {level : Level} {version : Version}
    {podMetadata : ObjectMeta} {podSpec : PodSpec} {opts : Options} {r : CheckResult}
    (mem : r ∈ evaluate (baselineChecks quote) level version podMetadata podSpec opts) :
    r = { allowed := true } ∨ r = appArmorProfileV1Dot0 quote podMetadata podSpec opts ∨
      r = hostPortsV1Dot0 podMetadata podSpec opts ∨ r = privilegedV1Dot0 podMetadata podSpec opts ∨
      r = procMountV1Dot0 podMetadata podSpec opts ∨ r = seLinuxOptionsV1Dot0 podMetadata podSpec opts := by
  rcases mem_evaluate mem with rfl | ⟨check, listed, versioned, offered, rfl⟩
  · exact .inl rfl
  · simp only [baselineChecks, List.mem_cons, List.mem_singleton, List.not_mem_nil, or_false] at listed
    rcases listed with rfl | rfl | rfl | rfl | rfl <;>
      simp only [checkAppArmorProfile, checkHostPorts, checkPrivileged, checkProcMount, checkSELinuxOptions,
        List.mem_singleton] at offered <;> subst offered <;> simp [withOptions]

/-- Every result the registered checks give is sound: a pass carries no reason, detail or
error list, and without field errors no result has an error list. -/
theorem evaluate_sound (quote : String → String) (level : Level) (version : Version) (podMetadata : ObjectMeta)
    (podSpec : PodSpec) (opts : Options) :
    ∀ r ∈ evaluate (baselineChecks quote) level version podMetadata podSpec opts, r.Sound opts := by
  intro r mem
  rcases mem_evaluate_baselineChecks mem with rfl | rfl | rfl | rfl | rfl | rfl
  · exact ⟨fun _ => ⟨rfl, rfl, rfl⟩, fun _ => rfl⟩
  · exact appArmorProfileV1Dot0_sound quote podMetadata podSpec opts
  · exact hostPortsV1Dot0_sound podMetadata podSpec opts
  · exact privilegedV1Dot0_sound podMetadata podSpec opts
  · exact procMountV1Dot0_sound podMetadata podSpec opts
  · exact seLinuxOptionsV1Dot0_sound podMetadata podSpec opts

theorem evaluate_sound_privileged :
    let podSpec : PodSpec := { containers := [{ name := "a", securityContext := some { privileged := some true } }] }
    privilegedV1Dot0 {} podSpec ⟨false⟩ ∈ evaluate (baselineChecks id) .baseline (majorMinorVersion 1 0) {} podSpec ⟨false⟩ ∧
      (privilegedV1Dot0 {} podSpec ⟨false⟩).Sound ⟨false⟩ :=
  have listed := by rw [evaluate_baselineChecks id (by decide) (Version.le_refl _)]; simp
  ⟨listed, evaluate_sound id _ _ _ _ _ _ listed⟩

theorem appArmorProfileV1Dot0_reported (quote : String → String) (podMetadata : ObjectMeta) (podSpec : PodSpec)
    {opts : Options} (enabled : opts.withFieldErrors = true) :
    (appArmorProfileV1Dot0 quote podMetadata podSpec opts).Reported := by
  rw [appArmorProfileV1Dot0_eq, appArmorProfileResult, enabled, if_pos rfl]
  exact reported_of_ite fun fails => by simpa using fails

theorem hostPortsV1Dot0_reported (podMetadata : ObjectMeta) (podSpec : PodSpec) {opts : Options}
    (enabled : opts.withFieldErrors = true) : (hostPortsV1Dot0 podMetadata podSpec opts).Reported := by
  rw [hostPortsV1Dot0_eq, hostPortsResult, enabled, if_pos rfl]
  refine reported_of_ite fun fails none_ => ?_
  obtain ⟨c, mem, bad⟩ := (length_map_filter_ne_zero _ _ _).mp fails
  obtain ⟨v, listed, rfl⟩ := exists_podContainers mem
  exact hostPortErrors_ne_nil bad v.1 v.2.1 (List.flatMap_eq_nil_iff.mp none_ v listed)

theorem privilegedV1Dot0_reported (podMetadata : ObjectMeta) (podSpec : PodSpec) {opts : Options}
    (enabled : opts.withFieldErrors = true) : (privilegedV1Dot0 podMetadata podSpec opts).Reported := by
  rw [privilegedV1Dot0_eq, privilegedResult, enabled, if_pos rfl]
  refine reported_of_ite fun fails => ?_
  obtain ⟨c, mem, bad⟩ := (length_map_filter_ne_zero _ _ _).mp fails
  obtain ⟨v, listed, rfl⟩ := exists_podContainers mem
  exact List.ne_nil_of_mem (List.mem_map_of_mem _ (List.mem_filter.mpr ⟨listed, bad⟩))

theorem procMountV1Dot0_reported (podMetadata : ObjectMeta) (podSpec : PodSpec) {opts : Options}
    (enabled : opts.withFieldErrors = true) : (procMountV1Dot0 podMetadata podSpec opts).Reported := by
  rw [procMountV1Dot0_eq, procMountOutcome, procMountResult, enabled, if_pos rfl]
  refine reported_of_ite fun fails => ?_
  obtain ⟨c, mem, bad⟩ := (length_map_filter_ne_zero _ _ _).mp fails
  obtain ⟨v, listed, rfl⟩ := exists_podContainers mem
  obtain ⟨pm, set⟩ := Option.isSome_iff_exists.mp bad
  have reported : procMountError v.1 v.2.1 pm ∈
      (podContainers podSpec).filterMap fun v => v.2.2.badProcMount.map (procMountError v.1 v.2.1) :=
    List.mem_filterMap.mpr ⟨v, listed, by simp [set]⟩
  exact List.ne_nil_of_mem reported

theorem seLinuxOptionsV1Dot0_reported (podMetadata : ObjectMeta) (podSpec : PodSpec) {opts : Options}
    (enabled : opts.withFieldErrors = true) : (seLinuxOptionsV1Dot0 podMetadata podSpec opts).Reported := by
  rw [seLinuxOptionsV1Dot0_eq, seLinuxOptionsResult, enabled, if_pos rfl]
  refine reported_of_ite fun fails => ?_
  rcases (seLinuxSetters_length_ne_zero podSpec).mp fails with ⟨o, at_pod, bad⟩ | ⟨c, mem, o, at_c, bad⟩
  · have pod : podSpec.seLinuxOptions = some o := at_pod
    have errors := seLinuxErrors_ne_nil ((SELinuxOptions.valid_eq_false_iff o).mpr bad) podSeLinuxPrefix
    simp only [seLinuxFieldErrors, pod, ne_eq, List.append_eq_nil, not_and_or]
    exact .inl (by simpa using errors)
  · obtain ⟨v, listed, rfl⟩ := exists_podContainers mem
    have container : v.2.2.seLinuxOptions = some o := at_c
    have errors := seLinuxErrors_ne_nil ((SELinuxOptions.valid_eq_false_iff o).mpr bad)
      (containerSeLinuxPrefix v.1 v.2.1)
    simp only [seLinuxFieldErrors, ne_eq, List.append_eq_nil, not_and_or, List.flatMap_eq_nil_iff, not_forall]
    exact .inr ⟨v, listed, by simpa [container] using errors⟩

/-- With field errors, the verdict over the registered checks refuses a pod exactly when its
combined error list is not empty: no refusal goes without a field error, and a pass has
none. -/
theorem baseline_verdict_reported (quote : String → String) (level : Level) (version : Version)
    (podMetadata : ObjectMeta) (podSpec : PodSpec) {opts : Options} (enabled : opts.withFieldErrors = true) :
    (aggregate (evaluate (baselineChecks quote) level version podMetadata podSpec opts)).allowed = false ↔
      (aggregate (evaluate (baselineChecks quote) level version podMetadata podSpec opts)).errs ≠ [] := by
  refine aggregate_allowed_eq_false_iff fun r mem => ?_
  rcases mem_evaluate_baselineChecks mem with rfl | rfl | rfl | rfl | rfl | rfl
  · exact iff_of_false (by decide) (by simp)
  · exact appArmorProfileV1Dot0_reported quote podMetadata podSpec enabled
  · exact hostPortsV1Dot0_reported podMetadata podSpec enabled
  · exact privilegedV1Dot0_reported podMetadata podSpec enabled
  · exact procMountV1Dot0_reported podMetadata podSpec enabled
  · exact seLinuxOptionsV1Dot0_reported podMetadata podSpec enabled

theorem baseline_verdict_reported_privileged :
    let podSpec : PodSpec := { containers := [{ name := "a", securityContext := some { privileged := some true } }] }
    (⟨true⟩ : Options).withFieldErrors = true ∧
      ((aggregate (evaluate (baselineChecks id) .baseline (majorMinorVersion 1 0) {} podSpec ⟨true⟩)).allowed =
          false ↔
        (aggregate (evaluate (baselineChecks id) .baseline (majorMinorVersion 1 0) {} podSpec ⟨true⟩)).errs ≠
          []) :=
  ⟨rfl, baseline_verdict_reported id _ _ _ _ rfl⟩

end PodSecurity
