import PodSecurity.Policy.FieldRef
import PodSecurity.Policy.Registry

/-! The fields each check reports, as references. A check's field errors are the renderings
of its references in order, the references are distinct, and each names a field of its own
check; so no verdict over the registered checks reports a field path twice. -/
namespace PodSecurity

def appArmorRefs (podMetadata : ObjectMeta) : List FieldRef :=
  (podMetadata.annotations.filter forbiddenEntry).map fun entry => .annotationKey entry.1

def hostPortRefs (podSpec : PodSpec) : List FieldRef :=
  (podContainers podSpec).flatMap fun v =>
    (v.2.2.ports.enum.filter (·.2.hostPort ≠ 0)).map fun port => .container v.1 v.2.1 (.hostPort port.1)

def privilegedRefs (podSpec : PodSpec) : List FieldRef :=
  ((podContainers podSpec).filter (·.2.2.isPrivileged)).map fun v => .container v.1 v.2.1 .privileged

def procMountRefs (podSpec : PodSpec) : List FieldRef :=
  (podContainers podSpec).filterMap fun v => v.2.2.badProcMount.map fun _ => .container v.1 v.2.1 .procMount

def seLinuxRefs (podSpec : PodSpec) : List FieldRef :=
  podSpec.seLinuxOptions.toList.flatMap (seLinuxFields fun field _ => .podSeLinuxOptions field) ++
  (podContainers podSpec).flatMap fun v =>
    v.2.2.seLinuxOptions.toList.flatMap (seLinuxFields fun field _ => .container v.1 v.2.1 (.seLinuxOptions field))

/-- The references of the checks registered here, by check ID in registration order. -/
def baselineRefs (podMetadata : ObjectMeta) (podSpec : PodSpec) : List (String × List FieldRef) :=
  [("appArmorProfile", appArmorRefs podMetadata), ("hostPorts", hostPortRefs podSpec),
    ("privileged", privilegedRefs podSpec), ("procMount", procMountRefs podSpec),
    ("seLinuxOptions", seLinuxRefs podSpec)]

section Fields

theorem seLinuxFields_map {α β : Type} (entry : String → String → α) (g : α → β) (o : SELinuxOptions) :
    (seLinuxFields entry o).map g = seLinuxFields (fun field value => g (entry field value)) o := by
  simp only [seLinuxFields, List.map_append]
  split_ifs <;> rfl

theorem appArmorErrors_fields (podMetadata : ObjectMeta) :
    ((podMetadata.annotations.filter forbiddenEntry).map appArmorError).map (·.field) =
      (appArmorRefs podMetadata).map FieldRef.render := by
  simp [appArmorRefs, appArmorError, FieldRef.render]

theorem hostPortErrors_fields (podSpec : PodSpec) :
    ((podContainers podSpec).flatMap fun v => hostPortErrors v.1 v.2.1 v.2.2).map (·.field) =
      (hostPortRefs podSpec).map FieldRef.render := by
  simp [hostPortRefs, hostPortErrors, List.map_flatMap, Function.comp_def, FieldRef.render, ContainerField.render,
    String.append_assoc]

theorem privilegedErrors_fields (podSpec : PodSpec) :
    (((podContainers podSpec).filter (·.2.2.isPrivileged)).map fun u => privilegedError u.1 u.2.1).map (·.field) =
      (privilegedRefs podSpec).map FieldRef.render := by
  simp [privilegedRefs, privilegedError, FieldRef.render, ContainerField.render, String.append_assoc]

theorem procMountErrors_fields (podSpec : PodSpec) :
    ((podContainers podSpec).filterMap fun v => v.2.2.badProcMount.map (procMountError v.1 v.2.1)).map (·.field) =
      (procMountRefs podSpec).map FieldRef.render := by
  simp [procMountRefs, procMountError, List.map_filterMap, Option.map_map, Function.comp_def, FieldRef.render,
    ContainerField.render, String.append_assoc]

theorem seLinuxErrors_fields (podSpec : PodSpec) :
    (seLinuxFieldErrors podSpec).map (·.field) = (seLinuxRefs podSpec).map FieldRef.render := by
  simp [seLinuxFieldErrors, seLinuxRefs, seLinuxErrors, List.map_flatMap, seLinuxFields_map, podSeLinuxPrefix,
    containerSeLinuxPrefix, FieldRef.render, ContainerField.render, String.append_assoc]

/-- The field paths of a check's error list, read off the shape its closing step gives the
list: those of its errors, or none. -/
theorem errList_fields_sublist {result : CheckResult} {withFieldErrors : Bool} {errs : List Field.Error}
    {refs : List FieldRef}
    (errList : result.errList = if withFieldErrors = true ∧ result.allowed = false then some errs else none)
    (fields : errs.map (·.field) = refs.map FieldRef.render) :
    ((result.errList.getD []).map (·.field)).Sublist (refs.map FieldRef.render) := by
  rw [errList]
  split
  · rw [Option.getD_some, fields]
  · exact List.nil_sublist _

end Fields

section Distinct

theorem seLinuxFields_eq_map {α : Type} (g : String → α) (o : SELinuxOptions) :
    seLinuxFields (fun field _ => g field) o = (seLinuxFields (fun field _ => field) o).map g :=
  (seLinuxFields_map _ g o).symm

theorem seLinuxFieldNames_nodup (o : SELinuxOptions) : (seLinuxFields (fun field _ => field) o).Nodup := by
  unfold seLinuxFields
  split_ifs <;> simp

theorem mem_seLinuxFields {α : Type} {g : String → α} {o : SELinuxOptions} {r : α}
    (mem : r ∈ seLinuxFields (fun field _ => g field) o) : ∃ field, r = g field := by
  rw [seLinuxFields_eq_map g] at mem
  obtain ⟨field, -, rfl⟩ := List.mem_map.mp mem
  exact ⟨field, rfl⟩

theorem seLinuxFields_flatMap_nodup {g : String → FieldRef} (inj : Function.Injective g) (o : Option SELinuxOptions) :
    (o.toList.flatMap (seLinuxFields fun field _ => g field)).Nodup := by
  cases o
  · exact List.nodup_nil
  · rw [Option.toList_some, List.flatMap_singleton, seLinuxFields_eq_map g]
    exact (seLinuxFieldNames_nodup _).map inj

theorem appArmorRefs_nodup (podMetadata : ObjectMeta) : (appArmorRefs podMetadata).Nodup := by
  have keys : ((podMetadata.annotations.filter forbiddenEntry).map Prod.fst).Nodup :=
    podMetadata.keys_nodup.sublist ((List.filter_sublist _).map Prod.fst)
  have := keys.map fun _ _ same => FieldRef.annotationKey.inj same
  rwa [List.map_map] at this

theorem hostPortRefs_nodup (podSpec : PodSpec) : (hostPortRefs podSpec).Nodup := by
  refine nodup_flatMap_podContainers podSpec (fun v => ?_) fun v r mem => ?_
  · have ports : ((v.2.2.ports.enum.filter (·.2.hostPort ≠ 0)).map Prod.fst).Nodup :=
      (List.nodup_range _).sublist (List.enum_map_fst v.2.2.ports ▸ (List.filter_sublist _).map Prod.fst)
    have inj : Function.Injective fun j => FieldRef.container v.1 v.2.1 (.hostPort j) :=
      fun _ _ same => by injection same with _ _ same; injection same
    have := ports.map inj
    rwa [List.map_map] at this
  · obtain ⟨_, _, rfl⟩ := List.mem_map.mp mem
    rfl

theorem privilegedRefs_nodup (podSpec : PodSpec) : (privilegedRefs podSpec).Nodup := by
  have all : ((podContainers podSpec).map fun v => FieldRef.container v.1 v.2.1 .privileged).Nodup :=
    nodup_map_podContainers podSpec fun _ => rfl
  exact all.sublist ((List.filter_sublist _).map _)

theorem procMountRefs_nodup (podSpec : PodSpec) : (procMountRefs podSpec).Nodup := by
  rw [procMountRefs, List.filterMap_eq_flatMap_toList]
  refine nodup_flatMap_podContainers podSpec (fun v => ?_) fun v r mem => ?_ <;>
    cases h : v.2.2.badProcMount <;> simp_all [FieldRef.owner]

theorem seLinuxRefs_nodup (podSpec : PodSpec) : (seLinuxRefs podSpec).Nodup := by
  refine List.nodup_append.mpr ⟨seLinuxFields_flatMap_nodup (fun _ _ => FieldRef.podSeLinuxOptions.inj) _,
    nodup_flatMap_podContainers podSpec (fun v => seLinuxFields_flatMap_nodup ?_ _) fun v r mem => ?_, ?_⟩
  · exact fun _ _ same => by injection same with _ _ same; injection same
  · obtain ⟨o, -, listed⟩ := List.mem_flatMap.mp mem
    obtain ⟨field, rfl⟩ := mem_seLinuxFields listed
    rfl
  · intro r pod containers
    obtain ⟨o, -, listed⟩ := List.mem_flatMap.mp pod
    obtain ⟨field, rfl⟩ := mem_seLinuxFields listed
    obtain ⟨v, -, there⟩ := List.mem_flatMap.mp containers
    obtain ⟨o', -, listed'⟩ := List.mem_flatMap.mp there
    obtain ⟨field', same⟩ := mem_seLinuxFields listed'
    cases same

theorem appArmorRefs_checked (podMetadata : ObjectMeta) :
    ∀ r ∈ appArmorRefs podMetadata, r.WellFormed ∧ r.check = "appArmorProfile" := by
  intro r mem
  obtain ⟨_, -, rfl⟩ := List.mem_map.mp mem
  exact ⟨trivial, rfl⟩

theorem hostPortRefs_checked (podSpec : PodSpec) :
    ∀ r ∈ hostPortRefs podSpec, r.WellFormed ∧ r.check = "hostPorts" := by
  intro r mem
  obtain ⟨v, listed, there⟩ := List.mem_flatMap.mp mem
  obtain ⟨_, -, rfl⟩ := List.mem_map.mp there
  exact ⟨podContainers_wellFormed listed, rfl⟩

theorem privilegedRefs_checked (podSpec : PodSpec) :
    ∀ r ∈ privilegedRefs podSpec, r.WellFormed ∧ r.check = "privileged" := by
  intro r mem
  obtain ⟨v, kept, rfl⟩ := List.mem_map.mp mem
  exact ⟨podContainers_wellFormed (List.mem_filter.mp kept).1, rfl⟩

theorem procMountRefs_checked (podSpec : PodSpec) :
    ∀ r ∈ procMountRefs podSpec, r.WellFormed ∧ r.check = "procMount" := by
  intro r mem
  obtain ⟨v, listed, found⟩ := List.mem_filterMap.mp mem
  obtain ⟨_, -, rfl⟩ := Option.map_eq_some'.mp found
  exact ⟨podContainers_wellFormed listed, rfl⟩

theorem seLinuxRefs_checked (podSpec : PodSpec) :
    ∀ r ∈ seLinuxRefs podSpec, r.WellFormed ∧ r.check = "seLinuxOptions" := by
  intro r mem
  rcases List.mem_append.mp mem with pod | containers
  · obtain ⟨o, -, listed⟩ := List.mem_flatMap.mp pod
    obtain ⟨field, rfl⟩ := mem_seLinuxFields listed
    exact ⟨trivial, rfl⟩
  · obtain ⟨v, listed, there⟩ := List.mem_flatMap.mp containers
    obtain ⟨o, -, found⟩ := List.mem_flatMap.mp there
    obtain ⟨field, rfl⟩ := mem_seLinuxFields found
    exact ⟨podContainers_wellFormed listed, rfl⟩

theorem baselineRefs_checked (podMetadata : ObjectMeta) (podSpec : PodSpec) :
    ∀ g ∈ baselineRefs podMetadata podSpec, ∀ r ∈ g.2, r.WellFormed ∧ r.check = g.1 := by
  simp only [baselineRefs, List.forall_mem_cons, List.not_mem_nil, false_implies, implies_true, and_true]
  exact ⟨appArmorRefs_checked podMetadata, hostPortRefs_checked podSpec, privilegedRefs_checked podSpec,
    procMountRefs_checked podSpec, seLinuxRefs_checked podSpec⟩

/-- The references of the registered checks are distinct: within a check by the lemmas
above, across checks because each names fields of its own. -/
theorem baselineRefs_nodup (podMetadata : ObjectMeta) (podSpec : PodSpec) :
    ((baselineRefs podMetadata podSpec).flatMap (·.2)).Nodup := by
  refine nodup_flatMap_of_check (by simp [baselineRefs]) ?_ fun g mem r listed =>
    (baselineRefs_checked podMetadata podSpec g mem r listed).2
  simp only [baselineRefs, List.forall_mem_cons, List.not_mem_nil, false_implies, implies_true, and_true]
  exact ⟨appArmorRefs_nodup podMetadata, hostPortRefs_nodup podSpec, privilegedRefs_nodup podSpec,
    procMountRefs_nodup podSpec, seLinuxRefs_nodup podSpec⟩

end Distinct

/-- A verdict's field errors over the registered checks address, in order, some of the
registered checks' references. -/
theorem evaluate_fields_sublist (quote : String → String) (level : Level) (version : Version)
    (podMetadata : ObjectMeta) (podSpec : PodSpec) (opts : Options) :
    ((aggregate (evaluate (baselineChecks quote) level version podMetadata podSpec opts)).errs.map (·.field)).Sublist
      (((baselineRefs podMetadata podSpec).flatMap (·.2)).map FieldRef.render) := by
  by_cases applies : Level.baseline ≤ level ∧ majorMinorVersion 1 0 ≤ version
  · rw [evaluate_baselineChecks quote applies.1 applies.2]
    refine ((aggregate_errs_sublist _).map _).trans ?_
    simp only [baselineRefs, List.flatMap_cons, List.flatMap_nil, List.append_nil, List.map_append]
    have appArmor := errList_fields_sublist (fields_of_ite (appArmorProfileV1Dot0_eq quote podMetadata podSpec opts)).2.2
      (appArmorErrors_fields podMetadata)
    have hostPorts := errList_fields_sublist (fields_of_ite (hostPortsV1Dot0_eq podMetadata podSpec opts)).2.2
      (hostPortErrors_fields podSpec)
    have privileged := errList_fields_sublist (fields_of_ite (privilegedV1Dot0_eq podMetadata podSpec opts)).2.2
      (privilegedErrors_fields podSpec)
    have procMount := errList_fields_sublist (fields_of_ite (procMountV1Dot0_eq podMetadata podSpec opts)).2.2
      (procMountErrors_fields podSpec)
    have seLinux := errList_fields_sublist (fields_of_ite (seLinuxOptionsV1Dot0_eq podMetadata podSpec opts)).2.2
      (seLinuxErrors_fields podSpec)
    exact appArmor.append (hostPorts.append (privileged.append (procMount.append seLinux)))
  · rw [aggregate_of_pass (evaluate_baselineChecks_pass quote applies podMetadata podSpec opts)]
    exact List.nil_sublist _

/-- No two field errors of a verdict over the registered checks address the same field. -/
theorem baseline_error_fields_nodup (quote : String → String) (level : Level) (version : Version)
    (podMetadata : ObjectMeta) (podSpec : PodSpec) (opts : Options) :
    ((aggregate (evaluate (baselineChecks quote) level version podMetadata podSpec opts)).errs.map
      (·.field)).Nodup := by
  have wf : ∀ r ∈ (baselineRefs podMetadata podSpec).flatMap (·.2), r.WellFormed := fun r mem => by
    obtain ⟨g, listed, there⟩ := List.mem_flatMap.mp mem
    exact (baselineRefs_checked podMetadata podSpec g listed r there).1
  exact (nodup_map_render wf (baselineRefs_nodup podMetadata podSpec)).sublist
    (evaluate_fields_sublist quote level version podMetadata podSpec opts)

section Exact

variable {podMetadata : ObjectMeta} {podSpec : PodSpec} {opts : Options}

theorem appArmorRefs_of_pass {quote : String → String}
    (pass : (appArmorProfileV1Dot0 quote podMetadata podSpec opts).allowed = true) : appArmorRefs podMetadata = [] := by
  have none_ := mt (fields_of_ite (appArmorProfileV1Dot0_eq quote podMetadata podSpec opts)).1.mpr (by simp [pass])
  simpa [appArmorRefs] using none_

theorem hostPortRefs_of_pass (pass : (hostPortsV1Dot0 podMetadata podSpec opts).allowed = true) :
    hostPortRefs podSpec = [] := by
  have none_ := mt (fields_of_ite (hostPortsV1Dot0_eq podMetadata podSpec opts)).1.mpr (by simp [pass])
  simp only [ne_eq, Decidable.not_not, List.length_eq_zero, List.map_eq_nil_iff, List.filter_eq_nil_iff] at none_
  refine List.flatMap_eq_nil_iff.mpr fun v mem => ?_
  have valid := none_ v.2.2 (podContainers_containers podSpec ▸ List.mem_map_of_mem _ mem)
  simp only [Container.setsHostPort, List.any_eq_true, decide_eq_true_eq, not_exists, not_and, not_not] at valid
  simp only [List.map_eq_nil_iff, List.filter_eq_nil_iff, decide_eq_true_eq, not_not]
  exact fun port mem => valid port.2 (List.enum_map_snd v.2.2.ports ▸ List.mem_map_of_mem Prod.snd mem)

theorem privilegedRefs_of_pass (pass : (privilegedV1Dot0 podMetadata podSpec opts).allowed = true) :
    privilegedRefs podSpec = [] := by
  have none_ := mt (fields_of_ite (privilegedV1Dot0_eq podMetadata podSpec opts)).1.mpr (by simp [pass])
  simp only [ne_eq, Decidable.not_not, List.length_eq_zero, List.map_eq_nil_iff, List.filter_eq_nil_iff] at none_
  simp only [privilegedRefs, List.map_eq_nil_iff, List.filter_eq_nil_iff]
  exact fun v mem => none_ v.2.2 (podContainers_containers podSpec ▸ List.mem_map_of_mem _ mem)

theorem procMountRefs_of_pass (pass : (procMountV1Dot0 podMetadata podSpec opts).allowed = true) :
    procMountRefs podSpec = [] := by
  have none_ := mt (fields_of_ite (procMountV1Dot0_eq podMetadata podSpec opts)).1.mpr (by simp [pass])
  simp only [ne_eq, Decidable.not_not, List.length_eq_zero, List.map_eq_nil_iff, List.filter_eq_nil_iff] at none_
  refine List.filterMap_eq_nil_iff.mpr fun v mem => ?_
  have valid := none_ v.2.2 (podContainers_containers podSpec ▸ List.mem_map_of_mem _ mem)
  simp_all [Container.setsProcMount]

theorem seLinuxRefs_of_pass (pass : (seLinuxOptionsV1Dot0 podMetadata podSpec opts).allowed = true) :
    seLinuxRefs podSpec = [] := by
  have clean := (seLinuxOptionsV1Dot0_allowed_eq_false_iff podMetadata podSpec opts).not.mp (by simp [pass])
  simp only [not_or, not_exists, not_and] at clean
  have valid {o : SELinuxOptions} (good : ¬o.bad) : o.valid = true := by
    simpa [← SELinuxOptions.valid_eq_false_iff] using good
  refine List.append_eq_nil.mpr ⟨List.flatMap_eq_nil_iff.mpr fun o mem => ?_,
    List.flatMap_eq_nil_iff.mpr fun v mem => List.flatMap_eq_nil_iff.mpr fun o mem' => ?_⟩
  · exact seLinuxFields_of_valid (valid (clean.1 o (Option.mem_toList.mp mem))) _
  · have listed := podContainers_containers podSpec ▸ List.mem_map_of_mem _ mem
    exact seLinuxFields_of_valid (valid (clean.2 v.2.2 listed o (Option.mem_toList.mp mem'))) _

/-- With field errors, the field paths of a check's error list are exactly the renderings of
its references, when a passing check has none. -/
theorem errList_fields_eq {result : CheckResult} {withFieldErrors : Bool} {errs : List Field.Error}
    {refs : List FieldRef}
    (errList : result.errList = if withFieldErrors = true ∧ result.allowed = false then some errs else none)
    (enabled : withFieldErrors = true) (fields : errs.map (·.field) = refs.map FieldRef.render)
    (empty : result.allowed = true → refs = []) :
    (result.errList.getD []).map (·.field) = refs.map FieldRef.render := by
  rw [errList]
  cases pass : result.allowed
  · rw [if_pos ⟨enabled, rfl⟩]
    exact fields
  · rw [if_neg (by simp), empty pass]
    rfl

end Exact

/-- With field errors, when the registered checks apply, a verdict's field errors address
exactly the fields the checks forbid, check by check in registration order and each
check's in traversal order. -/
theorem baseline_error_fields (quote : String → String) {level : Level} {version : Version}
    (applies : Level.baseline ≤ level ∧ majorMinorVersion 1 0 ≤ version) (podMetadata : ObjectMeta)
    (podSpec : PodSpec) {opts : Options} (enabled : opts.withFieldErrors = true) :
    (aggregate (evaluate (baselineChecks quote) level version podMetadata podSpec opts)).errs.map (·.field) =
      ((baselineRefs podMetadata podSpec).flatMap (·.2)).map FieldRef.render := by
  rw [evaluate_baselineChecks quote applies.1 applies.2, aggregate_errs_eq]
  · simp only [List.flatMap_cons, List.flatMap_nil, List.append_nil, List.map_append, baselineRefs]
    rw [errList_fields_eq (fields_of_ite (appArmorProfileV1Dot0_eq quote podMetadata podSpec opts)).2.2 enabled
        (appArmorErrors_fields podMetadata) appArmorRefs_of_pass,
      errList_fields_eq (fields_of_ite (hostPortsV1Dot0_eq podMetadata podSpec opts)).2.2 enabled
        (hostPortErrors_fields podSpec) hostPortRefs_of_pass,
      errList_fields_eq (fields_of_ite (privilegedV1Dot0_eq podMetadata podSpec opts)).2.2 enabled
        (privilegedErrors_fields podSpec) privilegedRefs_of_pass,
      errList_fields_eq (fields_of_ite (procMountV1Dot0_eq podMetadata podSpec opts)).2.2 enabled
        (procMountErrors_fields podSpec) procMountRefs_of_pass,
      errList_fields_eq (fields_of_ite (seLinuxOptionsV1Dot0_eq podMetadata podSpec opts)).2.2 enabled
        (seLinuxErrors_fields podSpec) seLinuxRefs_of_pass]
  · simp only [List.mem_cons, List.mem_singleton, List.not_mem_nil, or_false]
    rintro r (rfl | rfl | rfl | rfl | rfl) pass
    · exact ((appArmorProfileV1Dot0_sound quote podMetadata podSpec opts).1 pass).2.2
    · exact ((hostPortsV1Dot0_sound podMetadata podSpec opts).1 pass).2.2
    · exact ((privilegedV1Dot0_sound podMetadata podSpec opts).1 pass).2.2
    · exact ((procMountV1Dot0_sound podMetadata podSpec opts).1 pass).2.2
    · exact ((seLinuxOptionsV1Dot0_sound podMetadata podSpec opts).1 pass).2.2

theorem baseline_error_fields_privileged :
    let podSpec : PodSpec := { containers := [{ name := "a", securityContext := some { privileged := some true } }] }
    (Level.baseline ≤ Level.baseline ∧ majorMinorVersion 1 0 ≤ majorMinorVersion 1 0) ∧
      (⟨true⟩ : Options).withFieldErrors = true ∧
      (aggregate (evaluate (baselineChecks id) .baseline (majorMinorVersion 1 0) {} podSpec ⟨true⟩)).errs.map
          (·.field) =
        ((baselineRefs {} podSpec).flatMap (·.2)).map FieldRef.render :=
  ⟨⟨by decide, Version.le_refl _⟩, rfl, baseline_error_fields id ⟨by decide, Version.le_refl _⟩ _ _ rfl⟩

section FieldErrorsOff

variable (podMetadata : ObjectMeta) (podSpec : PodSpec) (opts : Options)

theorem appArmorProfileV1Dot0_fieldErrors_off (quote : String → String) :
    appArmorProfileV1Dot0 quote podMetadata podSpec ⟨false⟩ =
      { appArmorProfileV1Dot0 quote podMetadata podSpec opts with errList := none } := by
  simp only [appArmorProfileV1Dot0_eq, appArmorProfileResult, Bool.false_eq_true, ↓reduceIte]
  split_ifs <;> rfl

theorem hostPortsV1Dot0_fieldErrors_off :
    hostPortsV1Dot0 podMetadata podSpec ⟨false⟩ =
      { hostPortsV1Dot0 podMetadata podSpec opts with errList := none } := by
  simp only [hostPortsV1Dot0_eq, hostPortsResult, Bool.false_eq_true, ↓reduceIte]
  split_ifs <;> rfl

theorem privilegedV1Dot0_fieldErrors_off :
    privilegedV1Dot0 podMetadata podSpec ⟨false⟩ =
      { privilegedV1Dot0 podMetadata podSpec opts with errList := none } := by
  simp only [privilegedV1Dot0_eq, privilegedResult, Bool.false_eq_true, ↓reduceIte]
  split_ifs <;> rfl

theorem procMountV1Dot0_fieldErrors_off :
    procMountV1Dot0 podMetadata podSpec ⟨false⟩ =
      { procMountV1Dot0 podMetadata podSpec opts with errList := none } := by
  simp only [procMountV1Dot0_eq, procMountOutcome, procMountResult, Bool.false_eq_true, ↓reduceIte]
  split_ifs <;> rfl

theorem seLinuxOptionsV1Dot0_fieldErrors_off :
    seLinuxOptionsV1Dot0 podMetadata podSpec ⟨false⟩ =
      { seLinuxOptionsV1Dot0 podMetadata podSpec opts with errList := none } := by
  simp only [seLinuxOptionsV1Dot0_eq, seLinuxOptionsResult, Bool.false_eq_true, ↓reduceIte]
  split_ifs <;> rfl

end FieldErrorsOff

/-- Field errors only add the error list: without them, a verdict over the registered checks
is the verdict with them, its error list dropped. -/
theorem baseline_verdict_fieldErrors_off (quote : String → String) (level : Level) (version : Version)
    (podMetadata : ObjectMeta) (podSpec : PodSpec) (opts : Options) :
    aggregate (evaluate (baselineChecks quote) level version podMetadata podSpec ⟨false⟩) =
      { aggregate (evaluate (baselineChecks quote) level version podMetadata podSpec opts) with errs := [] } := by
  rw [← aggregate_map_erase_errList]
  by_cases applies : Level.baseline ≤ level ∧ majorMinorVersion 1 0 ≤ version
  · simp only [evaluate_baselineChecks quote applies.1 applies.2, List.map_cons, List.map_nil,
      appArmorProfileV1Dot0_fieldErrors_off _ _ opts, hostPortsV1Dot0_fieldErrors_off _ _ opts,
      privilegedV1Dot0_fieldErrors_off _ _ opts, procMountV1Dot0_fieldErrors_off _ _ opts,
      seLinuxOptionsV1Dot0_fieldErrors_off _ _ opts]
  · have passes := evaluate_baselineChecks_pass quote applies podMetadata podSpec
    rw [aggregate_of_pass (passes _), aggregate_of_pass (by simpa using passes opts)]

end PodSecurity
