import PodSecurity.Policy.Visitor

/-! seLinuxOptionsV1Dot0: a pod-level test, then a test of every container, both through the
closure validSELinuxOptions, which writes the check's variables. The container errors are
kept aside and added once, with a single label for all bad containers. -/
namespace PodSecurity

def selinuxAllowedTypes_1_0 : StringSet := {"", "container_t", "container_init_t", "container_kvm_t"}

/-- The variables validSELinuxOptions writes. -/
structure SELinuxState where
  badContainersErrFns : List ErrFn
  badPodErrFns : List ErrFn
  badTypes : StringSet
  setUser : Bool
  setRole : Bool

/-- What each of the three tests of validSELinuxOptions records for a bad field: an error at
the container's path when it has one, else at the pod-level path for the pod with field
errors. -/
def SELinuxState.recordField (opts : Options) (st : SELinuxState) (pathFn : PathFn) (isPodLevel : Bool)
    (field : String) (podPath : PathFn) (value : String) : SELinuxState :=
  if pathFn.isSome then
    { st with badContainersErrFns := st.badContainersErrFns ++
        [(forbidden (pathFn.child "securityContext" ["seLinuxOptions", field])).withBadValue (.str value)] }
  else if isPodLevel && opts.withFieldErrors then
    { st with badPodErrFns := st.badPodErrFns ++ [(forbidden podPath).withBadValue (.str value)] }
  else st

/-- validSELinuxOptions: whether the options pass, and the variables after its three tests. -/
def validSELinuxOptions (opts : Options) (st : SELinuxState) (selinuxOpts : SELinuxOptions) (pathFn : PathFn)
    (isPodLevel : Bool) : Bool × SELinuxState :=
  let typeAllowed := selinuxAllowedTypes_1_0.has selinuxOpts.type
  let st := if typeAllowed then st else
    { st.recordField opts pathFn isPodLevel "type" seLinuxOptionsTypePath selinuxOpts.type with
      badTypes := insert selinuxOpts.type st.badTypes }
  let st := if selinuxOpts.user.length > 0 then
    { st.recordField opts pathFn isPodLevel "user" seLinuxOptionsUserPath selinuxOpts.user with setUser := true }
    else st
  let st := if selinuxOpts.role.length > 0 then
    { st.recordField opts pathFn isPodLevel "role" seLinuxOptionsRolePath selinuxOpts.role with setRole := true }
    else st
  (typeAllowed && selinuxOpts.user.length == 0 && selinuxOpts.role.length == 0, st)

/-- The visitor: the names of the bad containers, and the variables of validSELinuxOptions. -/
def seLinuxOptionsVisitor (opts : Options) (acc : List String × SELinuxState) (container : Container)
    (pathFn : PathFn) : List String × SELinuxState :=
  match container.securityContext.bind (·.seLinuxOptions) with
  | some selinuxOpts =>
    let r := validSELinuxOptions opts acc.2 selinuxOpts pathFn false
    (if !r.1 then acc.1 ++ [container.name] else acc.1, r.2)
  | none => acc

/-- What seLinuxOptionsV1Dot0 returns from the setter labels, the field errors and what the
tests saw. -/
def seLinuxOptionsResult (badSetters : List String) (errList : Option (List Field.Error)) (badTypes : StringSet)
    (setUser setRole : Bool) : CheckResult :=
  if badSetters.length ≠ 0 then
    let badData :=
      (if badTypes.card > 0 then [pluralize "type" "types" badTypes.card ++ " " ++ joinQuote badTypes.list] else []) ++
      (if setUser then ["user may not be set"] else []) ++
      (if setRole then ["role may not be set"] else [])
    { allowed := false
      forbiddenReason := "seLinuxOptions"
      forbiddenDetail := String.intercalate " and " badSetters ++ " set forbidden securityContext.seLinuxOptions: " ++
        String.intercalate "; " badData
      errList := errList }
  else { allowed := true }

/-- The pod-level test: "pod" joins the setters, with the pod-level errors, when the pod's
options fail. -/
def seLinuxPodSetters (opts : Options) (badSetters : Violations) (st : SELinuxState) (podSpec : PodSpec) :
    Violations × SELinuxState :=
  match podSpec.securityContext.bind (·.seLinuxOptions) with
  | some selinuxOpts =>
    let r := validSELinuxOptions opts st selinuxOpts none true
    (if !r.1 then badSetters.add "pod" r.2.badPodErrFns else badSetters, r.2)
  | none => (badSetters, st)

def seLinuxOptionsV1Dot0 (podMetadata : ObjectMeta) (podSpec : PodSpec) (opts : Options) : CheckResult :=
  let pod := seLinuxPodSetters opts (newViolations opts.withFieldErrors) ⟨[], [], ∅, false, false⟩ podSpec
  let containers := visitContainers podSpec opts (seLinuxOptionsVisitor opts) ([], pod.2)
  let badContainers := containers.1
  let badSetters := if badContainers.length > 0 then
      pod.1.add (pluralize "container" "containers" badContainers.length ++ " " ++ joinQuote badContainers)
        containers.2.badContainersErrFns
    else pod.1
  seLinuxOptionsResult badSetters.data badSetters.errs containers.2.badTypes containers.2.setUser containers.2.setRole

/-- Whether options pass the three tests of validSELinuxOptions. -/
def SELinuxOptions.valid (o : SELinuxOptions) : Bool :=
  selinuxAllowedTypes_1_0.has o.type && o.user.length == 0 && o.role.length == 0

/-- One entry per field the tests find bad, in the order they test them, made by
`entry field value`. -/
def seLinuxFields {α : Type} (entry : String → String → α) (o : SELinuxOptions) : List α :=
  (if selinuxAllowedTypes_1_0.has o.type then [] else [entry "type" o.type]) ++
  (if o.user.length > 0 then [entry "user" o.user] else []) ++
  (if o.role.length > 0 then [entry "role" o.role] else [])

/-- The error function validSELinuxOptions records for a container field. -/
def containerErrFn (pathFn : PathFn) (field value : String) : ErrFn :=
  (forbidden (pathFn.child "securityContext" ["seLinuxOptions", field])).withBadValue (.str value)

/-- The error function validSELinuxOptions records for a pod-level field. -/
def podErrFn (field value : String) : ErrFn :=
  (forbidden (securityContextPath.child "seLinuxOptions" [field])).withBadValue (.str value)

theorem SELinuxState.recordField_eq (opts : Options) (st : SELinuxState) (pathFn : PathFn) (isPodLevel : Bool)
    (field : String) (podPath : PathFn) (value : String) :
    st.recordField opts pathFn isPodLevel field podPath value =
      { st with
        badContainersErrFns := st.badContainersErrFns ++
          (if pathFn.isSome then [containerErrFn pathFn field value] else [])
        badPodErrFns := st.badPodErrFns ++
          (if pathFn.isNone && isPodLevel && opts.withFieldErrors then
            [(forbidden podPath).withBadValue (.str value)] else []) } := by
  unfold SELinuxState.recordField
  cases pathFn <;> cases isPodLevel <;> cases opts.withFieldErrors <;> simp [containerErrFn]

theorem validSELinuxOptions_eq (opts : Options) (st : SELinuxState) (o : SELinuxOptions) (pathFn : PathFn)
    (isPodLevel : Bool) :
    validSELinuxOptions opts st o pathFn isPodLevel =
      (o.valid,
        { badContainersErrFns := st.badContainersErrFns ++
            (if pathFn.isSome then seLinuxFields (containerErrFn pathFn) o else [])
          badPodErrFns := st.badPodErrFns ++
            (if pathFn.isNone && isPodLevel && opts.withFieldErrors then seLinuxFields podErrFn o else [])
          badTypes := if selinuxAllowedTypes_1_0.has o.type then st.badTypes else insert o.type st.badTypes
          setUser := st.setUser || decide (o.user.length > 0)
          setRole := st.setRole || decide (o.role.length > 0) }) := by
  simp only [validSELinuxOptions, SELinuxState.recordField_eq, SELinuxOptions.valid, seLinuxFields]
  generalize (pathFn.isNone && isPodLevel && opts.withFieldErrors) = atPod
  cases ht : selinuxAllowedTypes_1_0.has o.type <;> by_cases hu : o.user.length > 0 <;>
    by_cases hr : o.role.length > 0 <;> cases pathFn.isSome <;> cases atPod <;>
    simp [ht, hu, hr, podErrFn, seLinuxOptionsTypePath, seLinuxOptionsUserPath, seLinuxOptionsRolePath]

theorem seLinuxFields_of_valid {α : Type} {o : SELinuxOptions} (valid : o.valid = true)
    (entry : String → String → α) : seLinuxFields entry o = [] := by
  simp only [SELinuxOptions.valid, Bool.and_eq_true, beq_iff_eq] at valid
  simp [seLinuxFields, valid.1.1, valid.1.2, valid.2]

theorem seLinuxFields_filterMap {α β : Type} (entry : String → String → α) (g : α → Option β)
    (h : String → String → β) (each : ∀ field value, field ≠ "" → g (entry field value) = some (h field value))
    (o : SELinuxOptions) : (seLinuxFields entry o).filterMap g = seLinuxFields h o := by
  unfold seLinuxFields
  split <;> split <;> split <;> simp [each _ _ (by decide : ("type" : String) ≠ ""),
    each _ _ (by decide : ("user" : String) ≠ ""), each _ _ (by decide : ("role" : String) ≠ "")]

/-- The errors for the fields the tests find bad, each at `pre` followed by the field name. -/
def seLinuxErrors (pre : String) (o : SELinuxOptions) : List Field.Error :=
  seLinuxFields (fun field value => ⟨.forbidden, pre ++ field, .str value, ""⟩) o

theorem call_containerErrFn (opts : Options) {collection : String} (named : collection ≠ "") (i : Nat)
    (field value : String) (hf : field ≠ "") :
    (containerErrFn (visitPath opts collection i) field value).call =
      if opts.withFieldErrors then
        some ⟨.forbidden, "spec." ++ collection ++ "[" ++ toString i ++ "].securityContext.seLinuxOptions." ++ field,
          .str value, ""⟩
      else none := by
  have h := call_forbidden_visitPath opts collection i [.child "securityContext" ["seLinuxOptions", field]]
    (.str value)
  rw [show containerErrFn (visitPath opts collection i) field value =
    (forbidden ((visitPath opts collection i).steps [.child "securityContext" ["seLinuxOptions", field]])).withBadValue
      (.str value) from rfl, h]
  simp only [Field.Path.steps, List.foldl, Field.Path.step, Field.Path.child_cons]
  rw [Field.toString_child (by simp) _ hf, Field.toString_child (by simp) _ (by decide),
    Field.toString_child (by simp [containerPath]) _ (by decide), toString_containerPath named]
  simp only [String.append_assoc]
  rfl

theorem call_podErrFn (field value : String) (hf : field ≠ "") :
    (podErrFn field value).call =
      some ⟨.forbidden, "spec.securityContext.seLinuxOptions." ++ field, .str value, ""⟩ := by
  have present : Field.newPath "spec" [] ≠ [] := by simp
  have h := ErrFn.call_of_resolve (forbidden_resolve_steps (resolve_withPath present) present
    [.child "securityContext" [], .child "seLinuxOptions" [field]] (.str value))
  refine (h.trans ?_)
  simp only [Field.Path.steps, List.foldl, Field.Path.step, Field.Path.child_cons]
  rw [Field.toString_child (by simp) _ hf, Field.toString_child (by simp) _ (by decide),
    Field.toString_child (by simp) _ (by decide), Field.toString_root _ (by decide)]
  simp only [String.append_assoc]
  rfl

/-- The options a container sets, if any. -/
def Container.seLinuxOptions (c : Container) : Option SELinuxOptions := c.securityContext.bind (·.seLinuxOptions)

/-- Whether a container sets options that fail the tests. -/
def Container.seLinuxBad (c : Container) : Bool := c.seLinuxOptions.any (!·.valid)

/-- The disallowed types among options. -/
def badTypesOf (os : List SELinuxOptions) : StringSet :=
  ((os.filter fun o => !selinuxAllowedTypes_1_0.has o.type).map (·.type)).toFinset

/-- The options the containers set, in traversal order. -/
def containersSeLinuxOptions (cs : List Container) : List SELinuxOptions := cs.flatMap (·.seLinuxOptions.toList)

@[simp] theorem badTypesOf_append (os os' : List SELinuxOptions) :
    badTypesOf (os ++ os') = badTypesOf os ∪ badTypesOf os' := by
  simp [badTypesOf, List.toFinset_append]

/-- Where the fields of the container at `spec.<collection>[i]` are reported. -/
def containerSeLinuxPrefix (collection : String) (i : Nat) : String :=
  "spec." ++ collection ++ "[" ++ toString i ++ "].securityContext.seLinuxOptions."

theorem seLinuxOptionsVisitor_visitPath (opts : Options) (acc : List String × SELinuxState) {collection : String}
    (named : collection ≠ "") (i : Nat) (c : Container) :
    let r := seLinuxOptionsVisitor opts acc c (visitPath opts collection i)
    r.1 = acc.1 ++ (if c.seLinuxBad then [c.name] else []) ∧
    r.2.badContainersErrFns.filterMap ErrFn.call = acc.2.badContainersErrFns.filterMap ErrFn.call ++
      (if opts.withFieldErrors then
        c.seLinuxOptions.toList.flatMap (seLinuxErrors (containerSeLinuxPrefix collection i)) else []) ∧
    r.2.badPodErrFns = acc.2.badPodErrFns ∧
    r.2.badTypes = acc.2.badTypes ∪ badTypesOf c.seLinuxOptions.toList ∧
    r.2.setUser = (acc.2.setUser || c.seLinuxOptions.toList.any (·.user.length > 0)) ∧
    r.2.setRole = (acc.2.setRole || c.seLinuxOptions.toList.any (·.role.length > 0)) := by
  unfold seLinuxOptionsVisitor Container.seLinuxBad
  rw [show c.securityContext.bind (·.seLinuxOptions) = c.seLinuxOptions from rfl]
  cases c.seLinuxOptions with
  | none => simp [badTypesOf]
  | some o =>
    have calls : (if (visitPath opts collection i).isSome then seLinuxFields (containerErrFn (visitPath opts collection i)) o
        else []).filterMap ErrFn.call =
        if opts.withFieldErrors then seLinuxErrors (containerSeLinuxPrefix collection i) o else [] := by
      cases enabled : opts.withFieldErrors
      · simp [visitPath, enabled]
      · rw [if_pos (by simp [visitPath, enabled]), if_pos rfl]
        exact seLinuxFields_filterMap _ _ _ (fun field value hf => by
          rw [call_containerErrFn opts named i field value hf, enabled, if_pos rfl]; rfl) o
    simp only [validSELinuxOptions_eq, Option.any_some, Option.toList_some, List.filterMap_append, calls]
    refine ⟨by split <;> simp, by cases opts.withFieldErrors <;> simp, by simp [visitPath], ?_, ?_, ?_⟩
    · cases h : selinuxAllowedTypes_1_0.has o.type <;> simp [badTypesOf, h, Finset.insert_eq, Finset.union_comm]
    · simp
    · simp

/-- The run of the visitor over containers with their collections and indices: the bad
containers are named in order, their errors follow in order, and the pod-level errors are
untouched. -/
theorem seLinuxOptions_run (opts : Options) (vs : List (String × Nat × Container)) (named : ∀ v ∈ vs, v.1 ≠ "")
    (acc : List String × SELinuxState) :
    let r := vs.foldl (fun s v => seLinuxOptionsVisitor opts s v.2.2 (visitPath opts v.1 v.2.1)) acc
    let os := containersSeLinuxOptions (vs.map (·.2.2))
    r.1 = acc.1 ++ ((vs.map (·.2.2)).filter (·.seLinuxBad)).map (·.name) ∧
    r.2.badContainersErrFns.filterMap ErrFn.call = acc.2.badContainersErrFns.filterMap ErrFn.call ++
      (if opts.withFieldErrors then
        vs.flatMap fun v => v.2.2.seLinuxOptions.toList.flatMap (seLinuxErrors (containerSeLinuxPrefix v.1 v.2.1))
      else []) ∧
    r.2.badPodErrFns = acc.2.badPodErrFns ∧
    r.2.badTypes = acc.2.badTypes ∪ badTypesOf os ∧
    r.2.setUser = (acc.2.setUser || os.any (·.user.length > 0)) ∧
    r.2.setRole = (acc.2.setRole || os.any (·.role.length > 0)) := by
  induction vs generalizing acc with
  | nil => simp [containersSeLinuxOptions, badTypesOf]
  | cons v vs ih =>
    obtain ⟨h1, h2, h3, h4, h5, h6⟩ :=
      seLinuxOptionsVisitor_visitPath opts acc (named v (List.mem_cons_self _ _)) v.2.1 v.2.2
    obtain ⟨i1, i2, i3, i4, i5, i6⟩ := ih (fun u mem => named u (List.mem_cons_of_mem _ mem))
      (seLinuxOptionsVisitor opts acc v.2.2 (visitPath opts v.1 v.2.1))
    simp only [List.foldl_cons, containersSeLinuxOptions, List.map_cons, List.flatMap_cons] at *
    refine ⟨?_, ?_, i3.trans h3, ?_, ?_, ?_⟩
    · rw [i1, h1]; cases h : v.2.2.seLinuxBad <;> simp [List.filter_cons, h]
    · rw [i2, h2]; cases opts.withFieldErrors <;> simp
    · rw [i4, h4, badTypesOf_append, Finset.union_assoc]
    · rw [i5, h5, List.any_append, Bool.or_assoc]
    · rw [i6, h6, List.any_append, Bool.or_assoc]

/-- The options set at pod level, if any. -/
def PodSpec.seLinuxOptions (podSpec : PodSpec) : Option SELinuxOptions :=
  podSpec.securityContext.bind (·.seLinuxOptions)

/-- Where the pod-level fields are reported. -/
def podSeLinuxPrefix : String := "spec.securityContext.seLinuxOptions."

theorem seLinuxPodSetters_eq (opts : Options) (podSpec : PodSpec) :
    let pod := seLinuxPodSetters opts (newViolations opts.withFieldErrors) ⟨[], [], ∅, false, false⟩ podSpec
    let os := podSpec.seLinuxOptions.toList
    pod.1 = ((newViolations opts.withFieldErrors).appendData (if os.any (!·.valid) then ["pod"] else [])).pushErrs
        (if opts.withFieldErrors then os.flatMap (seLinuxErrors podSeLinuxPrefix) else []) ∧
    pod.2.badContainersErrFns = [] ∧ pod.2.badTypes = badTypesOf os ∧
    pod.2.setUser = os.any (·.user.length > 0) ∧ pod.2.setRole = os.any (·.role.length > 0) := by
  unfold seLinuxPodSetters PodSpec.seLinuxOptions
  cases podSpec.securityContext.bind (·.seLinuxOptions) with
  | none => simp [badTypesOf]
  | some o =>
    have calls : (seLinuxFields podErrFn o).filterMap ErrFn.call = seLinuxErrors podSeLinuxPrefix o :=
      seLinuxFields_filterMap _ _ _ (fun field value hf => call_podErrFn field value hf) o
    simp only [validSELinuxOptions_eq, Option.toList_some, List.any_cons, List.any_nil, Bool.or_false,
      List.flatMap_cons, List.flatMap_nil, List.append_nil]
    refine ⟨?_, rfl, ?_, by simp, by simp⟩
    · cases valid : o.valid
      · cases enabled : opts.withFieldErrors <;> simp [Violations.add_id, calls, enabled]
      · simp [seLinuxErrors, seLinuxFields_of_valid valid]
    · cases h : selinuxAllowedTypes_1_0.has o.type <;> simp [badTypesOf, h]

/-- The spec's bad(o): a type outside the allowed set, or a user or a role set. -/
def SELinuxOptions.bad (o : SELinuxOptions) : Prop :=
  o.type ∉ selinuxAllowedTypes_1_0 ∨ o.user ≠ "" ∨ o.role ≠ ""

theorem SELinuxOptions.valid_eq_false_iff (o : SELinuxOptions) : o.valid = false ↔ o.bad := by
  simp [SELinuxOptions.valid, SELinuxOptions.bad, StringSet.has, length_eq_zero_iff_eq_empty, or_assoc,
    imp_iff_not_or]

/-- All options the tests look at: the pod's, then the containers' in traversal order. -/
def podSeLinuxOptions (podSpec : PodSpec) : List SELinuxOptions :=
  podSpec.seLinuxOptions.toList ++ containersSeLinuxOptions (allContainers podSpec)

/-- The setter labels: "pod" when the pod-level options fail, then one label naming the
failing containers. -/
def seLinuxSetters (podSpec : PodSpec) : List String :=
  let names := ((allContainers podSpec).filter (·.seLinuxBad)).map (·.name)
  (if podSpec.seLinuxOptions.toList.any (!·.valid) then ["pod"] else []) ++
  (if names.length > 0 then [pluralize "container" "containers" names.length ++ " " ++ joinQuote names] else [])

/-- The field errors: the pod-level ones, then each container's in traversal order. -/
def seLinuxFieldErrors (podSpec : PodSpec) : List Field.Error :=
  podSpec.seLinuxOptions.toList.flatMap (seLinuxErrors podSeLinuxPrefix) ++
  (podContainers podSpec).flatMap fun v =>
    v.2.2.seLinuxOptions.toList.flatMap (seLinuxErrors (containerSeLinuxPrefix v.1 v.2.1))

theorem seLinuxErrors_ne_nil {o : SELinuxOptions} (invalid : o.valid = false) (pre : String) :
    seLinuxErrors pre o ≠ [] := by
  intro none_
  simp [seLinuxErrors, seLinuxFields] at none_
  simp [SELinuxOptions.valid, none_] at invalid

theorem seLinuxErrors_of_not_bad {c : Container} (ok : c.seLinuxBad = false) (pre : String) :
    c.seLinuxOptions.toList.flatMap (seLinuxErrors pre) = [] := by
  unfold Container.seLinuxBad at ok
  cases h : c.seLinuxOptions <;> simp_all [seLinuxErrors, seLinuxFields_of_valid]

theorem containerSeLinuxErrors_of_none_bad {podSpec : PodSpec}
    (none : ((allContainers podSpec).filter (·.seLinuxBad)).map (·.name) = []) :
    ((podContainers podSpec).flatMap fun v =>
      v.2.2.seLinuxOptions.toList.flatMap (seLinuxErrors (containerSeLinuxPrefix v.1 v.2.1))) = [] := by
  simp only [List.map_eq_nil_iff, List.filter_eq_nil_iff, Bool.not_eq_true] at none
  refine List.flatMap_eq_nil_iff.mpr fun v mem => seLinuxErrors_of_not_bad (none _ ?_) _
  exact podContainers_containers podSpec ▸ List.mem_map_of_mem _ mem

theorem any_not_valid_iff (x : Option SELinuxOptions) : x.toList.any (!·.valid) = true ↔ ∃ o ∈ x, o.bad := by
  cases x <;> simp [← SELinuxOptions.valid_eq_false_iff]

theorem Container.seLinuxBad_iff (c : Container) :
    c.seLinuxBad = true ↔ ∃ o ∈ c.securityContext.bind (·.seLinuxOptions), o.bad := by
  rw [← any_not_valid_iff, Container.seLinuxBad, Container.seLinuxOptions]
  cases c.securityContext.bind (·.seLinuxOptions) <;> simp

theorem seLinuxSetters_length_ne_zero (podSpec : PodSpec) :
    (seLinuxSetters podSpec).length ≠ 0 ↔
      (∃ o ∈ podSpec.securityContext.bind (·.seLinuxOptions), o.bad) ∨
      ∃ c ∈ allContainers podSpec, ∃ o ∈ c.securityContext.bind (·.seLinuxOptions), o.bad := by
  have containers := length_map_filter_ne_zero Container.name Container.seLinuxBad (allContainers podSpec)
  simp only [Container.seLinuxBad_iff] at containers
  rw [← any_not_valid_iff, ← containers, seLinuxSetters, PodSpec.seLinuxOptions]
  generalize ((allContainers podSpec).filter (·.seLinuxBad)).map (·.name) = names
  cases (podSpec.securityContext.bind (·.seLinuxOptions)).toList.any (!·.valid) <;> cases names <;> simp

theorem seLinuxOptionsV1Dot0_eq (podMetadata : ObjectMeta) (podSpec : PodSpec) (opts : Options) :
    seLinuxOptionsV1Dot0 podMetadata podSpec opts =
      seLinuxOptionsResult (seLinuxSetters podSpec)
        (if opts.withFieldErrors then some (seLinuxFieldErrors podSpec) else none)
        (badTypesOf (podSeLinuxOptions podSpec))
        ((podSeLinuxOptions podSpec).any (·.user.length > 0)) ((podSeLinuxOptions podSpec).any (·.role.length > 0)) := by
  unfold seLinuxOptionsV1Dot0
  obtain ⟨p1, p2, p3, p4, p5⟩ := seLinuxPodSetters_eq opts podSpec
  generalize seLinuxPodSetters opts (newViolations opts.withFieldErrors) ⟨[], [], ∅, false, false⟩ podSpec = pod
    at p1 p2 p3 p4 p5 ⊢
  obtain ⟨r1, r2, -, r4, r5, r6⟩ := seLinuxOptions_run opts (podContainers podSpec)
    (fun _ => podContainers_collection) ([], pod.2)
  simp only [visitContainers_foldl]
  generalize List.foldl _ ([], pod.2) (podContainers podSpec) = containers at r1 r2 r4 r5 r6 ⊢
  simp only [podContainers_containers, p2, p3, p4, p5, List.nil_append, List.filterMap_nil] at r1 r2 r4 r5 r6
  simp only [r1, r4, r5, r6, podSeLinuxOptions, badTypesOf_append, List.any_append, seLinuxSetters,
    seLinuxFieldErrors]
  split
  · rw [Violations.add_id, r2, p1]
    congr 1
    cases opts.withFieldErrors <;> simp
  · rw [p1, containerSeLinuxErrors_of_none_bad (List.length_eq_zero.mp (Nat.eq_zero_of_not_pos ‹_›))]
    congr 1 <;> cases opts.withFieldErrors <;> simp [*]

theorem seLinuxOptionsV1Dot0_allowed_eq_false_iff (podMetadata : ObjectMeta) (podSpec : PodSpec) (opts : Options) :
    (seLinuxOptionsV1Dot0 podMetadata podSpec opts).allowed = false ↔
      (∃ o ∈ podSpec.securityContext.bind (·.seLinuxOptions), o.bad) ∨
      ∃ c ∈ allContainers podSpec, ∃ o ∈ c.securityContext.bind (·.seLinuxOptions), o.bad :=
  (fields_of_ite (seLinuxOptionsV1Dot0_eq podMetadata podSpec opts)).1.trans (seLinuxSetters_length_ne_zero podSpec)

theorem any_set_iff (f : SELinuxOptions → String) (os : List SELinuxOptions) :
    os.any (fun o => decide ((f o).length > 0)) = true ↔ ∃ o ∈ os, f o ≠ "" := by
  simp [length_pos_iff_ne_empty]

/-- seLinuxOptionsV1Dot0 fails exactly when the pod-level options or those of some init,
regular or ephemeral container are present and bad. It then reports "pod" and one label
for the bad containers in traversal order, the sorted set of the disallowed types, and
whether a user or a role was set, over all present options; with field errors it gives the
pod-level errors followed by the containers', each at its own field path; without them,
or on a pass, no error list. -/
theorem seLinuxOptionsV1Dot0_correct (podMetadata : ObjectMeta) (podSpec : PodSpec) (opts : Options) :
    let result := seLinuxOptionsV1Dot0 podMetadata podSpec opts
    let options := podSeLinuxOptions podSpec
    (result.allowed = false ↔
      (∃ o ∈ podSpec.securityContext.bind (·.seLinuxOptions), o.bad) ∨
      ∃ c ∈ allContainers podSpec, ∃ o ∈ c.securityContext.bind (·.seLinuxOptions), o.bad) ∧
    (result.allowed = false → result.forbiddenReason = "seLinuxOptions" ∧
      ∃ types, SortedSetOf (fun t => ∃ o ∈ options, o.type ∉ selinuxAllowedTypes_1_0 ∧ o.type = t) types ∧
        result.forbiddenDetail = String.intercalate " and " (seLinuxSetters podSpec) ++
          " set forbidden securityContext.seLinuxOptions: " ++ String.intercalate "; "
            ((if types ≠ [] then [pluralize "type" "types" types.length ++ " " ++ joinQuote types] else []) ++
              (if ∃ o ∈ options, o.user ≠ "" then ["user may not be set"] else []) ++
              (if ∃ o ∈ options, o.role ≠ "" then ["role may not be set"] else []))) ∧
    result.errList = if opts.withFieldErrors = true ∧ result.allowed = false then
      some (seLinuxFieldErrors podSpec) else none := by
  obtain ⟨-, fields, errs⟩ := fields_of_ite (seLinuxOptionsV1Dot0_eq podMetadata podSpec opts)
  refine ⟨seLinuxOptionsV1Dot0_allowed_eq_false_iff podMetadata podSpec opts, fun failing => ?_, errs⟩
  obtain ⟨reason, detail⟩ := fields failing
  refine ⟨reason, (badTypesOf (podSeLinuxOptions podSpec)).list, StringSet.list_sortedSetOf fun t => ?_, ?_⟩
  · simp [badTypesOf, StringSet.has, and_assoc]
  · rw [detail]
    simp only [any_set_iff]
    simp only [StringSet.length_list, ne_eq, ← List.length_eq_zero, gt_iff_lt, Nat.pos_iff_ne_zero]

end PodSecurity
