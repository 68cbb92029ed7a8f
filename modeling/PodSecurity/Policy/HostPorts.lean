import PodSecurity.Policy.Visitor

/-! hostPortsV1Dot0, the check the spec takes as the pattern of the container checks: a loop
over each container's ports inside the shared traversal. -/
namespace PodSecurity

/-- The variables the visitor of hostPortsV1Dot0 writes. -/
structure HostPortsState where
  badContainers : Violations
  forbiddenHostPorts : StringSet

/-- The loop over one container's ports, with the variables it writes: still valid, the
error functions, and the host ports seen. -/
def hostPortsScan (opts : Options) (pathFn : PathFn) :
    Nat → List ContainerPort → Bool × List ErrFn × StringSet → Bool × List ErrFn × StringSet
  | _, [], acc => acc
  | i, c :: cs, (valid, errFns, forbiddenHostPorts) =>
    hostPortsScan opts pathFn (i + 1) cs
      (if c.hostPort ≠ 0 then
        (false,
          if opts.withFieldErrors then
            errFns ++ [(forbidden (((pathFn.child "ports" []).index i).child "hostPort" [])).withBadValue
              (.int c.hostPort)]
          else errFns,
          insert (toString c.hostPort) forbiddenHostPorts)
      else (valid, errFns, forbiddenHostPorts))

def hostPortsVisitor (opts : Options) (st : HostPortsState) (container : Container) (pathFn : PathFn) :
    HostPortsState :=
  let scan := hostPortsScan opts pathFn 0 container.ports (true, [], st.forbiddenHostPorts)
  if !scan.1 then
    ⟨if opts.withFieldErrors then st.badContainers.add container.name scan.2.1
      else st.badContainers.add container.name ([] : List ErrFn), scan.2.2⟩
  else ⟨st.badContainers, scan.2.2⟩

/-- What hostPortsV1Dot0 returns from the names it recorded, the host ports it saw and the
field errors. -/
def hostPortsResult (badContainers : List String) (forbiddenHostPorts : StringSet)
    (errList : Option (List Field.Error)) : CheckResult :=
  if badContainers.length ≠ 0 then
    { allowed := false
      forbiddenReason := "hostPort"
      forbiddenDetail :=
        pluralize "container" "containers" badContainers.length ++ " " ++ joinQuote badContainers ++ " " ++
        pluralize "uses" "use" badContainers.length ++ " " ++
        pluralize "hostPort" "hostPorts" forbiddenHostPorts.card ++ " " ++
        String.intercalate ", " forbiddenHostPorts.list
      errList := errList }
  else { allowed := true }

def hostPortsV1Dot0 (podMetadata : ObjectMeta) (podSpec : PodSpec) (opts : Options) : CheckResult :=
  let st := visitContainers podSpec opts (hostPortsVisitor opts) ⟨newViolations opts.withFieldErrors, ∅⟩
  hostPortsResult st.badContainers.data st.forbiddenHostPorts st.badContainers.errs

/-- Whether a container sets a host port, that is a nonzero one. -/
def Container.setsHostPort (c : Container) : Bool := c.ports.any (·.hostPort ≠ 0)

/-- The host ports a container sets, as strconv.Itoa writes them. -/
def hostPortStrings (c : Container) : List String :=
  (c.ports.filter (·.hostPort ≠ 0)).map (toString ·.hostPort)

/-- The field errors for the host ports of the container at `spec.<collection>[i]`. -/
def hostPortErrors (collection : String) (i : Nat) (c : Container) : List Field.Error :=
  (c.ports.enum.filter (·.2.hostPort ≠ 0)).map fun port =>
    ⟨.forbidden, "spec." ++ collection ++ "[" ++ toString i ++ "].ports[" ++ toString port.1 ++ "].hostPort",
      .int port.2.hostPort, ""⟩

theorem hostPortsScan_eq (opts : Options) (pathFn : PathFn) (n : Nat) (ports : List ContainerPort)
    (valid : Bool) (errFns : List ErrFn) (seen : StringSet) :
    hostPortsScan opts pathFn n ports (valid, errFns, seen) =
      (valid && !ports.any (·.hostPort ≠ 0),
        errFns ++ (if opts.withFieldErrors then
          ((ports.enumFrom n).filter (·.2.hostPort ≠ 0)).map fun port =>
            (forbidden (((pathFn.child "ports" []).index port.1).child "hostPort" [])).withBadValue
              (.int port.2.hostPort)
          else []),
        seen ∪ ((ports.filter (·.hostPort ≠ 0)).map (toString ·.hostPort)).toFinset) := by
  induction ports generalizing n valid errFns seen with
  | nil => simp [hostPortsScan]
  | cons c cs ih =>
    by_cases zero : c.hostPort = 0
    · simp [hostPortsScan, zero, ih, List.enumFrom_cons]
    · cases w : opts.withFieldErrors <;>
        simp [hostPortsScan, zero, ih, List.enumFrom_cons, w, Finset.insert_union, Finset.union_insert]

theorem toString_hostPortPath {collection : String} (named : collection ≠ "") (i j : Nat) :
    Field.Path.toString ((containerPath collection i).steps [.child "ports" [], .index j, .child "hostPort" []]) =
      "spec." ++ collection ++ "[" ++ toString i ++ "].ports[" ++ toString j ++ "].hostPort" := by
  have present : containerPath collection i ≠ [] := by simp [containerPath]
  simp only [Field.Path.steps, List.foldl, Field.Path.step]
  rw [Field.toString_child (by simp) _ (by decide), Field.toString_index (by simp),
    Field.toString_child present _ (by decide), toString_containerPath named]
  simp only [String.append_assoc]
  rfl

theorem hostPortErrFns_call {opts : Options} (enabled : opts.withFieldErrors = true) {collection : String}
    (named : collection ≠ "") (i : Nat) (c : Container) :
    ((((c.ports.enumFrom 0).filter (·.2.hostPort ≠ 0)).map fun port =>
        (forbidden ((((visitPath opts collection i).child "ports" []).index port.1).child "hostPort" [])).withBadValue
          (.int port.2.hostPort)).filterMap ErrFn.call) = hostPortErrors collection i c := by
  have each : ∀ port : Nat × ContainerPort,
      ((forbidden ((((visitPath opts collection i).child "ports" []).index port.1).child "hostPort" [])).withBadValue
        (.int port.2.hostPort)).call =
      some ⟨.forbidden, "spec." ++ collection ++ "[" ++ toString i ++ "].ports[" ++ toString port.1 ++ "].hostPort",
        .int port.2.hostPort, ""⟩ := fun port => by
    have h := call_forbidden_visitPath opts collection i [.child "ports" [], .index port.1, .child "hostPort" []]
      (.int port.2.hostPort)
    rw [enabled, if_pos rfl, toString_hostPortPath named] at h
    exact h
  simp only [List.filterMap_map, Function.comp_def, each, hostPortErrors, List.enum]
  exact congrFun (List.filterMap_eq_map _) _

theorem hostPortErrors_of_valid {c : Container} (valid : c.setsHostPort = false)
    (collection : String) (i : Nat) : hostPortErrors collection i c = [] := by
  simp only [hostPortErrors, List.map_eq_nil_iff, List.filter_eq_nil_iff]
  intro port mem
  have := List.any_eq_false.mp valid port.2 (List.snd_mem_of_mem_enum mem)
  simpa using this

theorem hostPortErrors_ne_nil {c : Container} (bad : c.setsHostPort = true) (collection : String) (i : Nat) :
    hostPortErrors collection i c ≠ [] := by
  obtain ⟨port, mem, nonzero⟩ := List.any_eq_true.mp bad
  obtain ⟨entry, enumerated, rfl⟩ := List.mem_map.mp ((List.enum_map_snd c.ports).symm ▸ mem)
  have listed : entry ∈ c.ports.enum.filter (·.2.hostPort ≠ 0) := List.mem_filter.mpr ⟨enumerated, nonzero⟩
  simpa [hostPortErrors] using List.ne_nil_of_mem listed

/-- One visit: a container with a host port is recorded once, with the errors of all its
host ports; every host port it sets joins the set. -/
theorem hostPortsVisitor_visitPath (opts : Options) (st : HostPortsState) {collection : String}
    (named : collection ≠ "") (i : Nat) (c : Container) :
    hostPortsVisitor opts st c (visitPath opts collection i) =
      ⟨(st.badContainers.appendData (if c.setsHostPort then [c.name] else [])).pushErrs
          (if opts.withFieldErrors then hostPortErrors collection i c else []),
        st.forbiddenHostPorts ∪ (hostPortStrings c).toFinset⟩ := by
  simp only [hostPortsVisitor, hostPortsScan_eq, Bool.true_and, Bool.not_not, List.nil_append,
    Finset.empty_union, hostPortStrings]
  rw [show c.ports.any (·.hostPort ≠ 0) = c.setsHostPort from rfl]
  cases bad : c.setsHostPort
  · simp [hostPortErrors_of_valid bad]
  · cases enabled : opts.withFieldErrors
    · simp [enabled, Violations.add_id]
    · simp only [enabled, Violations.add_id, if_true, hostPortErrFns_call enabled named]

theorem hostPorts_run (opts : Options) (vs : List (String × Nat × Container)) (named : ∀ v ∈ vs, v.1 ≠ "")
    (st : HostPortsState) :
    vs.foldl (fun s v => hostPortsVisitor opts s v.2.2 (visitPath opts v.1 v.2.1)) st =
      ⟨(st.badContainers.appendData (((vs.map (·.2.2)).filter (·.setsHostPort)).map (·.name))).pushErrs
          (if opts.withFieldErrors then vs.flatMap fun v => hostPortErrors v.1 v.2.1 v.2.2 else []),
        st.forbiddenHostPorts ∪ ((vs.map (·.2.2)).flatMap hostPortStrings).toFinset⟩ := by
  induction vs generalizing st with
  | nil => simp
  | cons v vs ih =>
    rw [List.foldl_cons, hostPortsVisitor_visitPath opts st (named v (List.mem_cons_self _ _)),
      ih (fun u mem => named u (List.mem_cons_of_mem _ mem))]
    congr 1
    · rw [Violations.pushErrs_appendData, Violations.appendData_appendData, Violations.pushErrs_pushErrs]
      cases opts.withFieldErrors <;> cases h : v.2.2.setsHostPort <;> simp [List.filter_cons, h]
    · simp [Finset.union_assoc, List.toFinset_append]

theorem hostPortsV1Dot0_eq (podMetadata : ObjectMeta) (podSpec : PodSpec) (opts : Options) :
    hostPortsV1Dot0 podMetadata podSpec opts =
      hostPortsResult (((allContainers podSpec).filter (·.setsHostPort)).map (·.name))
        ((allContainers podSpec).flatMap hostPortStrings).toFinset
        (if opts.withFieldErrors then
          some ((podContainers podSpec).flatMap fun v => hostPortErrors v.1 v.2.1 v.2.2)
        else none) := by
  rw [hostPortsV1Dot0, visitContainers_foldl, hostPorts_run _ _ (fun _ => podContainers_collection),
    podContainers_containers]
  cases opts.withFieldErrors <;> simp

theorem hostPortsV1Dot0_allowed_eq_false_iff (podMetadata : ObjectMeta) (podSpec : PodSpec) (opts : Options) :
    (hostPortsV1Dot0 podMetadata podSpec opts).allowed = false ↔
      ∃ c ∈ allContainers podSpec, ∃ port ∈ c.ports, port.hostPort ≠ 0 := by
  have bad := length_map_filter_ne_zero Container.name Container.setsHostPort (allContainers podSpec)
  simp only [Container.setsHostPort, List.any_eq_true, decide_eq_true_eq] at bad
  exact (fields_of_ite (hostPortsV1Dot0_eq podMetadata podSpec opts)).1.trans bad

/-- hostPortsV1Dot0 fails exactly when some init, regular or ephemeral container sets a host
port. It then names those containers once each in traversal order, lists the host ports as
the sorted set of their decimal renderings, and with field errors gives one Forbidden error
per host port, in traversal and port order, at `spec.<collection>[i].ports[j].hostPort`;
without field errors, or on a pass, there is no error list. -/
theorem hostPortsV1Dot0_correct (podMetadata : ObjectMeta) (podSpec : PodSpec) (opts : Options) :
    let result := hostPortsV1Dot0 podMetadata podSpec opts
    let names := ((allContainers podSpec).filter (·.setsHostPort)).map (·.name)
    (result.allowed = false ↔ ∃ c ∈ allContainers podSpec, ∃ port ∈ c.ports, port.hostPort ≠ 0) ∧
    (result.allowed = false → result.forbiddenReason = "hostPort" ∧
      ∃ hostPorts, SortedSetOf (fun p => ∃ c ∈ allContainers podSpec, ∃ port ∈ c.ports,
          port.hostPort ≠ 0 ∧ toString port.hostPort = p) hostPorts ∧
        result.forbiddenDetail =
          pluralize "container" "containers" names.length ++ " " ++ joinQuote names ++ " " ++
          pluralize "uses" "use" names.length ++ " " ++
          pluralize "hostPort" "hostPorts" hostPorts.length ++ " " ++ String.intercalate ", " hostPorts) ∧
    result.errList = if opts.withFieldErrors = true ∧ result.allowed = false then
      some ((podContainers podSpec).flatMap fun v => hostPortErrors v.1 v.2.1 v.2.2) else none := by
  obtain ⟨-, fields, errs⟩ := fields_of_ite (hostPortsV1Dot0_eq podMetadata podSpec opts)
  refine ⟨hostPortsV1Dot0_allowed_eq_false_iff podMetadata podSpec opts, fun failing => ?_, errs⟩
  obtain ⟨reason, detail⟩ := fields failing
  refine ⟨reason, _, StringSet.list_sortedSetOf fun p => ?_, by rw [detail, StringSet.length_list]⟩
  simp [hostPortStrings, and_assoc]

end PodSecurity
