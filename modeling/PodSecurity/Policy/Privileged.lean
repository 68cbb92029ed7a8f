import PodSecurity.Policy.Visitor

/-! privilegedV1Dot0. It is written against the form of the traversal that hands the visitor
a `*field.Path`, which this snapshot no longer has (see `Eager`). -/
namespace PodSecurity

/-- Whether `securityContext.privileged` is set to true; nil anywhere counts as unset. -/
def Container.isPrivileged (c : Container) : Bool := c.securityContext.bind (·.privileged) == some true

def privilegedVisitor (opts : Options) (badContainers : Violations) (container : Container) (path : Field.Path) :
    Violations :=
  if container.isPrivileged then
    if opts.withFieldErrors then
      badContainers.add container.name
        [Eager.withBadValue (Eager.forbidden (path.child "securityContext" ["privileged"])) (.bool true)]
    else badContainers.add container.name ([] : List ErrFn)
  else badContainers

/-- What privilegedV1Dot0 returns from the names it recorded and the field errors. -/
def privilegedResult (badContainers : List String) (errList : Option (List Field.Error)) : CheckResult :=
  if badContainers.length ≠ 0 then
    { allowed := false
      forbiddenReason := "privileged"
      forbiddenDetail := pluralize "container" "containers" badContainers.length ++ " " ++
        joinQuote badContainers ++ " must not set securityContext.privileged=true"
      errList := errList }
  else { allowed := true }

def privilegedV1Dot0 (podMetadata : ObjectMeta) (podSpec : PodSpec) (opts : Options) : CheckResult :=
  let badContainers := Eager.visitContainers podSpec opts (privilegedVisitor opts) (newViolations opts.withFieldErrors)
  privilegedResult badContainers.data badContainers.errs

/-- The field error for a privileged container at `spec.<collection>[i]`. -/
def privilegedError (collection : String) (i : Nat) : Field.Error :=
  ⟨.forbidden, "spec." ++ collection ++ "[" ++ toString i ++ "].securityContext.privileged", .bool true, ""⟩

theorem call_privilegedErrFn {collection : String} (named : collection ≠ "") (i : Nat) :
    (Eager.withBadValue (Eager.forbidden ((containerPath collection i).child "securityContext" ["privileged"]))
      (.bool true)).call = some (privilegedError collection i) := by
  have present : (containerPath collection i).child "securityContext" ["privileged"] ≠ [] := by simp
  have h := ErrFn.call_of_resolve (forbidden_resolve_steps (resolve_withPath present) present [] (.bool true))
  refine h.trans (congrArg some (congrArg (fun f => Field.Error.mk _ f _ _) ?_))
  simp only [Field.Path.steps, List.foldl, Field.Path.child_cons]
  rw [Field.toString_child (by simp) _ (by decide), Field.toString_child (by simp [containerPath]) _ (by decide),
    toString_containerPath named]
  simp only [String.append_assoc]
  rfl

theorem privilegedVisitor_visit (opts : Options) (v : Violations) {collection : String} (named : collection ≠ "")
    (i : Nat) (c : Container) :
    privilegedVisitor opts v c (if opts.withFieldErrors then containerPath collection i else []) =
      (v.appendData (if c.isPrivileged then [c.name] else [])).pushErrs
        (if opts.withFieldErrors && c.isPrivileged then [privilegedError collection i] else []) := by
  cases priv : c.isPrivileged <;> cases enabled : opts.withFieldErrors <;>
    simp [privilegedVisitor, priv, enabled, Violations.add_id, call_privilegedErrFn named]

theorem privileged_run (opts : Options) (vs : List (String × Nat × Container)) (named : ∀ v ∈ vs, v.1 ≠ "")
    (v : Violations) :
    vs.foldl (fun s u => privilegedVisitor opts s u.2.2 (if opts.withFieldErrors then containerPath u.1 u.2.1 else [])) v =
      (v.appendData (((vs.map (·.2.2)).filter (·.isPrivileged)).map (·.name))).pushErrs
        (if opts.withFieldErrors then (vs.filter (·.2.2.isPrivileged)).map fun u => privilegedError u.1 u.2.1 else []) := by
  induction vs generalizing v with
  | nil => simp
  | cons u vs ih =>
    rw [List.foldl_cons, privilegedVisitor_visit opts v (named u (List.mem_cons_self _ _)),
      ih (fun w mem => named w (List.mem_cons_of_mem _ mem)), Violations.pushErrs_appendData,
      Violations.appendData_appendData, Violations.pushErrs_pushErrs]
    cases opts.withFieldErrors <;> cases h : u.2.2.isPrivileged <;> simp [List.filter_cons, h]

theorem privilegedV1Dot0_eq (podMetadata : ObjectMeta) (podSpec : PodSpec) (opts : Options) :
    privilegedV1Dot0 podMetadata podSpec opts =
      privilegedResult (((allContainers podSpec).filter (·.isPrivileged)).map (·.name))
        (if opts.withFieldErrors then
          some (((podContainers podSpec).filter (·.2.2.isPrivileged)).map fun u => privilegedError u.1 u.2.1)
        else none) := by
  rw [privilegedV1Dot0, Eager.visitContainers_eq,
    privileged_run _ _ (fun _ => podContainers_collection), podContainers_containers]
  cases opts.withFieldErrors <;> simp

theorem privilegedV1Dot0_allowed_eq_false_iff (podMetadata : ObjectMeta) (podSpec : PodSpec) (opts : Options) :
    (privilegedV1Dot0 podMetadata podSpec opts).allowed = false ↔
      ∃ c ∈ allContainers podSpec, c.securityContext.bind (·.privileged) = some true := by
  have bad := length_map_filter_ne_zero Container.name Container.isPrivileged (allContainers podSpec)
  simp only [Container.isPrivileged, beq_iff_eq] at bad
  exact (fields_of_ite (privilegedV1Dot0_eq podMetadata podSpec opts)).1.trans bad

/-- privilegedV1Dot0 fails exactly when some init, regular or ephemeral container sets
`securityContext.privileged` to true. It then names those containers once each in traversal
order, and has an error list only with field errors: one Forbidden error per such container
at `spec.<collection>[i].securityContext.privileged`. -/
theorem privilegedV1Dot0_correct (podMetadata : ObjectMeta) (podSpec : PodSpec) (opts : Options) :
    let result := privilegedV1Dot0 podMetadata podSpec opts
    let names := ((allContainers podSpec).filter (·.isPrivileged)).map (·.name)
    (result.allowed = false ↔ ∃ c ∈ allContainers podSpec, c.securityContext.bind (·.privileged) = some true) ∧
    (result.allowed = false → result.forbiddenReason = "privileged" ∧
      result.forbiddenDetail = pluralize "container" "containers" names.length ++ " " ++ joinQuote names ++
        " must not set securityContext.privileged=true") ∧
    result.errList = if opts.withFieldErrors = true ∧ result.allowed = false then
      some (((podContainers podSpec).filter (·.2.2.isPrivileged)).map fun u => privilegedError u.1 u.2.1)
    else none :=
  have fields := fields_of_ite (privilegedV1Dot0_eq podMetadata podSpec opts)
  ⟨privilegedV1Dot0_allowed_eq_false_iff podMetadata podSpec opts, fields.2.1, fields.2.2⟩

end PodSecurity
