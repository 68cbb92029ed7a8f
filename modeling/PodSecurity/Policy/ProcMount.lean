import PodSecurity.Policy.Visitor

/-! procMountV1Dot0, in the two versions of its file: the one written against PathFn, and
the later one that first asks whether the pod is relaxed for user namespaces and is written
against the eager path form of the traversal. -/
namespace PodSecurity

/-- The variables the visitor of procMountV1Dot0 writes. -/
structure ProcMountState where
  badContainers : Violations
  forbiddenProcMountTypes : StringSet

/-- The visitor body both versions share; `errFn` builds the field error for a value from
the path the version's visitor is handed. -/
def procMountVisit (opts : Options) (st : ProcMountState) (container : Container) (errFn : String → ErrFn) :
    ProcMountState :=
  match container.securityContext.bind (·.procMount) with
  | none => st
  | some procMount =>
    if procMount ≠ defaultProcMount then
      ⟨if opts.withFieldErrors then st.badContainers.add container.name [errFn procMount]
        else st.badContainers.add container.name ([] : List ErrFn),
        insert procMount st.forbiddenProcMountTypes⟩
    else st

def procMountVisitor (opts : Options) (st : ProcMountState) (container : Container) (pathFn : PathFn) :
    ProcMountState :=
  procMountVisit opts st container fun procMount =>
    (forbidden (pathFn.child "securityContext" ["procMount"])).withBadValue (.str procMount)

/-- What procMountV1Dot0 returns from the names it recorded, the values it saw and the
field errors. -/
def procMountResult (badContainers : List String) (forbiddenProcMountTypes : StringSet)
    (errList : Option (List Field.Error)) : CheckResult :=
  if badContainers.length ≠ 0 then
    { allowed := false
      forbiddenReason := "procMount"
      forbiddenDetail := pluralize "container" "containers" badContainers.length ++ " " ++
        joinQuote badContainers ++ " must not set securityContext.procMount to " ++
        joinQuote forbiddenProcMountTypes.list
      errList := errList }
  else { allowed := true }

def procMountV1Dot0 (podMetadata : ObjectMeta) (podSpec : PodSpec) (opts : Options) : CheckResult :=
  let st := visitContainers podSpec opts (procMountVisitor opts) ⟨newViolations opts.withFieldErrors, ∅⟩
  procMountResult st.badContainers.data st.forbiddenProcMountTypes st.badContainers.errs

/-- Modelled from the spec: relaxPolicyForUserNamespacePod is not under src/. It holds when
the cluster-wide relaxation is switched on and the pod runs in a user namespace
(`hostUsers: false`); the switch is process-wide state, passed here as an argument. -/
def relaxPolicyForUserNamespacePod (relaxPolicyForUserNamespacePods : Bool) (podSpec : PodSpec) : Bool :=
  relaxPolicyForUserNamespacePods && podSpec.hostUsers == some false

namespace Eager

def procMountVisitor (opts : Options) (st : ProcMountState) (container : Container) (path : Field.Path) :
    ProcMountState :=
  procMountVisit opts st container fun procMount =>
    withBadValue (forbidden (path.child "securityContext" ["procMount"])) (.str procMount)

def procMountV1Dot0 (relaxPolicyForUserNamespacePods : Bool) (podMetadata : ObjectMeta) (podSpec : PodSpec)
    (opts : Options) : CheckResult :=
  if relaxPolicyForUserNamespacePod relaxPolicyForUserNamespacePods podSpec then { allowed := true }
  else
    let st := visitContainers podSpec opts (procMountVisitor opts) ⟨newViolations opts.withFieldErrors, ∅⟩
    procMountResult st.badContainers.data st.forbiddenProcMountTypes st.badContainers.errs

end Eager

/-- The value a container sets `securityContext.procMount` to, when it is not Default. -/
def Container.badProcMount (c : Container) : Option String :=
  (c.securityContext.bind (·.procMount)).filter (· ≠ defaultProcMount)

/-- Whether a container sets `securityContext.procMount` to something other than Default. -/
def Container.setsProcMount (c : Container) : Bool := c.badProcMount.isSome

theorem Container.setsProcMount_iff (c : Container) :
    c.setsProcMount = true ↔ ∃ pm, c.securityContext.bind (·.procMount) = some pm ∧ pm ≠ defaultProcMount := by
  unfold Container.setsProcMount Container.badProcMount
  cases c.securityContext.bind (·.procMount) <;> simp [Option.filter]

theorem Container.badProcMount_eq_some (c : Container) (pm : String) :
    c.badProcMount = some pm ↔ c.securityContext.bind (·.procMount) = some pm ∧ pm ≠ defaultProcMount := by
  simp [Container.badProcMount, Option.mem_def]

/-- The field error for the container at `spec.<collection>[i]` setting procMount to a value. -/
def procMountError (collection : String) (i : Nat) (procMount : String) : Field.Error :=
  ⟨.forbidden, "spec." ++ collection ++ "[" ++ toString i ++ "].securityContext.procMount", .str procMount, ""⟩

/-- What both versions return on a pod they do not relax: the closing step over the names,
the values and the errors of the containers that set procMount to something other than
Default. -/
def procMountOutcome (podSpec : PodSpec) (opts : Options) : CheckResult :=
  procMountResult (((allContainers podSpec).filter (·.setsProcMount)).map (·.name))
    ((allContainers podSpec).filterMap (·.badProcMount)).toFinset
    (if opts.withFieldErrors then
      some ((podContainers podSpec).filterMap fun v => v.2.2.badProcMount.map (procMountError v.1 v.2.1))
    else none)

theorem procMountVisit_eq (opts : Options) (st : ProcMountState) (c : Container) (errFn : String → ErrFn) :
    procMountVisit opts st c errFn =
      ⟨(st.badContainers.appendData (c.badProcMount.map fun _ => c.name).toList).pushErrs
          (if opts.withFieldErrors then (c.badProcMount.bind fun pm => (errFn pm).call).toList else []),
        st.forbiddenProcMountTypes ∪ c.badProcMount.toList.toFinset⟩ := by
  unfold procMountVisit Container.badProcMount
  cases c.securityContext.bind (·.procMount) with
  | none => simp
  | some pm =>
    by_cases dflt : pm = defaultProcMount
    · simp [dflt, Option.filter]
    · cases opts.withFieldErrors <;> cases h : (errFn pm).call <;>
        simp [dflt, h, Option.filter, Violations.add_id, Finset.insert_eq, Finset.union_comm]

theorem procMount_run (opts : Options) (vs : List (String × Nat × Container))
    (errFnAt : String × Nat × Container → String → ErrFn)
    (calls : ∀ v ∈ vs, ∀ pm, opts.withFieldErrors = true →
      (errFnAt v pm).call = some (procMountError v.1 v.2.1 pm))
    (st : ProcMountState) :
    vs.foldl (fun s v => procMountVisit opts s v.2.2 (errFnAt v)) st =
      ⟨(st.badContainers.appendData (((vs.map (·.2.2)).filter (·.setsProcMount)).map (·.name))).pushErrs
          (if opts.withFieldErrors then vs.filterMap fun v => v.2.2.badProcMount.map (procMountError v.1 v.2.1)
            else []),
        st.forbiddenProcMountTypes ∪ ((vs.map (·.2.2)).filterMap (·.badProcMount)).toFinset⟩ := by
  induction vs generalizing st with
  | nil => simp
  | cons v vs ih =>
    rw [List.foldl_cons, procMountVisit_eq, ih (fun u mem => calls u (List.mem_cons_of_mem _ mem))]
    have call := calls v (List.mem_cons_self _ _)
    congr 1
    · rw [Violations.pushErrs_appendData, Violations.appendData_appendData, Violations.pushErrs_pushErrs]
      cases enabled : opts.withFieldErrors
      · cases h : v.2.2.badProcMount <;> simp [List.filter_cons, Container.setsProcMount, h]
      · cases h : v.2.2.badProcMount <;> simp [List.filter_cons, Container.setsProcMount, h, call _ enabled]
    · cases h : v.2.2.badProcMount <;> simp [h, Finset.union_assoc, Finset.insert_eq]

theorem call_procMountVisitPath (opts : Options) {collection : String} (named : collection ≠ "") (i : Nat)
    (pm : String) (enabled : opts.withFieldErrors = true) :
    ((forbidden ((visitPath opts collection i).child "securityContext" ["procMount"])).withBadValue (.str pm)).call =
      some (procMountError collection i pm) := by
  have h := call_forbidden_visitPath opts collection i [.child "securityContext" ["procMount"]] (.str pm)
  rw [enabled, if_pos rfl] at h
  rw [show (visitPath opts collection i).child "securityContext" ["procMount"] =
    (visitPath opts collection i).steps [.child "securityContext" ["procMount"]] from rfl, h]
  simp only [Field.Path.steps, List.foldl, Field.Path.step, toString_securityContext named i (by decide : "procMount" ≠ ""),
    procMountError, String.append_assoc]
  rfl

theorem call_eagerProcMount (opts : Options) {collection : String} (named : collection ≠ "") (i : Nat)
    (pm : String) (enabled : opts.withFieldErrors = true) :
    (Eager.withBadValue (Eager.forbidden
        ((if opts.withFieldErrors then containerPath collection i else []).child "securityContext" ["procMount"]))
      (.str pm)).call = some (procMountError collection i pm) := by
  rw [enabled, if_pos rfl, Eager.call_forbidden (by simp), toString_securityContext named i (by decide)]
  simp only [procMountError, String.append_assoc]
  rfl

theorem procMount_visits (podSpec : PodSpec) (opts : Options) (errFnAt : String × Nat × Container → String → ErrFn)
    (calls : ∀ v ∈ podContainers podSpec, ∀ pm, opts.withFieldErrors = true →
      (errFnAt v pm).call = some (procMountError v.1 v.2.1 pm)) :
    (let st := (podContainers podSpec).foldl (fun s v => procMountVisit opts s v.2.2 (errFnAt v))
        ⟨newViolations opts.withFieldErrors, ∅⟩;
      procMountResult st.badContainers.data st.forbiddenProcMountTypes st.badContainers.errs) =
      procMountOutcome podSpec opts := by
  rw [procMount_run opts _ errFnAt calls, podContainers_containers, procMountOutcome]
  cases opts.withFieldErrors <;> simp

theorem procMountV1Dot0_eq (podMetadata : ObjectMeta) (podSpec : PodSpec) (opts : Options) :
    procMountV1Dot0 podMetadata podSpec opts = procMountOutcome podSpec opts := by
  rw [procMountV1Dot0, visitContainers_foldl]
  exact procMount_visits podSpec opts _ fun v mem pm enabled =>
    call_procMountVisitPath opts (podContainers_collection mem) v.2.1 pm enabled

theorem Eager.procMountV1Dot0_eq (relaxPolicyForUserNamespacePods : Bool) (podMetadata : ObjectMeta)
    (podSpec : PodSpec) (opts : Options)
    (kept : relaxPolicyForUserNamespacePod relaxPolicyForUserNamespacePods podSpec = false) :
    Eager.procMountV1Dot0 relaxPolicyForUserNamespacePods podMetadata podSpec opts = procMountOutcome podSpec opts := by
  rw [Eager.procMountV1Dot0, if_neg (by simp [kept]), Eager.visitContainers_eq]
  exact procMount_visits podSpec opts _ fun v mem pm enabled =>
    call_eagerProcMount opts (podContainers_collection mem) v.2.1 pm enabled

/-- The law both versions of procMountV1Dot0 keep: failing exactly when some container sets
procMount to a value other than Default; then naming those containers once each in
traversal order and reporting the sorted set of their values; and with field errors one
Forbidden error per such container at `spec.<collection>[i].securityContext.procMount`,
without them, or on a pass, no error list. -/
def ProcMountLaw (podSpec : PodSpec) (opts : Options) (result : CheckResult) : Prop :=
  let names := ((allContainers podSpec).filter (·.setsProcMount)).map (·.name)
  (result.allowed = false ↔
    ∃ c ∈ allContainers podSpec, ∃ pm, c.securityContext.bind (·.procMount) = some pm ∧ pm ≠ defaultProcMount) ∧
  (result.allowed = false → result.forbiddenReason = "procMount" ∧
    ∃ procMounts, SortedSetOf (fun pm => ∃ c ∈ allContainers podSpec,
        c.securityContext.bind (·.procMount) = some pm ∧ pm ≠ defaultProcMount) procMounts ∧
      result.forbiddenDetail = pluralize "container" "containers" names.length ++ " " ++ joinQuote names ++
        " must not set securityContext.procMount to " ++ joinQuote procMounts) ∧
  result.errList = if opts.withFieldErrors = true ∧ result.allowed = false then
    some ((podContainers podSpec).filterMap fun v => v.2.2.badProcMount.map (procMountError v.1 v.2.1))
  else none

theorem procMountLaw_of_eq {podSpec : PodSpec} {opts : Options} {result : CheckResult}
    (eq : result = procMountOutcome podSpec opts) : ProcMountLaw podSpec opts result := by
  obtain ⟨fails, fields, errs⟩ := fields_of_ite eq
  have bad := length_map_filter_ne_zero Container.name Container.setsProcMount (allContainers podSpec)
  simp only [Container.setsProcMount_iff] at bad
  refine ⟨fails.trans bad, fun failing => ?_, errs⟩
  obtain ⟨reason, detail⟩ := fields failing
  exact ⟨reason, _, StringSet.list_sortedSetOf fun pm => by simp [Container.badProcMount_eq_some], detail⟩

theorem procMountV1Dot0_allowed_eq_false_iff (podMetadata : ObjectMeta) (podSpec : PodSpec) (opts : Options) :
    (procMountV1Dot0 podMetadata podSpec opts).allowed = false ↔
      ∃ c ∈ allContainers podSpec, ∃ pm, c.securityContext.bind (·.procMount) = some pm ∧ pm ≠ defaultProcMount :=
  (procMountLaw_of_eq (procMountV1Dot0_eq podMetadata podSpec opts)).1

/-- Both versions of procMountV1Dot0 keep the law: the one written against PathFn on every
pod, the relaxation-aware one on every pod it does not relax. -/
theorem procMountV1Dot0_law (podMetadata : ObjectMeta) (podSpec : PodSpec) (opts : Options) :
    ProcMountLaw podSpec opts (procMountV1Dot0 podMetadata podSpec opts) ∧
    ∀ relaxPolicyForUserNamespacePods : Bool,
      relaxPolicyForUserNamespacePod relaxPolicyForUserNamespacePods podSpec = false →
      ProcMountLaw podSpec opts (Eager.procMountV1Dot0 relaxPolicyForUserNamespacePods podMetadata podSpec opts) :=
  ⟨procMountLaw_of_eq (procMountV1Dot0_eq podMetadata podSpec opts),
    fun relax kept => procMountLaw_of_eq (Eager.procMountV1Dot0_eq relax podMetadata podSpec opts kept)⟩

theorem procMountV1Dot0_law_hostUsers_unset :
    let podSpec : PodSpec := { containers := [{ name := "a", securityContext := some { procMount := some "Unmasked" } }] }
    relaxPolicyForUserNamespacePod true podSpec = false ∧
      ProcMountLaw podSpec ⟨true⟩ (Eager.procMountV1Dot0 true {} podSpec ⟨true⟩) :=
  ⟨rfl, (procMountV1Dot0_law _ _ _).2 true rfl⟩

example :
    let podSpec : PodSpec := { containers := [{ name := "a" }, { name := "b", securityContext := some {} },
      { name := "c", securityContext := some { procMount := some "Default" } },
      { name := "d", securityContext := some { procMount := some "Unmasked" } },
      { name := "e", securityContext := some { procMount := some "other" } }], hostUsers := some false }
    (Eager.procMountV1Dot0 true {} podSpec {}).allowed = true ∧ (Eager.procMountV1Dot0 false {} podSpec {}).allowed = false ∧
      (procMountV1Dot0 {} podSpec ⟨true⟩).errList =
        some [⟨.forbidden, "spec.containers[3].securityContext.procMount", .str "Unmasked", ""⟩,
          ⟨.forbidden, "spec.containers[4].securityContext.procMount", .str "other", ""⟩] := by
  decide

/-- The two versions of procMountV1Dot0 agree: the relaxation-aware one, written against the
eager `*field.Path` traversal, passes every pod it relaxes and returns exactly what the
PathFn one returns on every other pod, for every options value. -/
theorem eager_procMountV1Dot0_refines (relaxPolicyForUserNamespacePods : Bool) (podMetadata : ObjectMeta)
    (podSpec : PodSpec) (opts : Options) :
    Eager.procMountV1Dot0 relaxPolicyForUserNamespacePods podMetadata podSpec opts =
      if relaxPolicyForUserNamespacePod relaxPolicyForUserNamespacePods podSpec then { allowed := true }
      else procMountV1Dot0 podMetadata podSpec opts := by
  split
  · rw [Eager.procMountV1Dot0, if_pos ‹_›]
  · rename_i kept
    exact (Eager.procMountV1Dot0_eq _ podMetadata podSpec opts (by simpa using kept)).trans
      (procMountV1Dot0_eq podMetadata podSpec opts).symm

end PodSecurity
