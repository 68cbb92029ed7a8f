import Mathlib.Data.List.Infix
import Mathlib.Data.Nat.Digits
import PodSecurity.Policy.Visitor

/-! The fields the checks report, as references, and the field paths their errors carry.
Distinct well-formed references render to distinct paths, so a verdict's error list can be
keyed by field path. -/
namespace PodSecurity

section Decimal

theorem toDigitsCore_acc (fuel n : Nat) (ds : List Char) :
    Nat.toDigitsCore 10 fuel n ds = Nat.toDigitsCore 10 fuel n [] ++ ds := by
  induction fuel generalizing n ds with
  | zero => rfl
  | succ fuel ih =>
    simp only [Nat.toDigitsCore]
    split
    · rfl
    · rw [ih _ (_ :: ds), ih _ [_]]; simp

/-- The characters `toString` (strconv.Itoa) writes for a natural number. -/
def decimalDigits : List Char := ['0', '1', '2', '3', '4', '5', '6', '7', '8', '9']

theorem digitChar_mem : ∀ d < 10, Nat.digitChar d ∈ decimalDigits := by decide

theorem digitChar_inj : ∀ a < 10, ∀ b < 10, Nat.digitChar a = Nat.digitChar b → a = b := by decide

theorem toDigitsCore_digits (fuel n : Nat) : ∀ c ∈ Nat.toDigitsCore 10 fuel n [], c ∈ decimalDigits := by
  induction fuel generalizing n with
  | zero => simp [Nat.toDigitsCore]
  | succ fuel ih =>
    have last := digitChar_mem (n % 10) (Nat.mod_lt n (by decide))
    simp only [Nat.toDigitsCore]
    split
    · simpa using last
    · rw [toDigitsCore_acc]
      intro c mem
      rcases List.mem_append.mp mem with earlier | now
      · exact ih _ c earlier
      · exact List.mem_singleton.mp now ▸ last

theorem toDigitsCore_ne_nil (fuel n : Nat) : Nat.toDigitsCore 10 (fuel + 1) n [] ≠ [] := by
  simp only [Nat.toDigitsCore]
  split
  · simp
  · rw [toDigitsCore_acc]; simp

/-- A one-digit rendering is never the rendering of a number with more digits. -/
theorem toDigitsCore_ne_longer {g k : Nat} (pos : 0 < g) (d e : Char) :
    [d] ≠ Nat.toDigitsCore 10 g k [] ++ [e] := by
  obtain ⟨g, rfl⟩ : ∃ g', g = g' + 1 := ⟨g - 1, by omega⟩
  intro same
  have := congrArg List.length same
  simp only [List.length_singleton, List.length_append, self_eq_add_left, List.length_eq_zero] at this
  exact toDigitsCore_ne_nil g k this

theorem toDigitsCore_inj (f g n m : Nat) (hn : n < f) (hm : m < g)
    (same : Nat.toDigitsCore 10 f n [] = Nat.toDigitsCore 10 g m []) : n = m := by
  induction f generalizing g n m with
  | zero => omega
  | succ f ih =>
    obtain ⟨g, rfl⟩ : ∃ g', g = g' + 1 := ⟨g - 1, by omega⟩
    have low := digitChar_inj _ (Nat.mod_lt n (by decide)) _ (Nat.mod_lt m (by decide))
    simp only [Nat.toDigitsCore] at same
    split at same <;> split at same
    · have := low (List.singleton_inj.mp same)
      omega
    · rw [toDigitsCore_acc] at same
      exact absurd same (toDigitsCore_ne_longer (by omega) _ _)
    · rw [toDigitsCore_acc] at same
      exact absurd same.symm (toDigitsCore_ne_longer (by omega) _ _)
    · rw [toDigitsCore_acc, toDigitsCore_acc g] at same
      obtain ⟨high, last⟩ := List.append_inj' same rfl
      have := ih g _ _ (by omega) (by omega) high
      have := low (List.singleton_inj.mp last)
      omega

theorem toString_injective {n m : Nat} (same : toString n = toString m) : n = m :=
  toDigitsCore_inj (n + 1) (m + 1) n m (by omega) (by omega) (congrArg String.data same)

theorem bracket_not_mem_toString (n : Nat) : ']' ∉ (toString n).data := fun mem =>
  absurd (toDigitsCore_digits (n + 1) n _ mem) (by decide)

end Decimal

/-- Splitting at the first separator: a word free of `sep` followed by a text starting with
`sep` determines both. -/
theorem append_cancel_of_separator {sep : Char} {a a' x x' : List Char} (ha : sep ∉ a) (ha' : sep ∉ a')
    (hx : x.head? = some sep) (hx' : x'.head? = some sep) (same : a ++ x = a' ++ x') : a = a' ∧ x = x' := by
  induction a generalizing a' with
  | nil =>
    cases a' with
    | nil => exact ⟨rfl, same⟩
    | cons y a' =>
      subst same
      cases Option.some.inj hx
      exact absurd (List.mem_cons_self _ _) ha'
  | cons y a ih =>
    cases a' with
    | nil =>
      subst same
      cases Option.some.inj hx'
      exact absurd (List.mem_cons_self _ _) ha
    | cons y' a' =>
      obtain ⟨rfl, rest⟩ := List.cons.inj same
      obtain ⟨rfl, rfl⟩ :=
        ih (fun h => ha (List.mem_cons_of_mem _ h)) (fun h => ha' (List.mem_cons_of_mem _ h)) rest
      exact ⟨rfl, rfl⟩

/-- A field of a container that a check reports. -/
inductive ContainerField where
  | hostPort (port : Nat)
  | privileged
  | procMount
  | seLinuxOptions (field : String)
deriving DecidableEq, Repr

/-- A field a check reports: an annotation by key, a field of the pod-level SELinux options,
or a field of the container at index `i` of a collection. -/
inductive FieldRef where
  | annotationKey (key : String)
  | podSeLinuxOptions (field : String)
  | container (collection : String) (i : Nat) (field : ContainerField)
deriving DecidableEq, Repr

/-- The path of a container field after `spec.<collection>[i`, as the errors spell it. -/
def ContainerField.render : ContainerField → String
  | .hostPort port => "].ports[" ++ toString port ++ "].hostPort"
  | .privileged => "].securityContext.privileged"
  | .procMount => "].securityContext.procMount"
  | .seLinuxOptions field => "].securityContext.seLinuxOptions." ++ field

/-- The field path of an error about the field. -/
def FieldRef.render : FieldRef → String
  | .annotationKey key => "metadata.annotations[" ++ key ++ "]"
  | .podSeLinuxOptions field => "spec.securityContext.seLinuxOptions." ++ field
  | .container collection i field => "spec." ++ collection ++ "[" ++ toString i ++ field.render

/-- The collections visitContainers walks. -/
def containerCollections : List String := ["initContainers", "containers", "ephemeralContainers"]

/-- A container reference names one of the collections the visitor walks. -/
def FieldRef.WellFormed : FieldRef → Prop
  | .container collection _ _ => collection ∈ containerCollections
  | _ => True

/-- The container a reference points into, by collection and index. -/
def FieldRef.owner : FieldRef → Option (String × Nat)
  | .container collection i _ => some (collection, i)
  | _ => none

/-- The check that reports the field, by its ID. -/
def FieldRef.check : FieldRef → String
  | .annotationKey _ => "appArmorProfile"
  | .podSeLinuxOptions _ | .container _ _ (.seLinuxOptions _) => "seLinuxOptions"
  | .container _ _ (.hostPort _) => "hostPorts"
  | .container _ _ .privileged => "privileged"
  | .container _ _ .procMount => "procMount"

theorem ContainerField.render_head (f : ContainerField) : f.render.data.head? = some ']' := by
  cases f <;> rfl

theorem ContainerField.render_injective {f f' : ContainerField} (same : f.render = f'.render) : f = f' := by
  have data := congrArg String.data same
  cases f <;> cases f' <;> simp only [render, String.data_append, List.append_assoc] at data
  case hostPort.hostPort j j' =>
    obtain ⟨digits, -⟩ := append_cancel_of_separator (bracket_not_mem_toString j) (bracket_not_mem_toString j')
      (by rfl) (by rfl) (List.append_cancel_left data)
    rw [toString_injective (String.ext digits)]
  case seLinuxOptions.seLinuxOptions field field' =>
    rw [String.ext (List.append_cancel_left data)]
  case privileged.privileged | procMount.procMount => rfl
  all_goals
    simp only [List.cons_append, List.nil_append, List.cons.injEq, Char.reduceEq, true_and, false_and, and_false]
      at data

theorem bracket_not_mem_collection : ∀ c ∈ containerCollections, '[' ∉ c.data := by decide

theorem podSeLinuxOptions_render_ne {collection : String} (named : collection ∈ containerCollections)
    (field : String) (i : Nat) (f : ContainerField) :
    (FieldRef.podSeLinuxOptions field).render ≠ (FieldRef.container collection i f).render := by
  intro same
  have data := congrArg String.data same
  simp only [containerCollections, List.mem_cons, List.mem_singleton, List.not_mem_nil, or_false] at named
  rcases named with rfl | rfl | rfl <;>
    simp only [FieldRef.render, String.data_append, List.append_assoc, List.cons_append, List.nil_append,
      List.cons.injEq, Char.reduceEq, true_and, false_and, and_false] at data

/-- Distinct well-formed references render to distinct field paths. -/
theorem FieldRef.render_injective {r r' : FieldRef} (wf : r.WellFormed) (wf' : r'.WellFormed)
    (same : r.render = r'.render) : r = r' := by
  have data := congrArg String.data same
  cases r <;> cases r' <;> simp only [render, String.data_append, List.append_assoc] at data
  case annotationKey.annotationKey k k' =>
    rw [String.ext (List.append_cancel_right (List.append_cancel_left data))]
  case podSeLinuxOptions.podSeLinuxOptions f f' =>
    rw [String.ext (List.append_cancel_left data)]
  case container.container c i f c' i' f' =>
    obtain ⟨collection, index⟩ := append_cancel_of_separator (bracket_not_mem_collection c wf)
      (bracket_not_mem_collection c' wf') (by rfl) (by rfl) (List.append_cancel_left data)
    obtain ⟨digits, field⟩ := append_cancel_of_separator (bracket_not_mem_toString i) (bracket_not_mem_toString i')
      f.render_head f'.render_head (List.append_cancel_left index)
    rw [String.ext collection, toString_injective (String.ext digits),
      ContainerField.render_injective (String.ext field)]
  case podSeLinuxOptions.container => exact absurd same (podSeLinuxOptions_render_ne wf' _ _ _)
  case container.podSeLinuxOptions => exact absurd same.symm (podSeLinuxOptions_render_ne wf _ _ _)
  all_goals
    simp only [List.cons_append, List.nil_append, List.cons.injEq, Char.reduceEq, true_and, false_and, and_false]
      at data

theorem nodup_map_render {refs : List FieldRef} (wf : ∀ r ∈ refs, r.WellFormed) (nodup : refs.Nodup) :
    (refs.map FieldRef.render).Nodup :=
  nodup.map_on fun r mem r' mem' => FieldRef.render_injective (wf r mem) (wf r' mem')

/-- References grouped by the check that reports them are distinct when each group's are. -/
theorem nodup_flatMap_of_check {groups : List (String × List FieldRef)} (names : (groups.map (·.1)).Nodup)
    (nodup : ∀ g ∈ groups, g.2.Nodup) (checked : ∀ g ∈ groups, ∀ r ∈ g.2, r.check = g.1) :
    (groups.flatMap (·.2)).Nodup := by
  refine List.nodup_flatMap.mpr ⟨nodup, ?_⟩
  refine (List.pairwise_map.mp names).imp_of_mem fun mem mem' distinct r here there => distinct ?_
  exact (checked _ mem r here).symm.trans (checked _ mem' r there)

theorem podContainers_wellFormed {podSpec : PodSpec} {v : String × Nat × Container}
    (mem : v ∈ podContainers podSpec) : v.1 ∈ containerCollections := by
  simp only [podContainers, List.mem_append, List.mem_map] at mem
  rcases mem with (⟨_, _, rfl⟩ | ⟨_, _, rfl⟩) | ⟨_, _, rfl⟩ <;> simp [containerCollections]

theorem nodup_enum_keys {α : Type} (collection : String) (l : List α) :
    (l.enum.map fun x => (collection, x.1)).Nodup := by
  have := (List.nodup_range l.length).map (Prod.mk.inj_left collection)
  rwa [← List.enum_map_fst, List.map_map] at this

theorem disjoint_enum_keys {α β : Type} {c c' : String} (ne : c ≠ c') (l : List α) (l' : List β) :
    (l.enum.map fun x => (c, x.1)).Disjoint (l'.enum.map fun x => (c', x.1)) := by
  intro key mem mem'
  obtain ⟨_, _, rfl⟩ := List.mem_map.mp mem
  obtain ⟨_, _, same⟩ := List.mem_map.mp mem'
  exact ne (congrArg Prod.fst same).symm

/-- No two containers the visitor walks share a collection and an index. -/
theorem podContainers_keys_nodup (podSpec : PodSpec) : ((podContainers podSpec).map fun v => (v.1, v.2.1)).Nodup := by
  simp [podContainers, List.map_map, Function.comp_def, List.nodup_append, nodup_enum_keys, disjoint_enum_keys]

/-- References that each container contributes about itself are distinct when each
container's own are. -/
theorem nodup_flatMap_podContainers (podSpec : PodSpec) {refs : String × Nat × Container → List FieldRef}
    (nodup : ∀ v, (refs v).Nodup) (owned : ∀ v, ∀ r ∈ refs v, r.owner = some (v.1, v.2.1)) :
    ((podContainers podSpec).flatMap refs).Nodup := by
  refine List.nodup_flatMap.mpr ⟨fun v _ => nodup v, ?_⟩
  refine (List.pairwise_map.mp (podContainers_keys_nodup podSpec)).imp fun distinct r here there => distinct ?_
  exact Option.some.inj ((owned _ r here).symm.trans (owned _ r there))

theorem nodup_map_podContainers (podSpec : PodSpec) {ref : String × Nat × Container → FieldRef}
    (owned : ∀ v, (ref v).owner = some (v.1, v.2.1)) : ((podContainers podSpec).map ref).Nodup := by
  rw [List.map_eq_flatMap]
  exact nodup_flatMap_podContainers podSpec (fun _ => List.nodup_singleton _)
    fun v r mem => List.mem_singleton.mp mem ▸ owned v

end PodSecurity
