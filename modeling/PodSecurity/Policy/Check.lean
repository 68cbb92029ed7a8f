import PodSecurity.Core
import PodSecurity.Field

/-! What every check takes and returns. `pluralize` and `joinQuote` are helpers of the policy
package whose files are not part of this snapshot; they are given here as the spec and the
rendered messages of its tests show them. -/
namespace PodSecurity

structure Options where
  withFieldErrors : Bool := false
deriving DecidableEq, Repr

/-- The outcome of one check; `errList` is the pointer to the field errors, nil unless
they were requested and the check failed. -/
structure CheckResult where
  allowed : Bool
  forbiddenReason : String := ""
  forbiddenDetail : String := ""
  errList : Option (List Field.Error) := none
deriving DecidableEq, Repr

/-- Two results that agree but for the order of their field errors. -/
def CheckResult.SameUpToErrorOrder (r₁ r₂ : CheckResult) : Prop :=
  r₁.allowed = r₂.allowed ∧ r₁.forbiddenReason = r₂.forbiddenReason ∧ r₁.forbiddenDetail = r₂.forbiddenDetail ∧
    Option.Rel List.Perm r₁.errList r₂.errList

/-- Modelled from the spec: pluralize is not under src/; it picks the singular for a count
of one and the plural otherwise. -/
def pluralize (singular plural : String) (count : Nat) : String :=
  if count = 1 then singular else plural

/-- Modelled from the spec: joinQuote is not under src/; it quotes each item and separates
them with ", " (`containers "d", "e"`), and gives "" for no items. -/
def joinQuote (items : List String) : String :=
  if items = [] then "" else "\"" ++ String.intercalate "\", \"" items ++ "\""

/-- The closing step every check shares, read field by field: it refuses exactly when
`fails`, a refusal carries the reason and the detail, and the error list is the errors for
a refusal with field errors and nil otherwise. -/
theorem fields_of_ite {result : CheckResult} {fails : Prop} [Decidable fails] {reason detail : String}
    {withFieldErrors : Bool} {errs : List Field.Error}
    (tail : result =
      if fails then
        { allowed := false, forbiddenReason := reason, forbiddenDetail := detail,
          errList := if withFieldErrors then some errs else none }
      else { allowed := true }) :
    (result.allowed = false ↔ fails) ∧
    (result.allowed = false → result.forbiddenReason = reason ∧ result.forbiddenDetail = detail) ∧
    result.errList = if withFieldErrors = true ∧ result.allowed = false then some errs else none := by
  subst tail
  by_cases fails <;> simp [*]

/-- A check fails when it recorded a label, that is when some item failed its test. -/
theorem length_map_filter_ne_zero {α β : Type} (f : α → β) (p : α → Bool) (l : List α) :
    ((l.filter p).map f).length ≠ 0 ↔ ∃ a ∈ l, p a = true := by
  simp [List.filter_eq_nil_iff]

end PodSecurity
