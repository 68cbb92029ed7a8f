import Mathlib.Data.Finset.Sort
import Mathlib.Data.String.Basic

/-! The part of the core/v1 API that the checks read, with Go's zero values as defaults,
and the library helpers they call: `sets.String`, `strings.HasPrefix`, `sort.Strings`.
Go compares strings byte by byte; for UTF-8 text that is the order of code points, which
is the order of `String` here. -/
namespace PodSecurity

structure ContainerPort where
  hostPort : Int := 0
deriving DecidableEq, Repr, Inhabited

structure SELinuxOptions where
  user : String := ""
  role : String := ""
  type : String := ""
deriving DecidableEq, Repr, Inhabited

structure SecurityContext where
  privileged : Option Bool := none
  seLinuxOptions : Option SELinuxOptions := none
  procMount : Option String := none
deriving DecidableEq, Repr, Inhabited

structure Container where
  name : String
  ports : List ContainerPort := []
  securityContext : Option SecurityContext := none
deriving DecidableEq, Repr, Inhabited

/-- An ephemeral container; the checks see it through its common part, a Container. -/
structure EphemeralContainer where
  ephemeralContainerCommon : Container
deriving DecidableEq, Repr, Inhabited

structure PodSecurityContext where
  seLinuxOptions : Option SELinuxOptions := none
deriving DecidableEq, Repr, Inhabited

structure PodSpec where
  initContainers : List Container := []
  containers : List Container := []
  ephemeralContainers : List EphemeralContainer := []
  securityContext : Option PodSecurityContext := none
  hostUsers : Option Bool := none
deriving DecidableEq, Repr, Inhabited

/-- The annotations map, as the entries in the order a range over it visits them. That
order is not fixed by the map; its keys are distinct. -/
structure ObjectMeta where
  annotations : List (String × String) := []
  keys_nodup : (annotations.map Prod.fst).Nodup := by decide

/-- corev1.DefaultProcMount. -/
def defaultProcMount : String := "Default"

/-- sets.String. -/
abbrev StringSet := Finset String

/-- `List()`: the members in increasing order. -/
def StringSet.list (s : StringSet) : List String := s.sort (· ≤ ·)

def StringSet.has (s : StringSet) (item : String) : Bool := decide (item ∈ s)

def hasPrefix (s pre : String) : Bool := pre.data.isPrefixOf s.data

/-- `items` lists the strings that satisfy `p`, each once, in increasing order: what `List()`
returns for the set of them. -/
def SortedSetOf (p : String → Prop) (items : List String) : Prop :=
  items.Sorted (· < ·) ∧ ∀ x, x ∈ items ↔ p x

/-- sort.Strings. -/
def sortStrings (items : List String) : List String := items.insertionSort (· ≤ ·)

theorem length_eq_zero_iff_eq_empty (s : String) : s.length = 0 ↔ s = "" := by
  cases s
  simp [String.length, String.ext_iff]

@[simp] theorem StringSet.mem_list (s : StringSet) (x : String) : x ∈ s.list ↔ x ∈ s :=
  Finset.mem_sort _

@[simp] theorem StringSet.length_list (s : StringSet) : s.list.length = s.card :=
  Finset.length_sort _

theorem length_pos_iff_ne_empty (s : String) : s.length > 0 ↔ s ≠ "" := by
  rw [gt_iff_lt, Nat.pos_iff_ne_zero, Ne, length_eq_zero_iff_eq_empty]

theorem StringSet.list_sortedSetOf {s : StringSet} {p : String → Prop} (mem : ∀ x, x ∈ s ↔ p x) :
    SortedSetOf p s.list :=
  ⟨Finset.sort_sorted_lt s, fun x => (StringSet.mem_list s x).trans (mem x)⟩

/-- sort.Strings gives the same slice for any order of its input. -/
theorem sortStrings_perm {xs ys : List String} (same : xs.Perm ys) : sortStrings xs = sortStrings ys :=
  List.eq_of_perm_of_sorted
    ((List.perm_insertionSort _ xs).trans (same.trans (List.perm_insertionSort _ ys).symm))
    (List.sorted_insertionSort _ xs) (List.sorted_insertionSort _ ys)

end PodSecurity
