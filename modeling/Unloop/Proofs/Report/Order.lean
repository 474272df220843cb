-- Forms do not ask for the order of members. A report that is read from an object
-- is the one that is read from the same object with its members sorted, so what a
-- canonical text tells of an object is all that a report is read from.
import Unloop.Proofs.Report

namespace Unloop

open Form Json

/-! ## The pure model -/

/-- The check gives the same for a value and for the value with its members sorted
on every level. -/
def Form.Unordered {α : Type} (check : Check α) : Prop :=
  ∀ v : Value, v.Proper → check v.sorted = check v

section

variable {α : Type} {ms : Members} {name : String} {default : α} {check : Check α}
  {words : List (String × α)} {vs : List Value} {n : Nat}

/-! ## Checks of values -/

theorem unordered_text : Unordered text := by
  intro v _
  cases v <;> rfl

theorem unordered_oneOf : Unordered (oneOf words) := by
  intro v _
  cases v <;> rfl

theorem unordered_whole : Unordered whole := by
  intro v _
  cases v <;> rfl

theorem unordered_truth : Unordered truth := by
  intro v _
  cases v <;> rfl

theorem unordered_floating : Unordered floating := by
  intro v _
  cases v <;> rfl

theorem unordered_orNull (h : Unordered check) : Unordered (orNull check) := by
  intro v hv
  have hsome : some <$> check v.sorted = some <$> check v := congrArg (some <$> ·) (h v hv)
  cases v with
  | null => rfl
  | _ => exact hsome

theorem itemsFrom_sorted (h : Unordered check) (hvs : ∀ v ∈ vs, v.Proper) :
    itemsFrom check n (itemsSorted vs) = itemsFrom check n vs := by
  induction vs generalizing n with
  | nil => rfl
  | cons v vs ih =>
    obtain ⟨hv, hvs⟩ := List.forall_mem_cons.mp hvs
    rw [itemsSorted, itemsFrom, itemsFrom, h v hv, ih hvs]

theorem unordered_listOf (h : Unordered check) : Unordered (listOf check) := by
  intro v hv
  cases hv with
  | arr hvs => exact itemsFrom_sorted h hvs
  | _ => rfl

/-! ## Checks of fields -/

theorem get?_sorted_of_proper (h : (Value.obj ms).Proper) (name : String) :
    Members.get? (sortedByName (membersSorted ms)) name = (Members.get? ms name).map Value.sorted := by
  cases h with
  | obj names parts => exact get?_sorted names name

theorem proper_of_get? {v : Value} (h : (Value.obj ms).Proper) (hv : Members.get? ms name = some v) :
    v.Proper := by
  cases h with
  | obj names parts => exact parts _ ((get?_eq_some_iff names).mp hv)

theorem required_sorted (hms : (Value.obj ms).Proper) (h : Unordered check) :
    required (sortedByName (membersSorted ms)) name check = required ms name check := by
  unfold required
  rw [get?_sorted_of_proper hms]
  cases hv : Members.get? ms name with
  | none => rfl
  | some v => exact congrArg (Checked.under name) (h v (proper_of_get? hms hv))

theorem optional_sorted (hms : (Value.obj ms).Proper) (h : Unordered check) :
    Form.optional (sortedByName (membersSorted ms)) name check default =
      Form.optional ms name check default := by
  unfold Form.optional
  rw [get?_sorted_of_proper hms]
  cases hv : Members.get? ms name with
  | none => rfl
  | some v => exact congrArg (Checked.under name) (h v (proper_of_get? hms hv))

/-! ## Reports -/

theorem provenance_check_sorted (h : (Value.obj ms).Proper) :
    Provenance.check (sortedByName (membersSorted ms)) = Provenance.check ms := by
  simp only [Provenance.check, required_sorted h unordered_text, optional_sorted h unordered_text]

theorem runReport_check_sorted (h : (Value.obj ms).Proper) :
    RunReport.check (sortedByName (membersSorted ms)) = RunReport.check ms := by
  simp only [RunReport.check, provenance_check_sorted h, required_sorted h unordered_whole,
    required_sorted h unordered_oneOf, optional_sorted h (unordered_orNull unordered_whole),
    optional_sorted h (unordered_orNull unordered_text)]

theorem repairReport_check_sorted (h : (Value.obj ms).Proper) :
    RepairReport.check (sortedByName (membersSorted ms)) = RepairReport.check ms := by
  simp only [RepairReport.check, provenance_check_sorted h, required_sorted h unordered_whole,
    required_sorted h unordered_text, optional_sorted h (unordered_orNull unordered_truth)]

theorem unordered_timing : Unordered Timing.form := by
  intro v hv
  cases v with
  | obj ms =>
    change Timing.check (sortedByName (membersSorted ms)) = Timing.check ms
    simp only [Timing.check, required_sorted hv unordered_text, required_sorted hv unordered_whole,
      required_sorted hv unordered_floating]
  | _ => rfl

theorem benchReport_check_sorted (h : (Value.obj ms).Proper) :
    BenchReport.check (sortedByName (membersSorted ms)) = BenchReport.check ms := by
  simp only [BenchReport.check, provenance_check_sorted h, required_sorted h unordered_whole,
    required_sorted h unordered_text, required_sorted h unordered_truth,
    required_sorted h (unordered_listOf unordered_timing)]

theorem kind_check_sorted (k : ReportKind) (h : (Value.obj ms).Proper) :
    k.check (sortedByName (membersSorted ms)) = k.check ms := by
  cases k with
  | plain => exact congrArg (Report.plain <$> ·) (provenance_check_sorted h)
  | run => exact congrArg (Report.run <$> ·) (runReport_check_sorted h)
  | repair => exact congrArg (Report.repair <$> ·) (repairReport_check_sorted h)
  | bench => exact congrArg (Report.bench <$> ·) (benchReport_check_sorted h)

/-- A report is read from an object in whatever order its members are. -/
theorem ofValue_sorted (k : ReportKind) (h : (Value.obj ms).Proper) :
    k.ofValue (Value.obj ms).sorted = k.ofValue (.obj ms) :=
  congrArg Checked.toExcept (kind_check_sorted k h)

end

end Unloop
