-- The settings one by one. A setting has its default where no value is chosen
-- for it, and else what its own check makes of the value. Settings are checked
-- when each of them is, and what one of them is shown as passes its check.
import Unloop.Proofs.Form
import Unloop.Settings

namespace Unloop.Settings

open Form Json

/-! ## The pure model -/

/-- One of the settings. -/
structure Field where
  /-- What it may be. -/
  Kind : Type
  name : String
  check : Check Kind
  default : Kind
  /-- How it is shown among the settings as JSON. -/
  shown : Kind → Value
  get : Settings → Kind

namespace Field

/-- What a setting is when a value, or none, is chosen for it. -/
def settle (f : Field) : Option Value → Checked f.Kind
  | none => .ok f.default
  | some v => f.check v

/-- A setting that is one of some things with names. -/
def choice {α : Type} (name : String) (all : List α) (nameOf : α → String) (default : α)
    (get : Settings → α) : Field where
  Kind := α
  name := name
  check := oneOf (all.map fun a => (nameOf a, a))
  default := default
  shown a := .str (nameOf a)
  get := get

/-- A setting that is on or off. -/
def flag (name : String) (get : Settings → Bool) : Field where
  Kind := Bool
  name := name
  check := truth
  default := false
  shown := .bool
  get := get

/-- How much is told. -/
def logLevel : Field where
  Kind := String
  name := "log_level"
  check := text
  default := "WARNING"
  shown := .str
  get := Settings.logLevel

/-- How often a search is timed. -/
def benchRepeats : Field where
  Kind := Int
  name := "bench_repeats"
  check := atLeast 1
  default := 5
  shown := .int
  get := Settings.benchRepeats

end Field

/-- All settings, in their order. -/
def fields : List Field :=
  [.choice "strategy" Strategy.all Strategy.name .speculative Settings.strategy,
    .choice "tie_break" TieBreak.all TieBreak.name .lowestIndex Settings.tieBreak,
    .flag "record_trace" Settings.recordTrace, .logLevel, .flag "log_json" Settings.logJson,
    .benchRepeats]

/-! ## Checks -/

section

variable {ms : Members} {s t : Settings} {f : Field}

theorem map_name_fields : fields.map Field.name = names := rfl

theorem toValue_eq (s : Settings) :
    s.toValue = .obj (fields.map fun f => (f.name, f.shown (f.get s))) := rfl

theorem optional_eq_ok_iff_settle {a : f.Kind} :
    Form.optional ms f.name f.check f.default = .ok a ↔ f.settle (ms.get? f.name) = .ok a := by
  unfold Form.optional Field.settle
  cases ms.get? f.name with
  | none => exact Iff.rfl
  | some v => exact under_eq_ok_iff

theorem forall_mem_fields {p : Field → Prop} :
    (∀ f ∈ fields, p f) ↔
      p (.choice "strategy" Strategy.all Strategy.name .speculative Settings.strategy) ∧
      p (.choice "tie_break" TieBreak.all TieBreak.name .lowestIndex Settings.tieBreak) ∧
      p (.flag "record_trace" Settings.recordTrace) ∧ p .logLevel ∧
      p (.flag "log_json" Settings.logJson) ∧ p .benchRepeats := by
  simp only [fields, List.forall_mem_cons, List.not_mem_nil, false_imp_iff, implies_true, and_true]

/-- Settings are checked when each of them is. -/
theorem check_eq_ok_iff :
    check ms = .ok s ↔ ∀ f ∈ fields, f.settle (ms.get? f.name) = .ok (f.get s) := by
  simp only [← optional_eq_ok_iff_settle, forall_mem_fields]
  unfold check
  simp only [seq_eq_ok_iff, map_eq_ok_iff]
  constructor
  · rintro ⟨_, n, ⟨_, j, ⟨_, l, ⟨_, r, ⟨_, t, ⟨g, hg, rfl⟩, ht, rfl⟩, hr, rfl⟩, hl, rfl⟩, hj, rfl⟩,
      hn, rfl⟩
    exact ⟨hg, ht, hr, hl, hj, hn⟩
  · rintro ⟨hg, ht, hr, hl, hj, hn⟩
    exact ⟨_, _, ⟨_, _, ⟨_, _, ⟨_, _, ⟨_, _, ⟨_, hg, rfl⟩, ht, rfl⟩, hr, rfl⟩, hl, rfl⟩, hj, rfl⟩,
      hn, rfl⟩

/-- Settings that were checked time a search at least once. -/
theorem benchRepeats_of_check (h : check ms = .ok s) : 1 ≤ s.benchRepeats := by
  have hsettled : Field.benchRepeats.settle (ms.get? "bench_repeats") = .ok s.benchRepeats :=
    (forall_mem_fields.mp (check_eq_ok_iff.mp h)).2.2.2.2.2
  cases hchosen : ms.get? "bench_repeats" with
  | none =>
    rw [hchosen] at hsettled
    have hdefault : 5 = s.benchRepeats := Checked.ok.inj hsettled
    omega
  | some v =>
    rw [hchosen] at hsettled
    exact (atLeast_eq_ok_iff.mp hsettled).2

/-- Settings that were checked pass their checks as they are shown. -/
theorem check_shown (h : check ms = .ok s) :
    ∀ f ∈ fields, f.check (f.shown (f.get s)) = .ok (f.get s) := by
  refine forall_mem_fields.mpr ⟨?_, ?_, rfl, rfl, rfl, ?_⟩
  · change oneOf _ (.str s.strategy.name) = .ok s.strategy
    cases s.strategy <;> rfl
  · change oneOf _ (.str s.tieBreak.name) = .ok s.tieBreak
    cases s.tieBreak <;> rfl
  · change atLeast 1 (.int s.benchRepeats) = .ok s.benchRepeats
    exact atLeast_eq_ok_iff.mpr ⟨rfl, benchRepeats_of_check h⟩

end

end Unloop.Settings
