-- The laws of checks. A form is filled in when the value is an object and
-- every field of it passes its own check.
import Unloop.Form

namespace Unloop.Form

open Json

section

variable {α β : Type} {f : Checked (α → β)} {c : Checked α} {g : α → β} {a default : α} {b : β}
  {ms : Members} {name : String} {v : Value} {check : Check α} {form : Members → Checked α}

theorem seq_eq_ok_iff : f <*> c = .ok b ↔ ∃ g a, f = .ok g ∧ c = .ok a ∧ g a = b := by
  change f.apply c = _ ↔ _
  cases f with
  | issues is => cases c <;> simp [Checked.apply]
  | ok g =>
    cases c with
    | issues js => simp [Checked.apply]
    | ok a => simp [Checked.apply]

theorem map_eq_ok_iff : g <$> c = .ok b ↔ ∃ a, c = .ok a ∧ g a = b := by
  change (Checked.ok g).apply c = _ ↔ _
  cases c <;> simp [Checked.apply]

theorem seqLeft_eq_ok_iff {d : Checked β} : c <* d = .ok a ↔ c = .ok a ∧ ∃ b, d = .ok b := by
  change (((Checked.ok (Function.const β)).apply c).apply d) = _ ↔ _
  cases c <;> cases d <;> simp [Checked.apply, Function.const]

theorem toExcept_eq_ok_iff : c.toExcept = .ok a ↔ c = .ok a := by
  cases c <;> simp [Checked.toExcept]

theorem under_eq_ok_iff : c.under name = .ok a ↔ c = .ok a := by
  cases c <;> simp [Checked.under]

/-- A field that may be missing has its default or passes its check. -/
theorem optional_eq_ok_iff :
    optional ms name check default = .ok a ↔
      (ms.get? name = none ∧ default = a) ∨ ∃ v, ms.get? name = some v ∧ check v = .ok a := by
  unfold optional
  cases h : ms.get? name with
  | none => simp
  | some v => simp [under_eq_ok_iff]

theorem required_of_get? (h : ms.get? name = some v) (hv : check v = .ok a) :
    required ms name check = .ok a := by
  rw [required, h]
  exact under_eq_ok_iff.mpr hv

theorem optional_of_get? (h : ms.get? name = some v) (hv : check v = .ok a) :
    optional ms name check default = .ok a :=
  optional_eq_ok_iff.mpr (Or.inr ⟨v, h, hv⟩)

theorem noFields_eq_ok_iff {names : List String} {u : Unit} :
    noFields names = .ok u ↔ names = [] := by
  cases names with
  | nil => exact iff_of_true rfl rfl
  | cons name names => exact iff_of_false (fun h => nomatch h) (fun h => nomatch h)

theorem members_eq_ok_iff {ns : Members} : members v = .ok ns ↔ v = .obj ns := by
  cases v <;> simp [members, Checked.flaw]

theorem text_eq_ok_iff {s : String} : text v = .ok s ↔ v = .str s := by
  cases v <;> simp [text, Checked.flaw]

theorem atLeast_eq_ok_iff {least n : Int} :
    atLeast least v = .ok n ↔ whole v = .ok n ∧ least ≤ n := by
  unfold atLeast
  cases whole v with
  | ok k =>
    dsimp only
    split
    · rename_i hle
      simp only [Checked.ok.injEq]
      exact ⟨fun h => ⟨h, h ▸ hle⟩, fun h => h.1⟩
    · rename_i hle
      simp only [Checked.flaw, Checked.ok.injEq, reduceCtorEq, false_iff]
      rintro ⟨rfl, h⟩
      exact hle h
  | issues is => simp

theorem fill_eq_ok_iff : fill form v = .ok a ↔ ∃ ms, v = .obj ms ∧ form ms = .ok a := by
  cases v with
  | obj ms =>
    change (form ms).toExcept = .ok a ↔ _
    cases h : form ms with
    | ok b => simp [Checked.toExcept, h]
    | issues is => simp [Checked.toExcept, h]
  | _ => simp [fill]

/-- A form is not filled in from a value without members, and else only where a
field does not fit. -/
theorem fill_eq_error_iff {fault : Fault} :
    fill form v = .error fault ↔
      (v.members? = none ∧ fault = .noFields) ∨
        ∃ ms is, v = .obj ms ∧ form ms = .issues is ∧ fault = .invalid is := by
  cases v with
  | obj ms =>
    change (form ms).toExcept = .error fault ↔ _
    cases h : form ms with
    | ok a => simp [Checked.toExcept, Value.members?, h]
    | issues is => simp [Checked.toExcept, Value.members?, h, eq_comm]
  | _ => simp [fill, Value.members?, eq_comm]

end

end Unloop.Form
