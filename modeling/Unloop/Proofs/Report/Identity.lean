-- The laws of what identifies a report. Reports of one kind that are of the same
-- result have one hash, and where their texts do not collide, no other reports of that
-- kind have it.
import Unloop.Proofs.Fault
import Unloop.Proofs.Json.Hashes
import Unloop.Proofs.Report

namespace Unloop

open Form Json Text

/-! ## The pure model -/

/-- Two reports are of the same result: they are of one kind and agree in every field
that identifies a report of it. What a search cost and how it went do not count, and
neither do timings. -/
inductive Report.SameResult : Report → Report → Prop
  | plain (r : Provenance) : SameResult (.plain r) (.plain r)
  | run (r : RunReport) : SameResult (.run r) (.run r)
  | repair {r s : RepairReport} (provenance : r.provenance = s.provenance)
      (position : r.position = s.position) (removed : r.removed = s.removed)
      (replacement : r.replacement = s.replacement) (accumulator : r.accumulator = s.accumulator) :
      SameResult (.repair r) (.repair s)
  | bench {r s : BenchReport} (provenance : r.provenance = s.provenance)
      (length : r.length = s.length) (tieBreak : r.tieBreak = s.tieBreak)
      (agreed : r.agreed = s.agreed) : SameResult (.bench r) (.bench s)

/-- The text under the hash of a report. -/
def Report.identityText (r : Report) : List Char := (Value.obj r.identity).text

section

variable {r s : Report} {h h' : String} {fault : Fault} {ms : Members}

/-! ## The fields that count -/

theorem identity_repair (r : RepairReport) :
    (Report.repair r).identity = r.provenance.fields ++
      [("position", .int r.position), ("original", .str r.removed),
        ("replacement", .str r.replacement), ("accumulator", .int r.accumulator)] := rfl

theorem identity_bench (r : BenchReport) :
    (Report.bench r).identity = r.provenance.fields ++
      [("length", .int r.length), ("tie_break", .str r.tieBreak), ("agreed", .bool r.agreed)] := rfl

theorem identity_of_sameResult (h : r.SameResult s) : r.identity = s.identity := by
  cases h with
  | plain | run => rfl
  | repair provenance position removed replacement accumulator =>
    rw [identity_repair, identity_repair, provenance, position, removed, replacement, accumulator]
  | bench provenance length tieBreak agreed =>
    rw [identity_bench, identity_bench, provenance, length, tieBreak, agreed]

theorem nodup_identity (r : Report) : (r.identity.map Prod.fst).Nodup :=
  ((identity_sublist r).map Prod.fst).nodup (nodup_fields r)

/-- The identity of a report is proper, whatever its floating-point numbers are, since
no timing counts. -/
theorem proper_identity (r : Report) : (Value.obj r.identity).Proper := by
  have hfinite : ∀ r : Report, r.HasFiniteFloats → (Value.obj r.identity).Proper := fun r h =>
    .obj (nodup_identity r) fun m hm => (within_fields h m ((identity_sublist r).subset hm)).1
  cases r with
  | plain | run | repair => exact hfinite _ trivial
  | bench r => exact hfinite (.bench { r with timings := [] }) fun _ ht => nomatch ht

/-! ## What the fields tell -/

theorem eq_of_shows {name : String} {v w : Value} (hv : Members.get? ms name = some v)
    (hw : Members.get? ms name = some w) : v = w :=
  Option.some.inj (hv.symm.trans hw)

theorem provenance_of_shows {r s : Provenance} (hr : Shows ms r.fields) (hs : Shows ms s.fields) :
    r = s :=
  Checked.ok.inj ((provenance_check hr).symm.trans (provenance_check hs))

/-- Members that show the identity of two reports of one kind show one result. -/
theorem sameResult_of_shows (hkind : r.kind = s.kind) (hr : Shows ms r.identity)
    (hs : Shows ms s.identity) : r.SameResult s := by
  cases r <;> cases s <;> try cases hkind
  case plain r s =>
    obtain rfl := provenance_of_shows hr hs
    exact .plain r
  case run r s =>
    obtain rfl := Checked.ok.inj ((runReport_check hr).symm.trans (runReport_check hs))
    exact .run r
  case repair r s =>
    rw [identity_repair, shows_append] at hr hs
    have hprovenance := provenance_of_shows hr.1 hs.1
    simp only [Shows, List.forall_mem_cons, Value.sorted] at hr hs
    obtain ⟨_, hposition, hremoved, hreplacement, haccumulator, _⟩ := hr
    obtain ⟨_, hposition', hremoved', hreplacement', haccumulator', _⟩ := hs
    exact .repair hprovenance (Value.int.inj (eq_of_shows hposition hposition'))
      (Value.str.inj (eq_of_shows hremoved hremoved'))
      (Value.str.inj (eq_of_shows hreplacement hreplacement'))
      (Value.int.inj (eq_of_shows haccumulator haccumulator'))
  case bench r s =>
    rw [identity_bench, shows_append] at hr hs
    have hprovenance := provenance_of_shows hr.1 hs.1
    simp only [Shows, List.forall_mem_cons, Value.sorted] at hr hs
    obtain ⟨_, hlength, htie, hagreed, _⟩ := hr
    obtain ⟨_, hlength', htie', hagreed', _⟩ := hs
    exact .bench hprovenance (Value.int.inj (eq_of_shows hlength hlength'))
      (Value.str.inj (eq_of_shows htie htie')) (Value.bool.inj (eq_of_shows hagreed hagreed'))

/-! ## Hashes of reports -/

theorem reportHash_eq_ok_iff : r.hash = .ok h ↔ (Value.obj r.identity).hash? = some h :=
  orFault_eq_ok_iff

theorem reportHash_eq_error_iff :
    r.hash = .error fault ↔ (Value.obj r.identity).isWritable = false ∧ fault = .unwritable := by
  rw [Report.hash, orFault_eq_error_iff, hash?_eq_none_iff]

theorem hash_of_sameResult (h : r.SameResult s) : r.hash = s.hash := by
  rw [Report.hash, Report.hash, identity_of_sameResult h]

/-- Reports of one kind with one hash are of the same result, if their texts do not
collide. -/
theorem sameResult_of_hash_eq (hkind : r.kind = s.kind) (hr : r.hash = .ok h) (hs : s.hash = .ok h)
    (hfree : CollisionFree [r.identityText, s.identityText]) : r.SameResult s := by
  have hsorted := sorted_eq_of_hash_eq (proper_identity r) (proper_identity s)
    (reportHash_eq_ok_iff.mp hr) (reportHash_eq_ok_iff.mp hs) hfree
  simp only [Value.sorted, Value.obj.injEq] at hsorted
  exact sameResult_of_shows hkind (shows_sorted (nodup_identity r))
    (hsorted ▸ shows_sorted (nodup_identity s))

theorem hash_eq_iff_sameResult (hkind : r.kind = s.kind) (hr : r.hash = .ok h)
    (hs : s.hash = .ok h') (hfree : CollisionFree [r.identityText, s.identityText]) :
    h = h' ↔ r.SameResult s := by
  constructor
  · rintro rfl
    exact sameResult_of_hash_eq hkind hr hs hfree
  · intro hsame
    exact Except.ok.inj (hr.symm.trans ((hash_of_sameResult hsame).trans hs))

end

end Unloop
