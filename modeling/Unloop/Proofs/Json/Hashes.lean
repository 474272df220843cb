-- The laws of hashes. A value that can be written has a hash, that of its canonical
-- text. The order of members does not matter for it, and where no two texts have the
-- same hash, nothing else is left open.
import Unloop.Proofs.Json.RoundTrip

namespace Unloop

open Json Text

/-! ## The pure model -/

/-- No two different texts of these have the same hash. -/
def CollisionFree (ts : List (List Char)) : Prop :=
  ∀ t ∈ ts, ∀ u ∈ ts, hashOf (encode t) = hashOf (encode u) → t = u

section

variable {v w : Value} {h : String} {t : List Char} {ts us : List (List Char)}

/-! ## What has a hash -/

theorem canonical?_eq_some_iff : v.canonical? = some t ↔ v.isWritable = true ∧ v.text = t := by
  unfold Value.canonical?
  split <;> simp [*]

theorem hash?_eq_some_iff : v.hash? = some h ↔ v.isWritable = true ∧ hashOf (encode v.text) = h := by
  unfold Value.hash? Value.canonical?
  split <;> simp [*]

theorem hash?_eq_none_iff : v.hash? = none ↔ v.isWritable = false := by
  unfold Value.hash? Value.canonical?
  split <;> simp [*]

theorem hash?_sorted (v : Value) : v.sorted.hash? = v.hash? := by
  rw [Value.hash?, canonical?_sorted, Value.hash?]

theorem isWritable_of_within {k : Nat} (h : v.Within k) (hk : k ≤ writtenDepth) :
    v.isWritable = v.wordsOnly := by
  rw [Value.isWritable, decide_eq_true (Nat.le_trans (depth_le_height v) (Nat.le_trans h.2 hk)),
    Bool.and_true]

/-! ## What a hash tells -/

theorem CollisionFree.subset (h : CollisionFree us) (hsub : ts ⊆ us) : CollisionFree ts :=
  fun t ht u hu => h t (hsub ht) u (hsub hu)

theorem collisionFree_of_nodup (h : (ts.map fun t => hashOf (encode t)).Nodup) : CollisionFree ts :=
  fun _ ht _ hu hsame => List.inj_on_of_nodup_map h ht hu hsame

/-- Values of one hash differ in the order of members only, if their texts do not
collide. -/
theorem sorted_eq_of_hash_eq (hv : v.Proper) (hw : w.Proper) (hvh : v.hash? = some h)
    (hwh : w.hash? = some h) (hfree : CollisionFree [v.text, w.text]) : v.sorted = w.sorted := by
  obtain ⟨hvw, hvh⟩ := hash?_eq_some_iff.mp hvh
  obtain ⟨hww, hwh⟩ := hash?_eq_some_iff.mp hwh
  have htext : v.text = w.text := hfree _ (by simp) _ (by simp) (hvh.trans hwh.symm)
  exact sorted_eq_of_text_eq hv hvw hw hww htext

end

end Unloop
