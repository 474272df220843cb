-- The last hash of a chain stands for the whole chain. As long as no two texts
-- that are hashed have one hash, two chains with the same last hash have the
-- same entries: each hash tells the hash before it, down to the first line.
import Unloop.Proofs.Journal.Logbook

namespace Unloop

open Form Json Text

/-- The texts that are hashed when an entry is checked: that of its fields,
and that of what identifies its report, if it has one. -/
def Entry.hashedTexts (e : Entry) : List (List Char) :=
  (Value.obj e.chained).text ::
    match e.report? with
    | some (.ok r) => [(Value.obj r.identity).text]
    | _ => []

section

variable {a b content : Bytes} {prev : String} {n : Nat} {e f : Entry} {es fs : List Entry}

/-! ## The entries of a file -/

/-- Two entries of one hash tell the same. -/
theorem agrees_of_hash_eq (he : e.chainHash = .ok e.entryHash) (hf : f.chainHash = .ok f.entryHash)
    (hep : (Value.obj e.payload).Proper) (hfp : (Value.obj f.payload).Proper)
    (hfree : CollisionFree (e.hashedTexts ++ f.hashedTexts)) (h : e.entryHash = f.entryHash) :
    e.Agrees f := by
  obtain ⟨_, hew, hehash⟩ := chainHash_eq_ok_iff.mp he
  obtain ⟨_, hfw, hfhash⟩ := chainHash_eq_ok_iff.mp hf
  have htext : (Value.obj e.chained).text = (Value.obj f.chained).text :=
    hfree _ (List.mem_append_left _ List.mem_cons_self) _
      (List.mem_append_right _ List.mem_cons_self) (by rw [hehash, hfhash, h])
  exact agrees_of_text_eq hep hew hfp hfw htext h

end

end Unloop
