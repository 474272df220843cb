-- The laws of commands on a program that keep a journal. Each of them notes
-- that it starts and then all of its results, unless it comes upon a failure
-- before the last one: then it notes that failure and ends with its exit code.
import Unloop.Command
import Unloop.Proofs.Command.Steps
import Unloop.Proofs.Program.Refusals
import Unloop.Proofs.Repair.Codes
import Unloop.Proofs.Repair.Costs

namespace Unloop.Command

open Json Number Text

/-! ## The pure model -/

/-- The file of a program with offsets that can be read, on fewer than `2 ^ 32`
lines. If it is one, its offsets are below `2 ^ 63` in total. -/
structure Source (bytes : Bytes) : Prop where
  offsets : ShortOffsets bytes
  lines : lineCount bytes < twoTo 32
  total : ∀ p, Program.ofBytes bytes = .ok p → p.total < twoTo 63

section

variable {α β : Type} {x : Session α} {f : α → Session β} {s : Shell}
  {program path journal : String} {bytes : Bytes} {es : List Entry} {done results : List EntryEvent}
  {good : β → Shell → Prop} {stopped : Halt → Shell → Prop} {event : EntryEvent} {m : Manner}
  {report : Report} {p : Program} {r : Except Fault α} {wanted : α → Prop}

/-! ## Notes -/

theorem shortOffsets_render (p : Program) : ShortOffsets (bytesOf p.render) := by
  intro l hl text htext op sign ds hparts hdigits
  rw [Program.render, bytesOf, String.toList_ofList, Program.chars, split_encode_chars] at hl
  obtain ⟨i, hi, rfl⟩ := List.mem_map.mp hl
  have hwhole : Line.whole ⟨encode i.chars, [10]⟩ = encode (i.chars ++ ['\n']) := by
    simp only [Line.whole, encode, List.flatMap_append]
    rfl
  rw [hwhole, decode?_encode, Option.some.injEq] at htext
  rw [← htext, withoutEnding_chars i (by simp)] at hparts
  by_contra hlong
  have hreads := Reads.longOffset hparts hdigits (Nat.lt_of_not_le hlong)
  rw [← reading_eq_iff, reading_chars (p.writable i hi)] at hreads
  cases hreads

/-- The text of a small program is a source. -/
theorem source_of_small (h : p.Small) : Source (bytesOf p.render) where
  offsets := shortOffsets_render p
  lines := by
    unfold lineCount
    rw [Program.render, bytesOf, String.toList_ofList, Program.chars, split_encode_chars,
      List.length_map]
    exact h.length
  total := by
    intro q hq
    rw [ofBytes_render, Except.ok.injEq] at hq
    rw [← hq]
    exact h.total

/-- An object in which nothing is deep can be written exactly if it is made of
words. -/
theorem isWritable_obj_iff {ms : Members} (h : ∀ m ∈ ms, m.2.height ≤ 5) :
    (Value.obj ms).isWritable = true ↔ ∀ m ∈ ms, m.2.wordsOnly = true := by
  rw [Value.isWritable, Bool.and_eq_true, decide_eq_true_eq, Value.wordsOnly, membersWordsOnly_iff]
  apply and_iff_left
  refine Nat.le_trans (Nat.succ_le_succ (membersDepth_le.mpr fun m hm => ?_))
    (by decide : 6 ≤ writtenDepth)
  exact Nat.le_trans (depth_le_height _) (h m hm)

/-- The rows of a table are told one after the other. -/
theorem gives_rows {as : List α} (hf : ∀ a ∈ as, Gives (f a) s fun _ s' => s' = s) :
    Gives (as.mapM f) s fun _ s' => s' = s := by
  have hall : Gives (as.mapM f) s fun bs s' => s' = s ∧ ∀ b ∈ bs, True := by
    refine ends_mapM rfl fun a ha s' hs' => ?_
    subst hs'
    exact ends_of_gives (hf a ha) fun _ _ hsame => ⟨hsame, trivial⟩
  exact ends_of_gives hall fun _ _ hsame => hsame.1

end

end Unloop.Command
