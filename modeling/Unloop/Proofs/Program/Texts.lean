-- The laws of texts as programs. A text that breaks at line feeds alone and the
-- file that holds it are read alike: as the same program, or with the same refusal
-- of the same line.
import Unloop.Program.Listing
import Unloop.Proofs.Instruction.Line
import Unloop.Proofs.Text.Feeds

namespace Unloop

open Text

section

variable {cs ds : List Char} {l : Line Char}

/-- A line is read without its ending. -/
theorem ofLine_congr (h : withoutEnding cs = withoutEnding ds) (number : Int) :
    Instruction.ofLine number (String.ofList cs) = Instruction.ofLine number (String.ofList ds) := by
  unfold Instruction.ofLine
  rw [String.toList_ofList, String.toList_ofList, h]

theorem withoutEnding_of_mem_split (hl : l ∈ Breaks.chars.split cs) {ending : List Char}
    (hending : ending ∈ [[], ['\n'], ['\r', '\n']]) :
    withoutEnding (l.body ++ ending) = l.body := by
  have hlast : ∀ c, Breaks.chars.isBreak c = true → l.body.getLast? ≠ some c := by
    intro c hc hlast
    rw [not_break_of_mem_split hl (List.mem_of_getLast? hlast)] at hc
    cases hc
  exact withoutEnding_append (hlast '\n' rfl) (hlast '\r' rfl) hending

/-- The bytes of a line with its ending are read as the line without it. -/
theorem ofBytes_encoded (h : Fed cs) (hl : l ∈ Breaks.chars.split cs) (number : Int) :
    Instruction.ofBytes number l.encoded.whole =
      Instruction.ofLine number (String.ofList l.body) := by
  have hwhole : withoutEnding l.whole = l.body :=
    withoutEnding_of_mem_split hl (ending_of_mem_split h hl)
  have hbare : withoutEnding (l.body ++ []) = l.body := withoutEnding_of_mem_split hl (by simp)
  rw [List.append_nil] at hbare
  rw [whole_encoded, Instruction.ofBytes, decode?_encode]
  exact ofLine_congr (hwhole.trans hbare.symm) number

/-- Lines that are read alike one by one are read alike. -/
theorem readLines_congr {α β γ : Type} {readLine : Int → α → Except Fault Instruction}
    {readLine' : Int → β → Except Fault Instruction} {f : γ → α} {g : γ → β} {ls : List γ}
    (h : ∀ l ∈ ls, ∀ number, readLine number (f l) = readLine' number (g l)) (number : Int) :
    readLines readLine number (ls.map f) = readLines readLine' number (ls.map g) := by
  induction ls generalizing number with
  | nil => rfl
  | cons l ls ih =>
    obtain ⟨hl, hls⟩ := List.forall_mem_cons.mp h
    rw [List.map_cons, List.map_cons, readLines, readLines, hl, ih hls]

theorem ofBytes_of_fed {text : String} (h : Fed text.toList) :
    Program.ofBytes (bytesOf text) = Program.ofText text := by
  have hlines : readLines Instruction.ofBytes 0
        ((Breaks.chars.split text.toList).map (Line.whole ∘ Line.encoded)) =
      readLines Instruction.ofLine 0
        ((Breaks.chars.split text.toList).map fun l => String.ofList l.body) :=
    readLines_congr (fun l hl => ofBytes_encoded h hl) 0
  unfold Program.ofBytes Program.ofText Program.ofLines bytesOf
  rw [split_encode h, List.map_map, hlines]

/-- A text and the file that holds it are read alike, if nothing breaks the text but
line feeds, with or without a carriage return before each. Both give the same
program, or the same fault: then the same line is refused, for the same reason and
with the same words. -/
theorem a_text_and_its_file_are_read_alike (text : String) (h : BreaksAtFeeds text.toList) :
    Program.ofBytes (bytesOf text) = Program.ofText text :=
  ofBytes_of_fed (fed_of_breaksAtFeeds h)

/-- The second line is refused by both, with a character of two bytes in it. -/
theorem a_letter_of_two_bytes_is_refused_alike :
    let text := "nop +0\r\njmp +é\nacc"
    let fault : Fault := .failure (.line .badOffset 1 "jmp +é" "invalid offset")
    BreaksAtFeeds text.toList ∧ Program.ofText text = .error fault ∧
      Program.ofBytes (bytesOf text) = .error fault := by
  intro text fault
  have hfeeds : BreaksAtFeeds text.toList := by decide +kernel
  have hread : Program.ofText text = .error fault := by decide +kernel
  exact ⟨hfeeds, hread, (a_text_and_its_file_are_read_alike text hfeeds).trans hread⟩

/-- A carriage return alone breaks both, but is taken off the line of the text only. -/
example : Program.ofText "nop +0\r" ≠ Program.ofBytes (bytesOf "nop +0\r") := by decide +kernel

end

end Unloop
