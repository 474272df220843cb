-- The laws of files that follow one another. A file that is empty or ends in a line
-- feed, with another file after it, is read line by line as the two are. What is
-- refused in the second one is refused further down.
import Unloop.Proofs.Program.Refusals

namespace Unloop

open Number Text

/-! ## The pure model -/

/-- The last line of the file is complete, so that the next file starts a new one. -/
def Complete (content : Bytes) : Prop := content = [] ∨ content.getLast? = some 10

/-- The fault of a line that stands so many lines further down. -/
def Fault.further (k : Nat) : Fault → Fault
  | .failure (.line kind number text reason) => .of (.line kind (number + k) text reason)
  | fault => fault

/-- The fault tells of the line with this number, or of a number that is too long. -/
def Fault.AtLine (number : Int) (fault : Fault) : Prop :=
  (∃ kind text reason, fault = .failure (.line kind number text reason)) ∨
    ∃ digits, fault = .longNumber digits

/-- The instructions of a file, which are those of its program. -/
def instructionsOf (content : Bytes) : Except Fault (List Instruction) :=
  readLines Instruction.ofBytes 0 ((Breaks.bytes.split content).map Line.whole)

section

variable {α : Type} {number : Int} {k : Nat} {text : String} {content a bytes : Bytes}
  {fault : Fault} {i : Instruction} {is : List Instruction} {p : Program}
  {readLine : Int → α → Except Fault Instruction} {lines : List α}

/-! ## One line -/

theorem further_refuseLine (h : 0 ≤ number) (k : Nat) (kind : LineFault) (line : List Char)
    (reason : String) :
    (refuseLine kind number line reason).further k = refuseLine kind (number + k) line reason := by
  by_cases hnumber : Writable number
  · rw [refuseLine_of_writable hnumber]
    rfl
  · have hlong : ¬ Writable (number + k) := by
      unfold Writable at hnumber ⊢
      omega
    rw [refuseLine_of_not_writable hnumber, refuseLine_of_not_writable hlong]
    rfl

/-- The number of a line does not change what it is, only what a refusal tells. -/
theorem ofLine_further (h : 0 ≤ number) (k : Nat) (text : String) :
    Instruction.ofLine (number + k) text =
      (Instruction.ofLine number text).mapError (Fault.further k) := by
  unfold Instruction.ofLine
  dsimp only
  split
  · rfl
  · rfl
  · exact congrArg Except.error (further_refuseLine h k ..).symm
  · exact congrArg Except.error (further_refuseLine h k ..).symm

theorem instruction_ofBytes_further (h : 0 ≤ number) (k : Nat) (line : Bytes) :
    Instruction.ofBytes (number + k) line =
      (Instruction.ofBytes number line).mapError (Fault.further k) := by
  unfold Instruction.ofBytes
  split
  · exact ofLine_further h k _
  · exact congrArg Except.error (further_refuseLine h k ..).symm

theorem writable_of_ofLine (h : Instruction.ofLine number text = .ok i) : i.Writable := by
  unfold Instruction.ofLine at h
  dsimp only at h
  split at h
  · rename_i hreading
    cases h
    exact writable_of_reads (reading_eq_iff.mp hreading)
  all_goals cases h

theorem writable_of_instruction_ofBytes (h : Instruction.ofBytes number bytes = .ok i) :
    i.Writable := by
  unfold Instruction.ofBytes at h
  split at h
  · exact writable_of_ofLine h
  · cases h

theorem atLine_refuseLine (kind : LineFault) (number : Int) (line : List Char) (reason : String) :
    (refuseLine kind number line reason).AtLine number := by
  by_cases hnumber : Writable number
  · rw [refuseLine_of_writable hnumber]
    exact Or.inl ⟨kind, _, reason, rfl⟩
  · rw [refuseLine_of_not_writable hnumber]
    exact Or.inr ⟨none, rfl⟩

theorem atLine_of_ofLine (h : Instruction.ofLine number text = .error fault) :
    fault.AtLine number := by
  unfold Instruction.ofLine at h
  dsimp only at h
  split at h
  · cases h
  · exact Or.inr ⟨_, (Except.error.inj h).symm⟩
  · exact Except.error.inj h ▸ atLine_refuseLine ..
  · exact Except.error.inj h ▸ atLine_refuseLine ..

/-- A line is refused as the line that it is, unless a number is too long. -/
theorem atLine_of_instruction_ofBytes (h : Instruction.ofBytes number bytes = .error fault) :
    fault.AtLine number := by
  unfold Instruction.ofBytes at h
  split at h
  · exact atLine_of_ofLine h
  · exact Except.error.inj h ▸ atLine_refuseLine ..

/-! ## Lines one after another -/

theorem readLines_further
    (h : ∀ number, 0 ≤ number → ∀ line,
      readLine (number + k) line = (readLine number line).mapError (Fault.further k))
    (hnumber : 0 ≤ number) (lines : List α) :
    readLines readLine (number + k) lines =
      (readLines readLine number lines).mapError (Fault.further k) := by
  -- the number of the line goes up on both sides, and is never negative
  induction lines generalizing number with
  | nil => rfl
  | cons line lines ih =>
    have hmore : readLines readLine (number + 1 + k) lines =
        (readLines readLine (number + 1) lines).mapError (Fault.further k) := ih (by omega)
    rw [show number + 1 + (k : Int) = number + k + 1 by omega] at hmore
    rw [readLines, readLines, h number hnumber, hmore]
    rcases readLine number line with fault | i
    · rfl
    · rcases readLines readLine (number + 1) lines with fault | is
      · rfl
      · rfl

theorem readLines_append (lines more : List α) (number : Int) :
    readLines readLine number (lines ++ more) = (do
      let is ← readLines readLine number lines
      let js ← readLines readLine (number + lines.length) more
      return is ++ js) := by
  induction lines generalizing number with
  | nil =>
    rw [List.nil_append, readLines, List.length_nil, Int.natCast_zero, Int.add_zero]
    rcases readLines readLine number more with fault | js
    · rfl
    · rfl
  | cons line lines ih =>
    rw [List.cons_append, readLines, readLines, ih (number + 1), List.length_cons,
      show number + 1 + (lines.length : Int) = number + (lines.length + 1 : Nat) by omega]
    rcases readLine number line with fault | i
    · rfl
    rcases readLines readLine (number + 1) lines with fault | is
    · rfl
    rcases readLines readLine (number + (lines.length + 1 : Nat)) more with fault | js
    · rfl
    · rfl

theorem readLines_cons_eq_ok {line : α}
    (h : readLines readLine number (line :: lines) = .ok is) :
    ∃ i rest, is = i :: rest ∧ readLine number line = .ok i ∧
      readLines readLine (number + 1) lines = .ok rest := by
  rw [readLines, bind_eq_ok_iff] at h
  obtain ⟨i, hi, h⟩ := h
  obtain ⟨rest, hrest, h⟩ := bind_eq_ok_iff.mp h
  exact ⟨i, rest, (Except.ok.inj h).symm, hi, hrest⟩

/-- Each line gives one instruction. -/
theorem length_of_readLines (h : readLines readLine number lines = .ok is) :
    is.length = lines.length := by
  induction lines generalizing number is with
  | nil => cases h; rfl
  | cons line lines ih =>
    obtain ⟨i, rest, rfl, _, hrest⟩ := readLines_cons_eq_ok h
    rw [List.length_cons, List.length_cons, ih hrest]

theorem writable_of_readLines
    (hline : ∀ number line i, readLine number line = .ok i → i.Writable)
    (h : readLines readLine number lines = .ok is) : ∀ i ∈ is, i.Writable := by
  induction lines generalizing number is with
  | nil => cases h; simp
  | cons line lines ih =>
    obtain ⟨i, rest, rfl, hi, hrest⟩ := readLines_cons_eq_ok h
    exact List.forall_mem_cons.mpr ⟨hline number line i hi, ih hrest⟩

/-- What is refused is a line, with the number of its place. -/
theorem exists_getElem?_of_readLines_eq_error (h : readLines readLine number lines = .error fault) :
    ∃ (k : Nat) (line : α), lines[k]? = some line ∧ readLine (number + k) line = .error fault := by
  induction lines generalizing number with
  | nil => cases h
  | cons line lines ih =>
    unfold readLines at h
    rcases bind_eq_error_iff.mp h with hline | ⟨i, _, hmore⟩
    · exact ⟨0, line, rfl, by rwa [Int.natCast_zero, Int.add_zero]⟩
    · rcases bind_eq_error_iff.mp hmore with hlines | ⟨_, _, hpure⟩
      · obtain ⟨k, l, hl, hfault⟩ := ih hlines
        refine ⟨k + 1, l, by rwa [List.getElem?_cons_succ], ?_⟩
        rwa [show number + (k + 1 : Nat) = number + 1 + (k : Int) by omega]
      · cases hpure

/-! ## Files one after another -/

theorem split_append_of_complete (h : Complete a) (b : Bytes) :
    Breaks.bytes.split (a ++ b) = Breaks.bytes.split a ++ Breaks.bytes.split b := by
  rcases h with rfl | hlast
  · rfl
  · obtain ⟨front, rfl⟩ := List.getLast?_eq_some_iff.mp hlast
    rw [List.append_assoc, List.singleton_append]
    exact split_append_of_feed rfl rfl front b

theorem instructionsOf_append_of_error (h : Complete a) (ha : instructionsOf a = .error fault)
    (b : Bytes) : instructionsOf (a ++ b) = .error fault := by
  unfold instructionsOf at ha ⊢
  rw [split_append_of_complete h, List.map_append, readLines_append, ha]
  rfl

/-- The second file is read as if it stood alone, but for the numbers of its lines. -/
theorem instructionsOf_append_of_ok (h : Complete a) (ha : instructionsOf a = .ok is) (b : Bytes) :
    instructionsOf (a ++ b) = (do
      let js ← (instructionsOf b).mapError (Fault.further is.length)
      return is ++ js) := by
  unfold instructionsOf at ha ⊢
  have hfurther := readLines_further
    (fun number hnumber line => instruction_ofBytes_further hnumber is.length line)
    (Int.le_refl 0) ((Breaks.bytes.split b).map Line.whole)
  rw [split_append_of_complete h, List.map_append, readLines_append, ha, ← length_of_readLines ha,
    ← hfurther]
  rfl

theorem writable_of_instructionsOf (h : instructionsOf content = .ok is) : ∀ i ∈ is, i.Writable :=
  writable_of_readLines (fun _ _ _ => writable_of_instruction_ofBytes) h

theorem program_ofBytes_eq_ok_iff :
    Program.ofBytes content = .ok p ↔ instructionsOf content = .ok p.instructions := by
  constructor
  · intro h
    obtain ⟨is, his, hlist⟩ := bind_eq_ok_iff.mp h
    rw [Program.instructions_of_ofList hlist]
    exact his
  · intro h
    exact bind_eq_ok_iff.mpr ⟨p.instructions, h, p.ofList_instructions⟩

/-- A file is refused because of a line of it, never because of the whole. -/
theorem program_ofBytes_eq_error_iff :
    Program.ofBytes content = .error fault ↔ instructionsOf content = .error fault := by
  refine bind_eq_error_iff.trans (or_iff_left ?_)
  rintro ⟨is, his, hlist⟩
  rw [Program.ofList, dif_pos (writable_of_instructionsOf his)] at hlist
  cases hlist

/-- A file is refused as one of its lines is, and has no more lines than bytes. -/
theorem atLine_of_instructionsOf (h : instructionsOf content = .error fault) :
    ∃ k < content.length, fault.AtLine k := by
  obtain ⟨k, line, hline, hfault⟩ := exists_getElem?_of_readLines_eq_error h
  obtain ⟨hk, _⟩ := List.getElem?_eq_some_iff.mp hline
  rw [List.length_map] at hk
  rw [Int.zero_add] at hfault
  exact ⟨k, Nat.lt_of_lt_of_le hk (length_split_le content), atLine_of_instruction_ofBytes hfault⟩

theorem length_le_of_instructionsOf (h : instructionsOf content = .ok is) :
    is.length ≤ content.length := by
  rw [length_of_readLines h, List.length_map]
  exact length_split_le content

theorem further_line_of_writable (h : Writable (number + k)) (kind : LineFault)
    (text reason : String) :
    (Fault.failure (.line kind number text reason)).further k =
      .failure (.line kind (number + k) text reason) := by
  apply Fault.of_eq_failure
  simpa only [Failure.isWritable, decide_eq_true_eq] using h

/-- Files can be read one after another. Let a file be empty or end in a line feed, and
another one follow it, both of any bytes. If the first one is refused, so are the two,
with the same fault. If it is a program, the two are the instructions of it and of the
second one, or are refused as that is: with a line that stands as many lines further
down as the first program has instructions, or with the same number that is too long.
The place of the line can be told in any file of at most `10 ^ 4300` bytes. -/
theorem files_are_read_one_after_another (a b : Bytes) (h : Complete a) :
    (∀ fault, Program.ofBytes a = .error fault → Program.ofBytes (a ++ b) = .error fault) ∧
      ∀ p, Program.ofBytes a = .ok p →
        (∀ q, Program.ofBytes b = .ok q → ∃ r, Program.ofBytes (a ++ b) = .ok r ∧
          r.instructions = p.instructions ++ q.instructions) ∧
        ∀ fault, Program.ofBytes b = .error fault →
          (∃ kind number text reason, fault = .failure (.line kind number text reason) ∧
            let further : Failure := .line kind (number + p.length) text reason
            Program.ofBytes (a ++ b) = .error (.of further) ∧
            (a.length + b.length ≤ tenTo digitLimit →
              Program.ofBytes (a ++ b) = .error (.failure further))) ∨
          ∃ digits, fault = .longNumber digits ∧
            Program.ofBytes (a ++ b) = .error (.longNumber digits) := by
  simp only [program_ofBytes_eq_ok_iff, program_ofBytes_eq_error_iff]
  constructor
  · intro fault ha
    exact instructionsOf_append_of_error h ha b
  · intro p ha
    have hjoined := instructionsOf_append_of_ok h ha b
    constructor
    · intro q hb
      rw [hb] at hjoined
      exact ⟨⟨_, writable_of_instructionsOf hjoined⟩, hjoined, rfl⟩
    · intro fault hb
      rw [hb] at hjoined
      obtain ⟨k, hk, ⟨kind, text, reason, rfl⟩ | ⟨digits, rfl⟩⟩ := atLine_of_instructionsOf hb
      · refine Or.inl ⟨kind, k, text, reason, rfl, hjoined, fun hsize => ?_⟩
        have hfront := length_le_of_instructionsOf ha
        have hwritable : Writable ((k : Int) + p.instructions.length) := by
          unfold Writable
          omega
        exact hjoined.trans (congrArg Except.error (further_line_of_writable hwritable ..))
      · exact Or.inr ⟨digits, rfl, hjoined⟩

/-- Half a character at the end of the fourth line is refused as there, and not as at the
end of the second one. -/
theorem half_a_character_is_refused_further_down :
    let a := bytesOf "acc +1\r\njmp -1\n"
    let b := bytesOf "nop +2\n" ++ [0xC3]
    let refused (number : Int) : Fault := .failure (.line .malformed number "\\xc3" "invalid utf-8")
    Complete a ∧ Program.ofBytes b = .error (refused 1) ∧
      Program.ofBytes (a ++ b) = .error (refused 3) := by
  intro a b refused
  have hcomplete : Complete a := Or.inr (by decide +kernel)
  have ha : Program.ofBytes a = .ok ⟨[⟨.acc, 1⟩, ⟨.jmp, -1⟩], by decide +kernel⟩ := by
    decide +kernel
  have hb : Program.ofBytes b = .error (refused 1) := by decide +kernel
  refine ⟨hcomplete, hb, ?_⟩
  obtain ⟨kind, number, text, reason, hfault, _, htold⟩ | ⟨digits, hfault, _⟩ :=
    ((files_are_read_one_after_another a b hcomplete).2 _ ha).2 _ hb
  · obtain ⟨rfl, rfl, rfl, rfl⟩ := Failure.line.inj (Fault.failure.inj hfault)
    have hsize : a.length + b.length ≤ tenTo digitLimit := by decide +kernel
    exact htold hsize
  · cases hfault

end

end Unloop
