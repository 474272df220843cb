-- The laws of listings. A program is read back from its text, from its lines
-- with either ending, and from the bytes of its text, since no character of an
-- instruction breaks a line and every offset of a program can be written.
import Unloop.Proofs.Fault
import Unloop.Proofs.Program.Texts

namespace Unloop

open Number Text

/-- Visible ASCII, or the space. -/
def isPlainAscii (c : Char) : Bool := 0x20 ≤ c.toNat && c.toNat ≤ 0x7E

section

variable {p q : Program} {i : Instruction} {is : List Instruction} {c : Char} {n k : Nat} {d : Int}
  {ending : List Char}

/-! ## Written offsets -/

theorem length_digits_le (hk : 0 < k) (h : n < tenTo k) : (digits n).length ≤ k := by
  induction k generalizing n with
  | zero => exact absurd hk (Nat.lt_irrefl 0)
  | succ k ih =>
    rw [tenTo_succ] at h
    rw [digits_eq]
    split
    · simp
    · have hk : 0 < k := by
        rcases Nat.eq_zero_or_pos k with rfl | hk
        · rw [tenTo_zero] at h
          omega
        · exact hk
      have hfront := ih (n := n / 10) hk (by omega)
      rw [List.length_append, List.length_singleton]
      omega

theorem not_blank_of_digit (h : isDigit c = true) : isBlank c = false := by
  simp only [isDigit, Bool.and_eq_true, decide_eq_true_eq] at h
  simp only [isBlank, isWhiteSpace, Bool.or_eq_false_iff, Bool.and_eq_false_iff,
    decide_eq_false_iff_not, beq_eq_false_iff_ne]
  omega

theorem signedDigits_signed (d : Int) :
    SignedDigits (if d < 0 then '-' else '+') (digits d.natAbs) where
  sign := by split <;> simp
  filled := by rw [digits_eq]; simp
  digits := fun _ => isDigit_of_mem_digits

theorem offsetOf_signed (d : Int) :
    offsetOf (if d < 0 then '-' else '+') (digits d.natAbs) = d := by
  unfold offsetOf
  rw [ofDigits_digits]
  split
  · rw [if_pos rfl]
    omega
  · rw [if_neg (by decide)]
    omega

/-! ## Written instructions -/

theorem parts_chars (i : Instruction) : Parts i.chars i.op (signed i.delta) where
  line := ⟨[' '], by simp, List.forall_mem_singleton.mpr rfl, rfl⟩
  filled := by simp [signed]
  plain := by
    refine List.forall_mem_cons.mpr ⟨?_, fun c hc => not_blank_of_digit (isDigit_of_mem_digits hc)⟩
    split <;> rfl

/-- An instruction that can be written is read back. -/
theorem reading_chars (h : i.Writable) : Reading.ofLine i.chars = .instruction i := by
  rw [reading_eq_iff]
  have hlength := length_digits_le (by decide : 0 < digitLimit) h
  have hreads := Reads.instruction (parts_chars i) (signedDigits_signed i.delta) hlength
  rwa [offsetOf_signed] at hreads

theorem isPlainAscii_of_mem_chars (h : c ∈ i.chars) : isPlainAscii c = true := by
  have hword : ∀ op : Op, ∀ c ∈ op.name.toList, isPlainAscii c = true := by
    intro op
    refine List.all_eq_true.mp ?_
    cases op <;> rfl
  rcases List.mem_append.mp h with h | h
  · exact hword _ _ h
  · rcases List.mem_cons.mp h with rfl | h
    · rfl
    · rcases List.mem_cons.mp h with rfl | h
      · split <;> rfl
      · have hdigit := isDigit_of_mem_digits h
        simp only [isDigit, Bool.and_eq_true, decide_eq_true_eq] at hdigit
        simp only [isPlainAscii, Bool.and_eq_true, decide_eq_true_eq]
        omega

theorem last_chars_ne (i : Instruction) (hc : isPlainAscii c = false) :
    i.chars.getLast? ≠ some c := by
  intro h
  rw [isPlainAscii_of_mem_chars (List.mem_of_getLast? h)] at hc
  cases hc

theorem withoutEnding_chars (i : Instruction) (h : ending ∈ [[], ['\n'], ['\r', '\n']]) :
    withoutEnding (i.chars ++ ending) = i.chars :=
  withoutEnding_append (last_chars_ne i rfl) (last_chars_ne i rfl) h

theorem ofLine_chars (hi : i.Writable) (h : ending ∈ [[], ['\n'], ['\r', '\n']]) (number : Int) :
    Instruction.ofLine number (String.ofList (i.chars ++ ending)) = .ok i := by
  unfold Instruction.ofLine
  rw [String.toList_ofList, withoutEnding_chars i h]
  simp only [reading_chars hi]

/-! ## The lines of a text -/

theorem not_break_of_mem_chars (h : c ∈ i.chars) : Breaks.chars.isBreak c = false := by
  have hc := isPlainAscii_of_mem_chars h
  simp only [isPlainAscii, Bool.and_eq_true, decide_eq_true_eq] at hc
  simp only [Breaks.chars, Bool.or_eq_false_iff, Bool.and_eq_false_iff, decide_eq_false_iff_not,
    beq_eq_false_iff_ne]
  omega

theorem split_chars (is : List Instruction) :
    Breaks.chars.split (is.flatMap fun i => i.chars ++ ['\n']) =
      is.map fun i => ⟨i.chars, ['\n']⟩ := by
  induction is with
  | nil => rfl
  | cons i is ih =>
    rw [List.flatMap_cons, List.append_assoc, List.singleton_append,
      split_line (fun _ => not_break_of_mem_chars) (by decide) (by decide), ih, List.map_cons]

theorem fed_chars (is : List Instruction) : Fed (is.flatMap fun i => i.chars ++ ['\n']) := by
  induction is with
  | nil => exact .nil
  | cons i is ih =>
    rw [List.flatMap_cons, List.append_assoc]
    exact fed_of_plain (fun _ => not_break_of_mem_chars) (.feed ih)

theorem split_encode_chars (is : List Instruction) :
    Breaks.bytes.split (encode (is.flatMap fun i => i.chars ++ ['\n'])) =
      is.map fun i => ⟨encode i.chars, [10]⟩ := by
  rw [split_encode (fed_chars is), split_chars, List.map_map]
  rfl

/-! ## Programs -/

/-- Lines that each give an instruction, whatever their number, give them all. -/
theorem readLines_map {α : Type} {readLine : Int → α → Except Fault Instruction}
    {line : Instruction → α} (h : ∀ i ∈ is, ∀ number, readLine number (line i) = .ok i)
    (number : Int) :
    readLines readLine number (is.map line) = .ok is := by
  induction is generalizing number with
  | nil => rfl
  | cons i is ih =>
    obtain ⟨hi, his⟩ := List.forall_mem_cons.mp h
    rw [List.map_cons, readLines, hi, ih his]
    rfl

theorem ofLines_chars (p : Program) (h : ending ∈ [[], ['\n'], ['\r', '\n']]) :
    Program.ofLines (p.instructions.map fun i => String.ofList (i.chars ++ ending)) = .ok p := by
  have hread := readLines_map (fun i hi => ofLine_chars (p.writable i hi) h) 0
  rw [Program.ofLines, hread]
  exact p.ofList_instructions

theorem ofText_render (p : Program) : Program.ofText p.render = .ok p := by
  have hbare := ofLines_chars p (show [] ∈ [[], ['\n'], ['\r', '\n']] by simp)
  simp only [List.append_nil] at hbare
  rw [Program.ofText, Program.render, String.toList_ofList, Program.chars, split_chars,
    List.map_map]
  exact hbare

theorem ofBytes_render (p : Program) : Program.ofBytes (bytesOf p.render) = .ok p := by
  have hfed : Fed p.render.toList := by
    rw [Program.render, String.toList_ofList]
    exact fed_chars p.instructions
  rw [ofBytes_of_fed hfed]
  exact ofText_render p

/-- Rendering and reading are inverse. A program is read back from its text,
from its lines with a line feed each, from these with a carriage return before
the line feed, and from a file that holds its text. The lines with a line feed
make up the text, and no other program has the same text. -/
theorem a_program_is_read_back_from_its_text (p : Program) :
    Program.ofText p.render = .ok p ∧
      Program.ofLines (p.instructions.map fun i => i.render ++ "\n") = .ok p ∧
      Program.ofLines (p.instructions.map fun i => i.render ++ "\r\n") = .ok p ∧
      Program.ofBytes (bytesOf p.render) = .ok p ∧
      String.join (p.instructions.map fun i => i.render ++ "\n") = p.render ∧
      ∀ q : Program, q.render = p.render → q = p := by
  have hlines : ∀ ending : List Char, (fun i : Instruction => i.render ++ String.ofList ending) =
      fun i => String.ofList (i.chars ++ ending) := by
    intro ending
    funext i
    rw [String.ofList_append]
    rfl
  refine ⟨ofText_render p, ?_, ?_, ofBytes_render p, ?_, fun q hq => ?_⟩
  · exact hlines ['\n'] ▸ ofLines_chars p (by simp)
  · exact hlines ['\r', '\n'] ▸ ofLines_chars p (by simp)
  · rw [show "\n" = String.ofList ['\n'] from rfl, hlines, ← String.toList_inj, String.toList_join,
      Program.render, String.toList_ofList, Program.chars, List.flatMap_map]
    simp only [String.toList_ofList]
  · have hread := ofText_render q
    rw [hq, ofText_render, Except.ok.injEq] at hread
    exact hread.symm

end

end Unloop
