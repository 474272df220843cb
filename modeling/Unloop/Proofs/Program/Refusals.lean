-- The laws of refusals. A file whose offsets are short enough and whose lines
-- are not too many is a program, with an instruction to a line, or is refused
-- because of one of its lines.
import Unloop.Proofs.Program.Listing
import Mathlib.Data.List.Induction

namespace Unloop

open Number Text

/-- No line of the file has an offset with more digits than can be read. -/
def ShortOffsets (content : Bytes) : Prop :=
  ∀ l ∈ Breaks.bytes.split content, ∀ text, decode? l.whole = some text → ∀ op sign ds,
    Parts (withoutEnding text) op (sign :: ds) → SignedDigits sign ds → ds.length ≤ digitLimit

/-- The number of lines of a file. -/
def lineCount (content : Bytes) : Nat := (Breaks.bytes.split content).length

/-- The result is what is wanted, or a failure that a command reports. -/
def WantedOrFailed {α : Type} (result : Except Fault α) (wanted : α → Prop) : Prop :=
  (∃ a, result = .ok a ∧ wanted a) ∨ ∃ f, result = .error (.failure f)

/-- The result is what is wanted, or a failure with this exit code. -/
def WantedOrCode {α : Type} (code : Nat) (result : Except Fault α) (wanted : α → Prop) : Prop :=
  (∃ a, result = .ok a ∧ wanted a) ∨ ∃ f, result = .error (.failure f) ∧ f.exitCode = code

section

variable {α : Type} {line text ds : List Char} {bytes content : Bytes} {i : Instruction}
  {number : Int} {readLine : Int → α → Except Fault Instruction} {lines : List α}

/-! ## Failures with and without their codes -/

theorem ofDigits_lt (h : ∀ c ∈ ds, isDigit c = true) : ofDigits ds < tenTo ds.length := by
  induction ds using List.reverseRecOn with
  | nil => exact Nat.one_pos
  | append_singleton ds c ih =>
    have hds := ih fun d hd => h d (List.mem_append_left _ hd)
    have hc := h c (by simp)
    simp only [isDigit, Bool.and_eq_true, decide_eq_true_eq] at hc
    unfold ofDigits at hds ⊢
    rw [List.foldl_append, List.foldl_cons, List.foldl_nil, List.length_append,
      List.length_singleton, tenTo_succ]
    omega

theorem tenTo_le {m n : Nat} (h : m ≤ n) : tenTo m ≤ tenTo n := Nat.pow_le_pow_right (by decide) h

/-- An instruction that is read can be written again. -/
theorem writable_of_reads (h : Reads line (.instruction i)) : i.Writable := by
  cases h with
  | @instruction op sign ds hparts hdigits hlength =>
    have hsize : ofDigits ds < tenTo digitLimit :=
      Nat.lt_of_lt_of_le (ofDigits_lt hdigits.digits) (tenTo_le hlength)
    unfold Instruction.Writable Writable offsetOf
    split
    · rwa [Int.natAbs_neg, Int.natAbs_natCast]
    · rwa [Int.natAbs_natCast]

theorem refused_of_writable {β : Type} {wanted : β → Prop} (h : Writable number)
    (fault : LineFault) (line : List Char) (reason : String) :
    WantedOrFailed (.error (refuseLine fault number line reason)) wanted :=
  Or.inr ⟨.line fault number (String.ofList line) reason, by rw [refuseLine_of_writable h]⟩

/-- A line with a short offset is an instruction, or is refused. -/
theorem ofLine_cases (hnumber : Writable number)
    (hshort : ∀ op sign ds, Parts (withoutEnding text) op (sign :: ds) → SignedDigits sign ds →
      ds.length ≤ digitLimit) :
    WantedOrFailed (Instruction.ofLine number (String.ofList text)) Instruction.Writable := by
  unfold Instruction.ofLine
  rw [String.toList_ofList]
  dsimp only
  rcases hreading : Reading.ofLine (withoutEnding text) with i | n | _ | _
  · exact Or.inl ⟨i, rfl, writable_of_reads (reading_eq_iff.mp hreading)⟩
  · cases reading_eq_iff.mp hreading with
    | longOffset hparts hdigits hlength =>
      exact absurd (hshort _ _ _ hparts hdigits) (Nat.not_le.mpr hlength)
  · exact refused_of_writable hnumber _ _ _
  · exact refused_of_writable hnumber _ _ _

theorem instruction_ofBytes_cases (hnumber : Writable number)
    (hshort : ∀ text, decode? bytes = some text → ∀ op sign ds,
      Parts (withoutEnding text) op (sign :: ds) → SignedDigits sign ds → ds.length ≤ digitLimit) :
    WantedOrFailed (Instruction.ofBytes number bytes) Instruction.Writable := by
  unfold Instruction.ofBytes
  rcases hdecode : decode? bytes with _ | text
  · exact refused_of_writable hnumber _ _ _
  · exact ofLine_cases hnumber (hshort text hdecode)

/-! ## Whole files -/

/-- Lines are read up to the first one that is refused. -/
theorem readLines_cases
    (h : ∀ k : Nat, ∀ line, lines[k]? = some line →
      WantedOrFailed (readLine (number + k) line) Instruction.Writable) :
    WantedOrFailed (readLines readLine number lines) fun is =>
      is.length = lines.length ∧ ∀ i ∈ is, i.Writable := by
  induction lines generalizing number with
  | nil => exact Or.inl ⟨[], rfl, rfl, by simp⟩
  | cons line lines ih =>
    have hmore : WantedOrFailed (readLines readLine (number + 1) lines) fun is =>
        is.length = lines.length ∧ ∀ i ∈ is, i.Writable := by
      apply ih
      intro k l hl
      rw [show number + 1 + (k : Int) = number + (k + 1 : Nat) by omega]
      exact h (k + 1) l (by rwa [List.getElem?_cons_succ])
    have hline := h 0 line rfl
    rw [show number + ((0 : Nat) : Int) = number by omega] at hline
    unfold readLines
    rcases hline with ⟨i, hi, hwritable⟩ | ⟨f, hf⟩
    · rw [hi]
      rcases hmore with ⟨is, his, hlength, hall⟩ | ⟨f, hf⟩
      · rw [his]
        exact Or.inl ⟨i :: is, rfl, by simp [hlength], List.forall_mem_cons.mpr ⟨hwritable, hall⟩⟩
      · rw [hf]
        exact Or.inr ⟨f, rfl⟩
    · rw [hf]
      exact Or.inr ⟨f, rfl⟩

/-- A file with short offsets is a program with one instruction to a line, or is
refused with a failure. -/
theorem program_ofBytes_cases (hshort : ShortOffsets content)
    (hlines : lineCount content < tenTo digitLimit) :
    WantedOrFailed (Program.ofBytes content) fun p => p.length = lineCount content := by
  have hread : WantedOrFailed
      (readLines Instruction.ofBytes 0 ((Breaks.bytes.split content).map Line.whole)) fun is =>
        is.length = ((Breaks.bytes.split content).map Line.whole).length ∧
          ∀ i ∈ is, i.Writable := by
    apply readLines_cases
    intro k line hk
    rw [List.getElem?_map, Option.map_eq_some_iff] at hk
    obtain ⟨l, hl, rfl⟩ := hk
    obtain ⟨hlt, _⟩ := List.getElem?_eq_some_iff.mp hl
    have hnumber : Writable (0 + (k : Int)) := by
      unfold lineCount at hlines
      unfold Writable
      omega
    exact instruction_ofBytes_cases hnumber (hshort l (List.mem_of_getElem? hl))
  unfold Program.ofBytes
  rcases hread with ⟨is, his, hlength, hall⟩ | ⟨f, hf⟩
  · rw [his]
    rw [List.length_map] at hlength
    exact Or.inl ⟨⟨is, hall⟩, dif_pos hall, hlength⟩
  · rw [hf]
    exact Or.inr ⟨f, rfl⟩

/-! ## The exit code of a refusal -/

theorem exitCode_of_refuseLine {fault : LineFault} {reason : String} {f : Failure}
    (h : refuseLine fault number line reason = .failure f) : f.exitCode = 2 := by
  unfold refuseLine Fault.of at h
  split at h <;> cases h
  rfl

theorem exitCode_of_ofLine {text : String} {f : Failure}
    (h : Instruction.ofLine number text = .error (.failure f)) : f.exitCode = 2 := by
  unfold Instruction.ofLine at h
  dsimp only at h
  split at h
  · cases h
  · cases h
  · exact exitCode_of_refuseLine (Except.error.inj h)
  · exact exitCode_of_refuseLine (Except.error.inj h)

theorem exitCode_of_instruction_ofBytes {f : Failure}
    (h : Instruction.ofBytes number bytes = .error (.failure f)) : f.exitCode = 2 := by
  unfold Instruction.ofBytes at h
  split at h
  · exact exitCode_of_ofLine h
  · exact exitCode_of_refuseLine (Except.error.inj h)

/-- The first line that is refused gives its failure. -/
theorem exists_of_readLines_eq_error {fault : Fault}
    (h : readLines readLine number lines = .error fault) :
    ∃ line ∈ lines, ∃ number, readLine number line = .error fault := by
  induction lines generalizing number with
  | nil => cases h
  | cons line lines ih =>
    unfold readLines at h
    rcases bind_eq_error_iff.mp h with hline | ⟨i, _, hmore⟩
    · exact ⟨line, by simp, number, hline⟩
    · rcases bind_eq_error_iff.mp hmore with hlines | ⟨_, _, hpure⟩
      · obtain ⟨l, hl, hfault⟩ := ih hlines
        exact ⟨l, List.mem_cons_of_mem _ hl, hfault⟩
      · cases hpure

/-- A file that is refused with a failure is so with the exit code 2. -/
theorem exitCode_of_ofBytes {f : Failure}
    (h : Program.ofBytes content = .error (.failure f)) : f.exitCode = 2 := by
  unfold Program.ofBytes at h
  rcases bind_eq_error_iff.mp h with hread | ⟨is, _, hlist⟩
  · obtain ⟨_, _, _, hline⟩ := exists_of_readLines_eq_error hread
    exact exitCode_of_instruction_ofBytes hline
  · unfold Program.ofList at hlist
    split at hlist <;> cases hlist

end

end Unloop
