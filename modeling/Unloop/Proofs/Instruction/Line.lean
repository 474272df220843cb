-- The laws of single lines. A line is cut in one way at most into a word,
-- blanks and a rest without blanks, and the rest tells which of the four
-- readings the line has. A refusal tells the number of the line and the line
-- itself, unless the number is too long to be told.
import Unloop.Instruction.Line
import Mathlib.Data.List.Basic
import Mathlib.Tactic.ByContra

namespace Unloop

open Number Text

/-! ## The form of a line -/

/-- The line is the word of an operation, one or more blanks, and a rest that is
not empty and has no blank. -/
structure Parts (line : List Char) (op : Op) (rest : List Char) : Prop where
  line : ∃ blanks, blanks ≠ [] ∧ (∀ c ∈ blanks, isBlank c = true) ∧
    line = op.name.toList ++ (blanks ++ rest)
  filled : rest ≠ []
  plain : ∀ c ∈ rest, isBlank c = false

/-- A sign and one or more digits. -/
structure SignedDigits (sign : Char) (ds : List Char) : Prop where
  sign : sign = '+' ∨ sign = '-'
  filled : ds ≠ []
  digits : ∀ c ∈ ds, isDigit c = true

/-- What a line is by its form. -/
inductive Reads (line : List Char) : Reading → Prop
  | instruction {op : Op} {sign : Char} {ds : List Char} : Parts line op (sign :: ds) →
      SignedDigits sign ds → ds.length ≤ digitLimit →
      Reads line (.instruction ⟨op, offsetOf sign ds⟩)
  | longOffset {op : Op} {sign : Char} {ds : List Char} : Parts line op (sign :: ds) →
      SignedDigits sign ds → digitLimit < ds.length → Reads line (.longOffset ds.length)
  | badOffset {op : Op} {rest : List Char} : Parts line op rest →
      (¬ ∃ sign ds, rest = sign :: ds ∧ SignedDigits sign ds) → Reads line .badOffset
  | malformed : (¬ ∃ op rest, Parts line op rest) → Reads line .malformed

section

variable {text line rest rest' ds : List Char} {op op' : Op} {sign : Char} {r : Reading}
  {number : Int}

/-! ## The ending -/

theorem withoutEnding_both (line : List Char) : withoutEnding (line ++ ['\r', '\n']) = line := by
  simp [withoutEnding]

theorem withoutEnding_feed (h : line.getLast? ≠ some '\r') :
    withoutEnding (line ++ ['\n']) = line := by
  rcases List.eq_nil_or_concat' line with rfl | ⟨front, c, rfl⟩
  · rfl
  · rw [List.getLast?_concat] at h
    have hc : c ≠ '\r' := fun hc => h (congrArg some hc)
    unfold withoutEnding
    simp only [List.reverse_append, List.reverse_cons, List.reverse_nil, List.nil_append,
      List.cons_append]
    split
    · rename_i heq
      exact absurd (List.cons.inj (List.cons.inj heq).2).1 hc
    · rename_i heq
      rw [← (List.cons.inj heq).2]
      simp
    · rename_i hno
      exact absurd rfl (hno _)

theorem withoutEnding_bare (h : line.getLast? ≠ some '\n') : withoutEnding line = line := by
  rw [← List.head?_reverse] at h
  unfold withoutEnding
  split
  · rename_i heq
    rw [heq] at h
    exact absurd rfl h
  · rename_i heq
    rw [heq] at h
    exact absurd rfl h
  · rfl

/-- Either ending of a line is taken off, and so is none. -/
theorem withoutEnding_append (hfeed : line.getLast? ≠ some '\n')
    (hreturn : line.getLast? ≠ some '\r') {ending : List Char}
    (h : ending ∈ [[], ['\n'], ['\r', '\n']]) : withoutEnding (line ++ ending) = line := by
  simp only [List.mem_cons, List.not_mem_nil, or_false] at h
  rcases h with rfl | rfl | rfl
  · rw [List.append_nil]
    exact withoutEnding_bare hfeed
  · exact withoutEnding_feed hreturn
  · exact withoutEnding_both line

theorem atFront?_eq_some_iff :
    Op.atFront? line = some (op, rest) ↔ line = op.name.toList ++ rest := by
  constructor
  · intro h
    unfold Op.atFront? at h
    split at h <;> cases h <;> rfl
  · rintro rfl
    cases op <;> rfl

theorem dropWhile_blanks {blanks : List Char} (hblanks : ∀ c ∈ blanks, isBlank c = true)
    (hrest : ∀ c ∈ rest, isBlank c = false) : (blanks ++ rest).dropWhile isBlank = rest := by
  rw [List.dropWhile_append_of_pos hblanks]
  cases rest with
  | nil => rfl
  | cons c rest => exact List.dropWhile_cons_of_neg (by simp [hrest c (by simp)])

theorem parts_iff :
    Parts line op rest ↔ (∃ c more, Op.atFront? line = some (op, c :: more) ∧ isBlank c = true ∧
      more.dropWhile isBlank = rest) ∧ rest ≠ [] ∧ ∀ c ∈ rest, isBlank c = false := by
  constructor
  · rintro ⟨⟨blanks, hne, hblanks, rfl⟩, hfilled, hplain⟩
    obtain ⟨c, blanks, rfl⟩ := List.exists_cons_of_ne_nil hne
    obtain ⟨hc, hblanks⟩ := List.forall_mem_cons.mp hblanks
    exact ⟨⟨c, blanks ++ rest, atFront?_eq_some_iff.mpr rfl, hc, dropWhile_blanks hblanks hplain⟩,
      hfilled, hplain⟩
  · rintro ⟨⟨c, more, hfront, hc, hdrop⟩, hfilled, hplain⟩
    refine ⟨⟨c :: more.takeWhile isBlank, by simp, ?_, ?_⟩, hfilled, hplain⟩
    · exact List.forall_mem_cons.mpr ⟨hc, List.all_eq_true.mp List.all_takeWhile⟩
    · rw [atFront?_eq_some_iff.mp hfront, ← hdrop, List.cons_append,
        List.takeWhile_append_dropWhile]

/-- There is one way at most to cut a line. -/
theorem parts_unique (h : Parts line op rest) (h' : Parts line op' rest') :
    op = op' ∧ rest = rest' := by
  obtain ⟨⟨c, more, hfront, _, hdrop⟩, _⟩ := parts_iff.mp h
  obtain ⟨⟨c', more', hfront', _, hdrop'⟩, _⟩ := parts_iff.mp h'
  rw [hfront, Option.some.injEq, Prod.mk.injEq, List.cons.injEq] at hfront'
  obtain ⟨rfl, _, rfl⟩ := hfront'
  exact ⟨rfl, hdrop.symm.trans hdrop'⟩

/-! ## What a line turns out to be -/

theorem isOffset_eq_true_iff : isOffset sign ds = true ↔ SignedDigits sign ds := by
  simp only [isOffset, Bool.and_eq_true, Bool.or_eq_true, beq_iff_eq, Bool.not_eq_true',
    List.isEmpty_eq_false_iff, List.all_eq_true]
  exact ⟨fun ⟨⟨hs, hne⟩, hds⟩ => ⟨hs, hne, hds⟩, fun ⟨hs, hne, hds⟩ => ⟨⟨hs, hne⟩, hds⟩⟩

theorem reading_of_parts (h : Parts line op (sign :: ds)) :
    Reading.ofLine line =
      if isOffset sign ds then
        if ds.length ≤ digitLimit then .instruction ⟨op, offsetOf sign ds⟩
        else .longOffset ds.length
      else .badOffset := by
  obtain ⟨⟨c, more, hfront, hc, hdrop⟩, _, hplain⟩ := parts_iff.mp h
  have hany : (sign :: ds).any isBlank = false := by
    rw [List.any_eq_false]
    exact fun d hd => by simp [hplain d hd]
  unfold Reading.ofLine
  rw [hfront]
  simp only [hc, if_true, hdrop, Reading.ofOffset, hany]
  rfl

theorem reading_without_parts (h : ¬ ∃ op rest, Parts line op rest) :
    Reading.ofLine line = .malformed := by
  unfold Reading.ofLine
  split
  · rfl
  rename_i op rest hfront
  split
  · rfl
  rename_i c more
  split
  · rename_i hc
    unfold Reading.ofOffset
    split
    · rfl
    rename_i sign ds hdrop
    split
    · rfl
    rename_i hany
    refine absurd ⟨op, sign :: ds, parts_iff.mpr ⟨⟨c, more, hfront, hc, hdrop⟩, by simp, ?_⟩⟩ h
    simpa using hany
  · rfl

theorem reading_of_reads (h : Reads line r) : Reading.ofLine line = r := by
  cases h with
  | instruction hparts hoffset hlength =>
    rw [reading_of_parts hparts, if_pos (isOffset_eq_true_iff.mpr hoffset), if_pos hlength]
  | longOffset hparts hoffset hlength =>
    rw [reading_of_parts hparts, if_pos (isOffset_eq_true_iff.mpr hoffset),
      if_neg (Nat.not_le_of_lt hlength)]
  | badOffset hparts hno =>
    obtain ⟨sign, ds, rfl⟩ := List.exists_cons_of_ne_nil hparts.filled
    rw [reading_of_parts hparts,
      if_neg fun h => hno ⟨sign, ds, rfl, isOffset_eq_true_iff.mp h⟩]
  | malformed hno => exact reading_without_parts hno

/-- Every line has a reading by its form. -/
theorem exists_reads (line : List Char) : ∃ r, Reads line r := by
  by_cases hparts : ∃ op rest, Parts line op rest
  · obtain ⟨op, rest, hparts⟩ := hparts
    by_cases hoffset : ∃ sign ds, rest = sign :: ds ∧ SignedDigits sign ds
    · obtain ⟨sign, ds, rfl, hoffset⟩ := hoffset
      rcases Nat.lt_or_ge digitLimit ds.length with hlong | hshort
      · exact ⟨_, .longOffset hparts hoffset hlong⟩
      · exact ⟨_, .instruction hparts hoffset hshort⟩
    · exact ⟨_, .badOffset hparts hoffset⟩
  · exact ⟨_, .malformed hparts⟩

theorem reading_eq_iff : Reading.ofLine line = r ↔ Reads line r := by
  constructor
  · rintro rfl
    obtain ⟨r, hr⟩ := exists_reads line
    rwa [reading_of_reads hr]
  · exact reading_of_reads

/-! ## What is told of a line -/

/-- A refusal of a line, as long as the number of the line can be told. -/
theorem refuseLine_of_writable (h : Writable number) (fault : LineFault) (line : List Char)
    (reason : String) :
    refuseLine fault number line reason =
      .failure (.line fault number (String.ofList line) reason) := by
  apply Fault.of_eq_failure
  simpa only [Failure.isWritable, decide_eq_true_eq] using h

theorem refuseLine_of_not_writable (h : ¬ Writable number) (fault : LineFault) (line : List Char)
    (reason : String) : refuseLine fault number line reason = .longNumber none := by
  unfold refuseLine Fault.of
  rw [if_neg]
  simpa only [Failure.isWritable, decide_eq_true_eq] using h

end

end Unloop
