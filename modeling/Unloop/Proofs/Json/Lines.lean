-- Values as the lines of a file. The text of a value holds no control
-- character and stays on one line, so a file to whose end a line was added
-- has the values that it had before, and the new one after them.
import Unloop.Json.Lines
import Unloop.Proofs.Fault
import Unloop.Proofs.Json.Reader
import Unloop.Proofs.Text.Lines

namespace Unloop.Json

open Unloop.Number Unloop.Text

section

variable {v : Value} {vs : List Value} {c : Char} {x : UInt8} {line content : Bytes}
  {lines : List Bytes}

/-! ## One line -/

theorem digit_not_control (h : isDigit c = true) : 0x20 ≤ c.toNat := by
  rw [isDigit, Bool.and_eq_true, decide_eq_true_eq] at h
  omega

theorem word_not_control {w : List Char} (h : (w.all fun c => decide (0x20 ≤ c.toNat)) = true) :
    ∀ c ∈ w, 0x20 ≤ c.toNat :=
  fun c hc => of_decide_eq_true (List.all_eq_true.mp h c hc)

theorem plain_not_control {n : Int} (hc : c ∈ plain n) : 0x20 ≤ c.toNat := by
  unfold plain at hc
  split at hc
  · rcases List.mem_cons.mp hc with rfl | hc
    · decide
    · exact digit_not_control (isDigit_of_mem_digits hc)
  · exact digit_not_control (isDigit_of_mem_digits hc)

theorem pointedDigits_chars {ds : List Char} (hds : ∀ c ∈ ds, isDigit c = true) {point : Int}
    (hc : c ∈ pointedDigits ds point) : isDigit c = true ∨ c = '.' := by
  unfold pointedDigits at hc
  dsimp only at hc
  split at hc
  · simp only [List.cons_append, List.mem_cons, List.mem_append] at hc
    rcases hc with rfl | rfl | hc | hc
    · exact Or.inl rfl
    · exact Or.inr rfl
    · exact Or.inl (isDigit_of_mem_zeros hc)
    · exact Or.inl (hds c hc)
  · split at hc
    · simp only [List.mem_append, List.mem_cons, List.not_mem_nil, or_false] at hc
      rcases hc with (hc | hc) | rfl | rfl
      · exact Or.inl (hds c hc)
      · exact Or.inl (isDigit_of_mem_zeros hc)
      · exact Or.inr rfl
      · exact Or.inl rfl
    · rcases List.mem_append.mp hc with hc | hc
      · exact Or.inl (hds c (List.mem_of_mem_take hc))
      · rcases List.mem_cons.mp hc with rfl | hc
        · exact Or.inr rfl
        · exact Or.inl (hds c (List.mem_of_mem_drop hc))

theorem withExponent_not_control {ds : List Char} (hds : ∀ c ∈ ds, isDigit c = true) {e : Int}
    (hc : c ∈ withExponent floatLayout ds e) : 0x20 ≤ c.toNat := by
  unfold withExponent at hc
  rcases List.mem_append.mp hc with hc | hc
  · split at hc
    · cases hc
    · exact digit_not_control (hds c hc)
    · simp only [List.mem_cons] at hc
      rcases hc with rfl | rfl | hc
      · exact digit_not_control (hds c List.mem_cons_self)
      · decide
      · exact digit_not_control (hds c (List.mem_cons_of_mem _ hc))
  · rcases List.mem_cons.mp hc with rfl | hc
    · decide
    · split at hc
      · exact plain_not_control hc
      · rcases List.mem_cons.mp hc with rfl | hc
        · decide
        · exact plain_not_control hc

theorem finiteText_not_control {x : Finite} (hc : c ∈ finiteText floatLayout x) :
    0x20 ≤ c.toNat := by
  have hsign : ∀ {body : List Char}, c ∈ (if x.negative then '-' :: body else body) →
      c = '-' ∨ c ∈ body := by
    intro body hc
    split at hc
    · exact List.mem_cons.mp hc
    · exact Or.inr hc
  have hdigits : ∀ c ∈ digits x.shortest.digits, isDigit c = true := fun _ => isDigit_of_mem_digits
  unfold finiteText at hc
  rcases hsign hc with rfl | hc
  · decide
  split at hc
  · exact word_not_control (by decide) c hc
  · split at hc
    · rcases pointedDigits_chars hdigits hc with hc | rfl
      · exact digit_not_control hc
      · decide
    · exact withExponent_not_control hdigits hc

theorem floatText_not_control {x : Double} (hc : c ∈ floatText x) : 0x20 ≤ c.toNat := by
  have hnull : ∀ c ∈ "null".toList, 0x20 ≤ c.toNat := word_not_control (by decide)
  cases x with
  | finite x => exact finiteText_not_control hc
  | infinite negative => exact hnull c hc
  | nan => exact hnull c hc

theorem mem_withCommas {ts : List (List Char)} (hc : c ∈ withCommas ts) :
    c = ',' ∨ ∃ t ∈ ts, c ∈ t := by
  induction ts with
  | nil => cases hc
  | cons t ts ih =>
    cases ts with
    | nil => exact Or.inr ⟨t, List.mem_cons_self, hc⟩
    | cons u us =>
      rcases List.mem_append.mp hc with hc | hc
      · exact Or.inr ⟨t, List.mem_cons_self, hc⟩
      rcases List.mem_cons.mp hc with rfl | hc
      · exact Or.inl rfl
      · refine (ih hc).imp_right ?_
        rintro ⟨t, ht, hc⟩
        exact ⟨t, List.mem_cons_of_mem _ ht, hc⟩

/-- The text of a value has no control character. -/
theorem text_not_control (v : Value) : ∀ c ∈ v.text, 0x20 ≤ c.toNat := by
  induction v with
  | null => exact word_not_control (by decide)
  | bool b => cases b <;> exact word_not_control (by decide)
  | int n => exact fun c => plain_not_control
  | float x => exact fun c => floatText_not_control
  | str s => exact fun c => stringText_not_control
  | arr items ih =>
    intro c hc
    rw [Value.text, itemTexts_eq] at hc
    rcases List.mem_append.mp hc with hc | hc
    · rcases List.mem_cons.mp hc with rfl | hc
      · decide
      rcases mem_withCommas hc with rfl | ⟨t, ht, hc⟩
      · decide
      · obtain ⟨v, hv, rfl⟩ := List.mem_map.mp ht
        exact ih v hv c hc
    · rw [List.mem_singleton.mp hc]
      decide
  | obj ms ih =>
    intro c hc
    rw [Value.text, sortedByName_memberTexts, List.map_map] at hc
    rcases List.mem_append.mp hc with hc | hc
    · rcases List.mem_cons.mp hc with rfl | hc
      · decide
      rcases mem_withCommas hc with rfl | ⟨t, ht, hc⟩
      · decide
      · obtain ⟨m, hm, rfl⟩ := List.mem_map.mp ht
        rcases List.mem_append.mp hc with hc | hc
        · exact stringText_not_control hc
        rcases List.mem_cons.mp hc with rfl | hc
        · decide
        · exact ih m ((sortedByName_perm ms).mem_iff.mp hm) c hc
    · rw [List.mem_singleton.mp hc]
      decide

/-! ## Lines of a file -/

/-- No break is in the line, and something is. -/
def IsFilled (line : Bytes) : Prop := line ≠ [] ∧ ∀ x ∈ line, Breaks.bytes.isBreak x = false

/-- The file is empty, or its last line has ended. -/
def EndsLine (content : Bytes) : Prop := content = [] ∨ ∃ front, content = front ++ [10]

/-- The file is empty, or its last line has ended, with whatever breaks a line. -/
def Ended (content : Bytes) : Prop := ∀ x ∈ content.getLast?, Breaks.bytes.isBreak x = true

theorem ended_concat {x : UInt8} (hx : Breaks.bytes.isBreak x = true) (front : Bytes) :
    Ended (front ++ [x]) := by
  intro y hy
  rw [List.getLast?_concat] at hy
  exact Option.some.inj hy ▸ hx

theorem EndsLine.ended (h : EndsLine content) : Ended content := by
  rcases h with rfl | ⟨front, rfl⟩
  · rintro x ⟨⟩
  · exact ended_concat rfl front

/-- The canonical bytes of a value are one line. -/
theorem isFilled_encode_text (hv : v.Proper) (hw : v.isWritable = true) :
    IsFilled (encode v.text) := by
  rw [Value.isWritable, Bool.and_eq_true] at hw
  obtain ⟨c, more, htext, _⟩ := startsValue_text hv hw.1
  refine ⟨fun hnil => ?_, fun x hx => ?_⟩
  · rw [encode_eq_nil_iff, htext] at hnil
    cases hnil
  · by_contra hbreak
    have hlow : x.toNat < 0x20 := by
      rw [Bool.not_eq_false, Breaks.bytes, Bool.or_eq_true, beq_iff_eq, beq_iff_eq] at hbreak
      rcases hbreak with rfl | rfl <;> decide
    obtain ⟨c, hc, hcx⟩ := mem_of_mem_encode hx (Nat.lt_trans hlow (by decide))
    have hprinted := text_not_control v c hc
    omega

theorem isFilled_of_mem (h : line ∈ filledLines content) : IsFilled line := by
  obtain ⟨hline, hne⟩ := List.mem_filter.mp h
  obtain ⟨l, hl, rfl⟩ := List.mem_map.mp hline
  exact ⟨by simpa using hne, fun x => not_break_of_mem_split hl⟩

theorem filledLines_cons (h : IsFilled line) (content : Bytes) :
    filledLines (line ++ 10 :: content) = line :: filledLines content := by
  unfold filledLines
  rw [split_line h.2 rfl rfl, List.map_cons, List.filter_cons_of_pos (by simpa using h.1)]

/-- A file made of lines has these lines. -/
theorem filledLines_flatMap (h : ∀ line ∈ lines, IsFilled line) :
    filledLines (lines.flatMap fun line => line ++ [10]) = lines := by
  induction lines with
  | nil => rfl
  | cons line lines ih =>
    obtain ⟨hline, hlines⟩ := List.forall_mem_cons.mp h
    rw [List.flatMap_cons, List.append_assoc, List.singleton_append, filledLines_cons hline,
      ih hlines]

theorem IsFilled.head (h : IsFilled line) (rest : Bytes) :
    ∀ x ∈ (line ++ rest).head?, Breaks.bytes.isBreak x = false := by
  obtain ⟨y, line, rfl⟩ := List.exists_cons_of_ne_nil h.1
  rintro x ⟨⟩
  exact h.2 y List.mem_cons_self

/-- What comes after lines that have ended has lines of its own. -/
theorem filledLines_append_of_ended {rest : Bytes} (hcontent : Ended content)
    (hrest : ∀ x ∈ rest.head?, Breaks.bytes.isBreak x = false) :
    filledLines (content ++ rest) = filledLines content ++ filledLines rest := by
  rcases List.eq_nil_or_concat' content with rfl | ⟨front, x, rfl⟩
  · rfl
  · have hx : Breaks.bytes.isBreak x = true := hcontent x (by simp)
    rw [List.append_assoc, List.singleton_append]
    unfold filledLines
    rw [split_append hx hrest, List.map_append, List.filter_append]

/-- A line that is added to a file comes after the lines that are there. -/
theorem filledLines_append (hcontent : Ended content) (h : IsFilled line) :
    filledLines (content ++ (line ++ [10])) = filledLines content ++ [line] := by
  have hnew : filledLines (line ++ [10]) = [line] := filledLines_cons h []
  rw [filledLines_append_of_ended hcontent (h.head [10]), hnew]

theorem filledLines_bare (h : IsFilled line) : filledLines line = [line] := by
  unfold filledLines
  rw [split_bare h.1 h.2, List.map_singleton, List.filter_cons_of_pos (by simpa using h.1)]
  rfl

theorem filledLines_ended {x : UInt8} (h : IsFilled line) (hx : Breaks.bytes.isBreak x = true) :
    filledLines (line ++ [x]) = [line] := by
  unfold filledLines
  rw [split_ended h.2 hx, List.map_singleton, List.filter_cons_of_pos (by simpa using h.1)]
  rfl

/-- A file is lines that have ended and a line that has not, unless there is none
such. -/
theorem ended_or_tail (content : Bytes) :
    Ended content ∨ ∃ front tail, content = front ++ tail ∧ Ended front ∧ IsFilled tail := by
  induction content using List.reverseRecOn with
  | nil =>
    left
    rintro x ⟨⟩
  | append_singleton content x ih =>
    by_cases hx : Breaks.bytes.isBreak x = true
    · exact Or.inl (ended_concat hx content)
    · right
      rw [Bool.not_eq_true] at hx
      rcases ih with hended | ⟨front, tail, rfl, hfront, htail⟩
      · exact ⟨content, [x], rfl, hended, List.cons_ne_nil _ _, List.forall_mem_singleton.mpr hx⟩
      · refine ⟨front, tail ++ [x], List.append_assoc _ _ _, hfront, by simp, ?_⟩
        exact List.forall_mem_append.mpr ⟨htail.2, List.forall_mem_singleton.mpr hx⟩

/-- A file of one line without an ending has not ended. -/
theorem IsFilled.not_ended (h : IsFilled line) : ¬ Ended line := by
  intro hended
  have hlast := List.getLast_mem h.1
  have hbreak := hended _ (List.getLast?_eq_some_getLast h.1)
  rw [h.2 _ hlast] at hbreak
  cases hbreak

theorem IsFilled.append {line' : Bytes} (h : IsFilled line) (h' : IsFilled line') :
    IsFilled (line ++ line') :=
  ⟨fun hnil => h.1 (List.append_eq_nil_iff.mp hnil).1, List.forall_mem_append.mpr ⟨h.2, h'.2⟩⟩

/-- A line that is added to a file whose last line has not ended becomes a part of
that line. -/
theorem exists_joined_line (hcontent : ¬ Ended content) (h : IsFilled line) :
    ∃ tail ∈ filledLines content, tail ++ line ∈ filledLines (content ++ (line ++ [10])) := by
  rcases ended_or_tail content with hended | ⟨front, tail, rfl, hfront, htail⟩
  · exact absurd hended hcontent
  · have hhead : ∀ x ∈ tail.head?, Breaks.bytes.isBreak x = false := by
      simpa using htail.head []
    refine ⟨tail, ?_, ?_⟩
    · rw [filledLines_append_of_ended hfront hhead, filledLines_bare htail]
      simp
    · rw [List.append_assoc, ← List.append_assoc tail, filledLines_append hfront (htail.append h)]
      simp

/-! ## Values of a file -/

theorem toLine_eq_ok (h : v.toLine = .ok line) :
    v.isWritable = true ∧ line = encode v.text ++ [10] := by
  unfold Value.toLine Value.canonical? at h
  split at h
  · exact ⟨‹_›, (Except.ok.inj h).symm⟩
  · cases h

theorem ofLine_encode_text (hv : v.Proper) (hw : v.isWritable = true) :
    ofLine (encode v.text) = .ok v.sorted := by
  rw [ofLine, ofBytes?_encode_text hv hw]
  rfl

theorem proper_of_ofLine (h : ofLine line = .ok v) : v.Proper :=
  proper_of_ofBytes? (orFault_eq_ok_iff.mp h)

theorem proper_of_ofLines (h : ofLines content = .ok vs) : ∀ v ∈ vs, v.Proper := by
  have hlines := mapM_eq_ok_iff.mp h
  clear h
  generalize filledLines content = lines at hlines
  induction hlines with
  | nil => exact List.forall_mem_nil _
  | cons hline _ ih => exact List.forall_mem_cons.mpr ⟨proper_of_ofLine hline, ih⟩

/-- A file has no values exactly when a line of it is not JSON. -/
theorem ofLines_eq_error_iff {fault : Fault} :
    ofLines content = .error fault ↔
      fault = .notJson ∧ ∃ line ∈ filledLines content, ofBytes? line = none := by
  constructor
  · intro h
    obtain ⟨line, hline, hfault⟩ := exists_of_mapM_eq_error h
    obtain ⟨hnone, rfl⟩ := orFault_eq_error_iff.mp hfault
    exact ⟨rfl, line, hline, hnone⟩
  · rintro ⟨rfl, line, hline, hnone⟩
    cases h : ofLines content with
    | error fault =>
      obtain ⟨line', _, hfault⟩ := exists_of_mapM_eq_error h
      rw [(orFault_eq_error_iff.mp hfault).2]
    | ok vs =>
      obtain ⟨v, _, hv⟩ := exists_of_mapM_eq_ok h hline
      rw [ofLine, hnone] at hv
      cases hv

/-- The values of a file after a value was added as a line. -/
theorem ofLines_append (hcontent : Ended content) (hvs : ofLines content = .ok vs)
    (hv : v.Proper) (hline : v.toLine = .ok line) :
    ofLines (content ++ line) = .ok (vs ++ [v.sorted]) := by
  obtain ⟨hw, rfl⟩ := toLine_eq_ok hline
  have hlast : ofLine (encode v.text) = .ok v.sorted := ofLine_encode_text hv hw
  rw [ofLines, mapM_eq_ok_iff] at hvs
  rw [ofLines, filledLines_append hcontent (isFilled_encode_text hv hw), mapM_eq_ok_iff]
  exact List.rel_append hvs (.cons hlast .nil)

/-- A value that is added to a file of objects whose last line has not ended makes
this line unreadable. -/
theorem ofLines_append_of_not_ended (hcontent : ¬ Ended content) (hvs : ofLines content = .ok vs)
    (hobjects : ∀ v ∈ vs, ∃ ms, v = .obj ms) (hv : v.Proper) (hline : v.toLine = .ok line) :
    ofLines (content ++ line) = .error .notJson := by
  obtain ⟨hw, rfl⟩ := toLine_eq_ok hline
  obtain ⟨tail, htail, hjoined⟩ := exists_joined_line hcontent (isFilled_encode_text hv hw)
  obtain ⟨w, hmem, hread⟩ := exists_of_mapM_eq_ok hvs htail
  obtain ⟨ms, rfl⟩ := hobjects w hmem
  have hgap : skipGap v.text ≠ [] := by
    rw [Value.isWritable, Bool.and_eq_true] at hw
    obtain ⟨c, more, htext, hc, _⟩ := startsValue_text hv hw.1
    rw [htext, skipGap_cons hc]
    exact List.cons_ne_nil _ _
  exact ofLines_eq_error_iff.mpr
    ⟨rfl, _, hjoined, ofBytes?_obj_append (orFault_eq_ok_iff.mp hread) hgap⟩

theorem EndsLine.append (hline : v.toLine = .ok line) : EndsLine (content ++ line) := by
  obtain ⟨_, rfl⟩ := toLine_eq_ok hline
  exact Or.inr ⟨content ++ encode v.text, (List.append_assoc _ _ _).symm⟩

end

end Unloop.Json
