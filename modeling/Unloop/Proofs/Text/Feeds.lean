-- The laws of texts that break at line feeds alone, each with or without a
-- carriage return before it. Such a text and its bytes break into the same lines,
-- since UTF-8 hides no line break inside another character.
import Unloop.Proofs.Text.Lines
import Unloop.Proofs.Text.Utf8

namespace Unloop.Text

/-- The characters that break a line of a text, but not the line of a file. -/
def otherBreaks : List Char :=
  ['\x0b', '\x0c', '\x1c', '\x1d', '\x1e', '\u0085', '\u2028', '\u2029']

/-- Line feeds alone break the text: every carriage return stands right before a line
feed, and there is none of the other breaks. -/
def BreaksAtFeeds (cs : List Char) : Prop :=
  (∀ n < cs.length, cs[n]? = some '\r' → cs[n + 1]? = some '\n') ∧ ∀ c ∈ cs, c ∉ otherBreaks

instance (cs : List Char) : Decidable (BreaksAtFeeds cs) :=
  have : Decidable (∀ c ∈ cs, c ∉ otherBreaks) := List.decidableBAll (fun c => c ∉ otherBreaks) cs
  inferInstanceAs (Decidable (_ ∧ _))

/-- A text that breaks at line feeds alone, from its front. -/
inductive Fed : List Char → Prop
  | nil : Fed []
  | plain {c : Char} {rest : List Char} : Breaks.chars.isBreak c = false → Fed rest → Fed (c :: rest)
  | feed {rest : List Char} : Fed rest → Fed ('\n' :: rest)
  | both {rest : List Char} : Fed rest → Fed ('\r' :: '\n' :: rest)

/-- The bytes of a line. -/
def Line.encoded (l : Line Char) : Line UInt8 := ⟨encode l.body, encode l.ending⟩

section

variable {c : Char} {cs rest : List Char} {b : UInt8} {l : Line Char}

/-! ## Breaks -/

theorem isBreak_eq_false (hother : c ∉ otherBreaks) (hreturn : c ≠ '\r') (hfeed : c ≠ '\n') :
    Breaks.chars.isBreak c = false := by
  simp only [otherBreaks, List.mem_cons, List.not_mem_nil, or_false, not_or, ne_eq,
    ← Char.toNat_inj, Char.reduceToNat] at hother hreturn hfeed
  simp only [Breaks.chars, Bool.or_eq_false_iff, Bool.and_eq_false_iff, decide_eq_false_iff_not,
    beq_eq_false_iff_ne]
  omega

theorem breaksAtFeeds_tail (h : BreaksAtFeeds (c :: cs)) : BreaksAtFeeds cs := by
  obtain ⟨hreturns, hothers⟩ := h
  constructor
  · intro n hn hc
    exact hreturns (n + 1) (Nat.succ_lt_succ hn) hc
  · exact fun d hd => hothers d (List.mem_cons_of_mem c hd)

theorem fed_of_breaksAtFeeds (h : BreaksAtFeeds cs) : Fed cs := by
  induction cs with
  | nil => exact .nil
  | cons c cs ih =>
    have hrest := ih (breaksAtFeeds_tail h)
    obtain ⟨hreturns, hothers⟩ := h
    by_cases hreturn : c = '\r'
    · subst hreturn
      have hnext : cs[0]? = some '\n' := hreturns 0 (Nat.succ_pos _) rfl
      obtain ⟨rest, rfl⟩ := List.head?_eq_some_iff.mp (List.head?_eq_getElem? ▸ hnext)
      cases hrest with
      | plain hbreak => cases hbreak
      | feed hrest => exact .both hrest
    · by_cases hfeed : c = '\n'
      · subst hfeed
        exact .feed hrest
      · exact .plain (isBreak_eq_false (hothers c List.mem_cons_self) hreturn hfeed) hrest

theorem fed_of_plain (hcs : ∀ c ∈ cs, Breaks.chars.isBreak c = false) (h : Fed rest) :
    Fed (cs ++ rest) := by
  induction cs with
  | nil => exact h
  | cons c cs ih =>
    obtain ⟨hc, hcs⟩ := List.forall_mem_cons.mp hcs
    exact .plain hc (ih hcs)

/-- A byte that breaks a line is that of a character which does so. -/
theorem not_break_of_mem_encode (hcs : ∀ c ∈ cs, Breaks.chars.isBreak c = false)
    (h : b ∈ encode cs) : Breaks.bytes.isBreak b = false := by
  rw [Bool.eq_false_iff]
  intro hbreak
  rw [Breaks.bytes, Bool.or_eq_true, beq_iff_eq, beq_iff_eq] at hbreak
  have hlow : b.toNat < 0x80 := by rcases hbreak with rfl | rfl <;> decide
  obtain ⟨c, hc, heq⟩ := mem_of_mem_encode h hlow
  have hplain := hcs c hc
  simp only [Breaks.chars, heq] at hplain
  rcases hbreak with rfl | rfl <;> cases hplain

/-! ## Lines -/

theorem whole_encoded (l : Line Char) : l.encoded.whole = encode l.whole := by
  simp only [Line.whole, Line.encoded, encode, List.flatMap_append]

/-- Elements that do not break a line go to the front of the first one. -/
theorem foldr_push_plain {α : Type} {br : Breaks α} {body : List α}
    (hbody : ∀ y ∈ body, br.isBreak y = false) (l : Line α) (more : List (Line α)) :
    body.foldr br.push (l :: more) = ⟨body ++ l.body, l.ending⟩ :: more := by
  induction body with
  | nil => rfl
  | cons y body ih =>
    obtain ⟨hy, hbody⟩ := List.forall_mem_cons.mp hbody
    rw [List.foldr_cons, ih hbody, push_of_not_break_cons hy]
    rfl

theorem split_feed {α : Type} {br : Breaks α} {x : α} (hx : br.isBreak x = true)
    (hnot : br.isReturn x = false) (rest : List α) :
    br.split (x :: rest) = ⟨[], [x]⟩ :: br.split rest := by
  have hnil : ∀ y ∈ ([] : List α), br.isBreak y = false := by simp
  exact split_line hnil hx hnot rest

theorem split_both {α : Type} {br : Breaks α} {x y : α} (hx : br.isBreak x = true)
    (hreturn : br.isReturn x = true) (hy : br.isBreak y = true) (hfeed : br.isFeed y = true)
    (hnot : br.isReturn y = false) (rest : List α) :
    br.split (x :: y :: rest) = ⟨[], [x, y]⟩ :: br.split rest := by
  change br.push x (br.split (y :: rest)) = _
  rw [split_feed hy hnot]
  simp [Breaks.push, hx, hreturn, hfeed]

/-- A text whose last element is a feed can be followed by any other text without a
change of its lines. -/
theorem split_append_of_feed {α : Type} {br : Breaks α} {x : α} (hx : br.isBreak x = true)
    (hnot : br.isReturn x = false) (text rest : List α) :
    br.split (text ++ x :: rest) = br.split (text ++ [x]) ++ br.split rest := by
  have hfeed : br.split (x :: rest) = br.split [x] ++ br.split rest := by
    rw [split_feed hx hnot, split_feed hx hnot]
    rfl
  have hfront : ∀ more, br.split (text ++ more) = text.foldr br.push (br.split more) :=
    fun _ => List.foldr_append
  rw [hfront, hfront, hfeed]
  exact foldr_push_append text (push_ne_nil x []) _

theorem split_encodeChar (hc : Breaks.chars.isBreak c = false) (rest : List Char) :
    (encodeChar c).foldr Breaks.bytes.push ((Breaks.chars.split rest).map Line.encoded) =
      (Breaks.chars.split (c :: rest)).map Line.encoded := by
  have hbytes : ∀ b ∈ encodeChar c, Breaks.bytes.isBreak b = false := by
    intro b hb
    have hmem : b ∈ encode [c] := List.mem_flatMap.mpr ⟨c, List.mem_cons_self, hb⟩
    exact not_break_of_mem_encode (List.forall_mem_singleton.mpr hc) hmem
  change _ = (Breaks.chars.push c (Breaks.chars.split rest)).map Line.encoded
  rcases Breaks.chars.split rest with _ | ⟨l, more⟩
  · obtain ⟨a, bytes, hchar, _⟩ := firstChar?_encodeChar c []
    have hbare : Breaks.bytes.split (encodeChar c) = [⟨encodeChar c, []⟩] :=
      split_bare (by simp [hchar]) hbytes
    rw [push_of_not_break_nil hc]
    refine hbare.trans ?_
    simp [Line.encoded, encode]
  · rw [push_of_not_break_cons hc, List.map_cons, foldr_push_plain hbytes]
    rfl

/-- The bytes of a text that breaks at line feeds alone break into the bytes of its
lines. -/
theorem split_encode (h : Fed cs) :
    Breaks.bytes.split (encode cs) = (Breaks.chars.split cs).map Line.encoded := by
  induction h with
  | nil => rfl
  | @plain c rest hc _ ih =>
    rw [← split_encodeChar hc rest, ← ih]
    exact List.foldr_append
  | @feed rest _ ih =>
    have hbytes : Breaks.bytes.split (10 :: encode rest) =
        ⟨[], [10]⟩ :: Breaks.bytes.split (encode rest) := split_feed rfl rfl _
    rw [split_feed rfl rfl, List.map_cons, ← ih]
    exact hbytes
  | @both rest _ ih =>
    have hbytes : Breaks.bytes.split (13 :: 10 :: encode rest) =
        ⟨[], [13, 10]⟩ :: Breaks.bytes.split (encode rest) := split_both rfl rfl rfl rfl rfl _
    rw [split_both rfl rfl rfl rfl rfl, List.map_cons, ← ih]
    exact hbytes

/-- Each line ends in a line feed, with or without a carriage return before it, or it
is the last one and has no ending. -/
theorem ending_of_mem_split (h : Fed cs) (hl : l ∈ Breaks.chars.split cs) :
    l.ending ∈ [[], ['\n'], ['\r', '\n']] := by
  induction h generalizing l with
  | nil => cases hl
  | @plain c rest hc _ ih =>
    change l ∈ Breaks.chars.push c (Breaks.chars.split rest) at hl
    rcases hsplit : Breaks.chars.split rest with _ | ⟨l', more⟩
    · rw [hsplit, push_of_not_break_nil hc] at hl
      obtain rfl := List.mem_singleton.mp hl
      simp
    · rw [hsplit, push_of_not_break_cons hc] at hl
      rw [hsplit] at ih
      rcases List.mem_cons.mp hl with rfl | hl
      · exact ih (l := l') List.mem_cons_self
      · exact ih (List.mem_cons_of_mem _ hl)
  | @feed rest _ ih =>
    rw [split_feed rfl rfl] at hl
    rcases List.mem_cons.mp hl with rfl | hl
    · simp
    · exact ih hl
  | @both rest _ ih =>
    rw [split_both rfl rfl rfl rfl rfl] at hl
    rcases List.mem_cons.mp hl with rfl | hl
    · simp
    · exact ih hl

end

end Unloop.Text
