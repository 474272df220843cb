-- Where a reader stops. What a reader takes off the front of a text does not
-- depend on the text after it: for a string or a container never, and for a number
-- as soon as something is left. So an object with more than white space after it is
-- no JSON.
import Unloop.Proofs.Json.RoundTrip
import Unloop.Proofs.Text.Utf8

namespace Unloop.Json

open Unloop.Number Unloop.Text

/-! ## The pure model -/

/-- A reader that sees the end of its part: more text after it changes nothing. -/
def Closes {α : Type} (read : List Char → Option (α × List Char)) : Prop :=
  ∀ cs a rest, read cs = some (a, rest) → ∀ more, read (cs ++ more) = some (a, rest ++ more)

/-- A reader that stops before the end of a text: as soon as it leaves something,
more text after it changes nothing. -/
def Stops {α : Type} (read : List Char → Option (α × List Char)) : Prop :=
  ∀ cs a rest, read cs = some (a, rest) → rest ≠ [] →
    ∀ more, read (cs ++ more) = some (a, rest ++ more)

section

variable {α : Type} {cs rest more body : List Char} {c : Char} {fuel fuel' depth : Nat}
  {read : List Char → Option (Value × List Char)} {v : Value} {vs : List Value} {ms before : Members}

theorem Closes.stops {read : List Char → Option (α × List Char)} (h : Closes read) : Stops read :=
  fun cs a rest hread _ => h cs a rest hread

theorem Stops.map {β : Type} {read : List Char → Option (α × List Char)} (h : Stops read)
    (f : α → β) : Stops fun cs => (read cs).map fun (a, rest) => (f a, rest) := by
  intro cs b rest hread hrest more
  obtain ⟨⟨a, rest'⟩, ha, hb⟩ := Option.map_eq_some_iff.mp hread
  obtain ⟨rfl, rfl⟩ := Prod.mk.inj hb
  exact Option.map_eq_some_iff.mpr ⟨_, h cs a _ ha hrest more, rfl⟩

/-! ## White space and digits -/

theorem skipGap_append (h : skipGap cs ≠ []) (more : List Char) :
    skipGap (cs ++ more) = skipGap cs ++ more := by
  unfold skipGap at h ⊢
  rw [List.dropWhile_append, if_neg (by simpa using h)]

theorem skipGap_append_of_gap (h : skipGap cs = []) (more : List Char) :
    skipGap (cs ++ more) = skipGap more := by
  unfold skipGap at h ⊢
  rw [List.dropWhile_append, h]
  rfl

theorem stops_digits1? : Stops digits1? := by
  intro cs ds rest h hrest more
  unfold digits1? at h ⊢
  have htake : (cs ++ more).takeWhile isDigit = cs.takeWhile isDigit := by
    rw [List.takeWhile_append, if_neg]
    intro hall
    have hlength := congrArg List.length (List.takeWhile_append_dropWhile (p := isDigit) (l := cs))
    rw [List.length_append, hall] at hlength
    split at h
    · cases h
    · obtain ⟨_, hdrop⟩ := Prod.mk.inj (Option.some.inj h)
      exact hrest (hdrop ▸ List.length_eq_zero_iff.mp (by omega))
  rw [htake]
  split at h
  · cases h
  · obtain ⟨rfl, hdrop⟩ := Prod.mk.inj (Option.some.inj h)
    simp only [List.dropWhile_append, hdrop, List.isEmpty_iff, hrest, if_false]

/-! ## Numbers -/

theorem stops_wholePart? : Stops wholePart? := by
  intro cs ds rest h hrest more
  cases cs with
  | nil => cases h
  | cons c cs =>
    by_cases hc : c = '0'
    · subst hc
      obtain ⟨rfl, rfl⟩ := Prod.mk.inj (Option.some.inj h)
      rfl
    · have hdigits : ∀ cs, wholePart? (c :: cs) = digits1? (c :: cs) := by
        intro cs
        unfold wholePart?
        split
        · exact absurd (List.cons.inj ‹_›).1 hc
        · rfl
      rw [hdigits] at h
      rw [List.cons_append, hdigits, ← List.cons_append]
      exact stops_digits1? _ _ _ h hrest more

theorem stops_fraction? : Stops fraction? := by
  intro cs ds rest h hrest more
  cases cs with
  | nil =>
    obtain ⟨_, rfl⟩ := Prod.mk.inj (Option.some.inj h)
    exact absurd rfl hrest
  | cons c cs =>
    by_cases hc : c = '.'
    · subst hc
      exact stops_digits1?.map some cs ds rest h hrest more
    · have hnone : ∀ cs, fraction? (c :: cs) = some (none, c :: cs) :=
        fun cs => fraction?_of_none (by rintro _ ⟨⟩; exact hc)
      rw [hnone] at h
      obtain ⟨rfl, rfl⟩ := Prod.mk.inj (Option.some.inj h)
      exact hnone (cs ++ more)

theorem stops_exponent? : Stops exponent? := by
  intro cs e rest h hrest more
  cases cs with
  | nil =>
    obtain ⟨_, rfl⟩ := Prod.mk.inj (Option.some.inj h)
    exact absurd rfl hrest
  | cons c cs =>
    rw [List.cons_append]
    by_cases hc : c = 'e' ∨ c = 'E'
    · simp only [exponent?, if_pos hc] at h ⊢
      cases cs with
      | nil => cases h
      | cons d cs =>
        rw [List.cons_append]
        by_cases hminus : d = '-'
        · subst hminus
          exact stops_digits1?.map (fun ds => some (-(ofDigits ds : Int))) cs e rest h hrest more
        by_cases hplus : d = '+'
        · subst hplus
          exact stops_digits1?.map (fun ds => some (ofDigits ds : Int)) cs e rest h hrest more
        split at h
        · exact absurd (List.cons.inj ‹_›).1 hminus
        · exact absurd (List.cons.inj ‹_›).1 hplus
        split
        · exact absurd (List.cons.inj ‹_›).1 hminus
        · exact absurd (List.cons.inj ‹_›).1 hplus
        exact stops_digits1?.map (fun ds => some (ofDigits ds : Int)) (d :: cs) e rest h hrest more
    · simp only [exponent?, if_neg hc] at h ⊢
      obtain ⟨rfl, rfl⟩ := Prod.mk.inj (Option.some.inj h)
      rfl

/-- Where a part of a number that may be missing leaves something, there was
something before it. -/
theorem stops_unsigned? (negative : Bool) : Stops (unsigned? negative) := by
  intro cs v rest h hrest more
  unfold unsigned? at h ⊢
  obtain ⟨⟨whole, cs'⟩, hwhole, h⟩ := Option.bind_eq_some_iff.mp h
  obtain ⟨⟨fraction, cs₂⟩, hfraction, h⟩ := Option.bind_eq_some_iff.mp h
  obtain ⟨⟨exponent, cs₃⟩, hexponent, h⟩ := Option.bind_eq_some_iff.mp h
  obtain ⟨w, hw, h⟩ := Option.bind_eq_some_iff.mp h
  obtain ⟨rfl, rfl⟩ := Prod.mk.inj (Option.some.inj h)
  have hcs₂ : cs₂ ≠ [] := by
    rintro rfl
    obtain ⟨_, rfl⟩ := Prod.mk.inj (Option.some.inj hexponent)
    exact hrest rfl
  have hcs' : cs' ≠ [] := by
    rintro rfl
    obtain ⟨_, rfl⟩ := Prod.mk.inj (Option.some.inj hfraction)
    exact hcs₂ rfl
  simp only [stops_wholePart? _ _ _ hwhole hcs' more, stops_fraction? _ _ _ hfraction hcs₂ more,
    stops_exponent? _ _ _ hexponent hrest more, hw, Option.bind_eq_bind, Option.bind_some,
    Option.pure_def]

theorem stops_number? : Stops number? := by
  intro cs v rest h hrest more
  cases cs with
  | nil => cases h
  | cons c cs =>
    by_cases hc : c = '-'
    · subst hc
      exact stops_unsigned? true cs v rest h hrest more
    · have hsigned : ∀ cs, number? (c :: cs) = unsigned? false (c :: cs) := by
        intro cs
        have hhead : (c :: cs).head? ≠ some '-' := by simpa using hc
        exact (number?_signed hhead : number? (if false = true then _ else _) = _)
      rw [hsigned] at h
      rw [List.cons_append, hsigned]
      exact stops_unsigned? false (c :: cs) v rest h hrest more

/-! ## Strings -/

theorem closes_unit? : Closes unit? := by
  intro cs n rest h more
  unfold unit? at h
  split at h
  · rename_i a b c d rest'
    obtain ⟨a', ha, h⟩ := Option.bind_eq_some_iff.mp h
    obtain ⟨b', hb, h⟩ := Option.bind_eq_some_iff.mp h
    obtain ⟨c', hc, h⟩ := Option.bind_eq_some_iff.mp h
    obtain ⟨d', hd, h⟩ := Option.bind_eq_some_iff.mp h
    obtain ⟨rfl, rfl⟩ := Prod.mk.inj (Option.some.inj h)
    simp only [List.cons_append, unit?, ha, hb, hc, hd, Option.bind_eq_bind, Option.bind_some,
      Option.pure_def]
  · cases h

theorem closes_unicode? : Closes unicode? := by
  intro cs c rest h more
  unfold unicode? at h ⊢
  obtain ⟨⟨high, cs'⟩, hhigh, h⟩ := Option.bind_eq_some_iff.mp h
  rw [closes_unit? _ _ _ hhigh more]
  dsimp only [Option.bind_eq_bind, Option.bind_some] at h ⊢
  split at h
  · rw [if_pos ‹_›]
    split at h
    · obtain ⟨⟨low, cs₂⟩, hlow, h⟩ := Option.bind_eq_some_iff.mp h
      simp only [List.cons_append, closes_unit? _ _ _ hlow more, Option.bind_some]
      dsimp only at h
      split at h
      · rw [if_pos ‹_›]
        obtain ⟨c', hc, h⟩ := Option.bind_eq_some_iff.mp h
        obtain ⟨rfl, rfl⟩ := Prod.mk.inj (Option.some.inj h)
        simp only [hc, Option.bind_some, Option.pure_def]
      · cases h
    · cases h
  · rw [if_neg ‹_›]
    obtain ⟨c', hc, h⟩ := Option.bind_eq_some_iff.mp h
    obtain ⟨rfl, rfl⟩ := Prod.mk.inj (Option.some.inj h)
    simp only [hc, Option.bind_some, Option.pure_def]

theorem closes_escape? : Closes escape? := by
  intro cs c rest h more
  unfold escape? at h
  split at h
  case h_9 => exact closes_unicode? _ _ _ h more
  case h_10 => cases h
  all_goals
    obtain ⟨rfl, rfl⟩ := Prod.mk.inj (Option.some.inj h)
    rfl

/-- A string is read to its closing quote, with whatever fuel suffices. -/
theorem stringBody?_append (h : stringBody? fuel cs = some (body, rest)) (hfuel : fuel ≤ fuel')
    (more : List Char) : stringBody? fuel' (cs ++ more) = some (body, rest ++ more) := by
  induction fuel generalizing cs body rest fuel' with
  | zero => cases h
  | succ fuel ih =>
    obtain ⟨fuel', rfl⟩ := Nat.exists_eq_add_of_le' (Nat.le_trans (Nat.le_add_left 1 _) hfuel)
    have hless := Nat.le_of_succ_le_succ hfuel
    unfold stringBody? at h
    split at h
    · cases h
    · obtain ⟨rfl, rfl⟩ := Prod.mk.inj (Option.some.inj h)
      rfl
    · obtain ⟨⟨c, cs₂⟩, hc, h⟩ := Option.bind_eq_some_iff.mp h
      obtain ⟨⟨body', cs₃⟩, hbody, h⟩ := Option.bind_eq_some_iff.mp h
      obtain ⟨rfl, rfl⟩ := Prod.mk.inj (Option.some.inj h)
      simp only [List.cons_append, stringBody?, closes_escape? _ _ _ hc more, ih hbody hless,
        Option.bind_eq_bind, Option.bind_some, Option.pure_def]
    · rename_i c cs' hquote hback
      split at h
      · cases h
      rename_i hcontrol
      obtain ⟨⟨body', cs₂⟩, hbody, h⟩ := Option.bind_eq_some_iff.mp h
      obtain ⟨rfl, rfl⟩ := Prod.mk.inj (Option.some.inj h)
      rw [List.cons_append, stringBody?_plain hquote hback hcontrol, ih hbody hless]
      rfl

theorem closes_string? : Closes string? := by
  intro cs s rest h more
  obtain ⟨⟨body, rest'⟩, hbody, hs⟩ := Option.map_eq_some_iff.mp h
  obtain ⟨rfl, rfl⟩ := Prod.mk.inj hs
  have hfuel : cs.length + 1 ≤ (cs ++ more).length + 1 := by simp
  exact Option.map_eq_some_iff.mpr ⟨_, stringBody?_append hbody hfuel more, rfl⟩

/-! ## Containers -/

/-- The text before a comma or a bracket was not all white space. -/
theorem skipGap_append_of_cons (h : skipGap cs = c :: rest) (more : List Char) :
    skipGap (cs ++ more) = c :: (rest ++ more) := by
  rw [skipGap_append (by simp [h]), h]
  rfl

theorem ne_nil_of_skipGap (h : skipGap cs = c :: rest) : cs ≠ [] := by
  rintro rfl
  cases h

/-- A value after white space is read from more text as it is from less. -/
theorem read_skipGap_append (hread : Stops read) (hnil : read [] = none)
    (h : read (skipGap cs) = some (v, rest)) (hrest : rest ≠ []) (more : List Char) :
    read (skipGap (cs ++ more)) = some (v, rest ++ more) := by
  have hcs : skipGap cs ≠ [] := by
    intro hgap
    rw [hgap, hnil] at h
    cases h
  rw [skipGap_append hcs]
  exact hread _ _ _ h hrest more

/-- The items of an array are read to its closing bracket, with whatever fuel suffices. -/
theorem items?_append (hread : Stops read) (hnil : read [] = none)
    (h : items? read fuel cs = some (vs, rest)) (hfuel : fuel ≤ fuel') (more : List Char) :
    items? read fuel' (cs ++ more) = some (vs, rest ++ more) := by
  induction fuel generalizing cs vs rest fuel' with
  | zero => cases h
  | succ fuel ih =>
    obtain ⟨fuel', rfl⟩ := Nat.exists_eq_add_of_le' (Nat.le_trans (Nat.le_add_left 1 _) hfuel)
    have hless := Nat.le_of_succ_le_succ hfuel
    obtain ⟨⟨v, after⟩, hv, h⟩ := Option.bind_eq_some_iff.mp h
    dsimp only at h
    split at h
    · rename_i hcomma
      have hfirst := read_skipGap_append hread hnil hv (ne_nil_of_skipGap hcomma) more
      obtain ⟨⟨vs', after'⟩, hvs, h⟩ := Option.bind_eq_some_iff.mp h
      obtain ⟨rfl, rfl⟩ := Prod.mk.inj (Option.some.inj h)
      simp only [items?, hfirst, skipGap_append_of_cons hcomma, ih hvs hless, Option.bind_eq_bind,
        Option.bind_some, Option.pure_def]
    · rename_i hclose
      have hlast := read_skipGap_append hread hnil hv (ne_nil_of_skipGap hclose) more
      obtain ⟨rfl, rfl⟩ := Prod.mk.inj (Option.some.inj h)
      simp only [items?, hlast, skipGap_append_of_cons hclose, Option.bind_eq_bind,
        Option.bind_some, Option.pure_def]
    · cases h

theorem stops_member? (hread : Stops read) (hnil : read [] = none) : Stops (member? read) := by
  intro cs m rest h hrest more
  unfold member? at h ⊢
  split at h
  · rename_i hquote
    obtain ⟨⟨name, after⟩, hname, h⟩ := Option.bind_eq_some_iff.mp h
    dsimp only at h
    split at h
    · rename_i hcolon
      obtain ⟨⟨v, after'⟩, hv, h⟩ := Option.bind_eq_some_iff.mp h
      obtain ⟨rfl, rfl⟩ := Prod.mk.inj (Option.some.inj h)
      have hvalue := read_skipGap_append hread hnil hv hrest more
      simp only [skipGap_append_of_cons hquote, closes_string? _ _ _ hname more,
        skipGap_append_of_cons hcolon, hvalue, Option.bind_eq_bind, Option.bind_some,
        Option.pure_def]
    · cases h
  · cases h

/-- The members of an object are read to its closing brace, with whatever fuel
suffices. -/
theorem members?_append (hread : Stops read) (hnil : read [] = none)
    (h : members? read fuel before cs = some (ms, rest)) (hfuel : fuel ≤ fuel')
    (more : List Char) : members? read fuel' before (cs ++ more) = some (ms, rest ++ more) := by
  induction fuel generalizing before cs ms rest fuel' with
  | zero => cases h
  | succ fuel ih =>
    obtain ⟨fuel', rfl⟩ := Nat.exists_eq_add_of_le' (Nat.le_trans (Nat.le_add_left 1 _) hfuel)
    have hless := Nat.le_of_succ_le_succ hfuel
    obtain ⟨⟨⟨name, v⟩, after⟩, hm, h⟩ := Option.bind_eq_some_iff.mp h
    dsimp only at h
    split at h
    · rename_i hcomma
      have hfirst := stops_member? hread hnil _ _ _ hm (ne_nil_of_skipGap hcomma) more
      simp only [members?, hfirst, skipGap_append_of_cons hcomma, ih h hless, Option.bind_eq_bind,
        Option.bind_some]
    · rename_i hclose
      have hlast := stops_member? hread hnil _ _ _ hm (ne_nil_of_skipGap hclose) more
      obtain ⟨rfl, rfl⟩ := Prod.mk.inj (Option.some.inj h)
      simp only [members?, hlast, skipGap_append_of_cons hclose, Option.bind_eq_bind,
        Option.bind_some, Option.pure_def]
    · cases h

/-! ## Values -/

theorem stops_scalar? : Stops scalar? := by
  intro cs v rest h hrest more
  unfold scalar? at h
  split at h
  · obtain ⟨rfl, rfl⟩ := Prod.mk.inj (Option.some.inj h)
    rfl
  · obtain ⟨rfl, rfl⟩ := Prod.mk.inj (Option.some.inj h)
    rfl
  · obtain ⟨rfl, rfl⟩ := Prod.mk.inj (Option.some.inj h)
    rfl
  · obtain ⟨⟨s, after⟩, hs, hv⟩ := Option.map_eq_some_iff.mp h
    obtain ⟨rfl, rfl⟩ := Prod.mk.inj hv
    exact Option.map_eq_some_iff.mpr ⟨_, closes_string? _ _ _ hs more, rfl⟩
  · obtain ⟨c, cs, rfl, hc⟩ := head_of_number? h
    rw [List.cons_append, scalar?_of_digit hc, ← List.cons_append]
    exact stops_number? _ _ _ h hrest more

theorem value?_nil (depth : Nat) : value? depth [] = none := by
  cases depth <;> rfl

/-- An array is read to its closing bracket. -/
theorem value?_array_append (hread : Stops (value? depth))
    (h : value? (depth + 1) ('[' :: cs) = some (v, rest)) (more : List Char) :
    value? (depth + 1) ('[' :: (cs ++ more)) = some (v, rest ++ more) := by
  have hnil := value?_nil depth
  rw [value?] at h ⊢
  dsimp only at h ⊢
  split at h
  · rename_i hclose
    obtain ⟨rfl, rfl⟩ := Prod.mk.inj (Option.some.inj h)
    rw [skipGap_append_of_cons hclose]
    rfl
  · rename_i hopen
    obtain ⟨⟨vs, after⟩, hvs, hv⟩ := Option.map_eq_some_iff.mp h
    obtain ⟨rfl, rfl⟩ := Prod.mk.inj hv
    have hne : skipGap cs ≠ [] := by
      intro hgap
      rw [hgap, items?, skipGap, List.dropWhile_nil, hnil] at hvs
      cases hvs
    obtain ⟨c, cs', hcs⟩ := List.exists_cons_of_ne_nil hne
    rw [skipGap_append hne]
    split
    · rename_i hclose
      rw [hcs] at hclose
      obtain ⟨rfl, _⟩ := List.cons.inj hclose
      exact absurd hcs (hopen _)
    · rw [items?_append hread hnil hvs (by simp) more]
      rfl

/-- An object is read to its closing brace. -/
theorem value?_object_append (hread : Stops (value? depth))
    (h : value? (depth + 1) ('\x7b' :: cs) = some (v, rest)) (more : List Char) :
    value? (depth + 1) ('\x7b' :: (cs ++ more)) = some (v, rest ++ more) := by
  have hnil := value?_nil depth
  rw [value?] at h ⊢
  dsimp only at h ⊢
  split at h
  · rename_i hclose
    obtain ⟨rfl, rfl⟩ := Prod.mk.inj (Option.some.inj h)
    rw [skipGap_append_of_cons hclose]
    rfl
  · rename_i hopen
    obtain ⟨⟨ms, after⟩, hms, hv⟩ := Option.map_eq_some_iff.mp h
    obtain ⟨rfl, rfl⟩ := Prod.mk.inj hv
    have hne : skipGap cs ≠ [] := by
      intro hgap
      rw [hgap] at hms
      cases hms
    obtain ⟨c, cs', hcs⟩ := List.exists_cons_of_ne_nil hne
    rw [skipGap_append hne]
    split
    · rename_i hclose
      rw [hcs] at hclose
      obtain ⟨rfl, _⟩ := List.cons.inj hclose
      exact absurd hcs (hopen _)
    · rw [members?_append hread hnil hms (by simp) more]
      rfl

theorem stops_value? (depth : Nat) : Stops (value? depth) := by
  induction depth with
  | zero => exact stops_scalar?
  | succ depth ih =>
    intro cs v rest h hrest more
    cases cs with
    | nil =>
      rw [value?_nil] at h
      cases h
    | cons c cs =>
      by_cases hitems : c = '['
      · subst hitems
        exact value?_array_append ih h more
      by_cases hmembers : c = '\x7b'
      · subst hmembers
        exact value?_object_append ih h more
      rw [value?_of_scalar hitems hmembers] at h
      rw [List.cons_append, value?_of_scalar hitems hmembers, ← List.cons_append]
      exact stops_scalar? _ _ _ h hrest more

/-! ## Objects alone in a text -/

theorem number?_ne_obj : number? cs ≠ some (.obj ms, rest) := by
  have hfloat : ∀ negative n e, floatOf? negative n e ≠ some (.obj ms) := by
    intro negative n e h
    unfold floatOf? at h
    split at h <;> cases h
  have hnumber : ∀ negative whole fraction exponent,
      numberOf? negative whole fraction exponent ≠ some (.obj ms) := by
    intro negative whole fraction exponent h
    unfold numberOf? at h
    split at h
    · dsimp only at h
      generalize (if negative = true then -(ofDigits whole : Int) else _) = n at h
      split at h
      · cases h
      · exact hfloat _ _ _ h
    · exact hfloat _ _ _ h
  have hunsigned : ∀ negative cs, unsigned? negative cs ≠ some (.obj ms, rest) := by
    intro negative cs h
    simp only [unsigned?, Option.bind_eq_bind, Option.bind_eq_some_iff] at h
    obtain ⟨_, _, _, _, _, _, v, hv, h⟩ := h
    obtain ⟨rfl, _⟩ := Prod.mk.inj (Option.some.inj h)
    exact hnumber _ _ _ _ hv
  intro h
  unfold number? at h
  split at h
  · exact hunsigned _ _ h
  · exact hunsigned _ _ h

theorem scalar?_ne_obj : scalar? cs ≠ some (.obj ms, rest) := by
  intro h
  unfold scalar? at h
  split at h
  · cases h
  · cases h
  · cases h
  · obtain ⟨_, _, hs⟩ := Option.map_eq_some_iff.mp h
    cases hs
  · exact number?_ne_obj h

/-- An object is read to its closing brace, whatever follows it. -/
theorem value?_obj_append (h : value? depth cs = some (.obj ms, rest)) (more : List Char) :
    value? depth (cs ++ more) = some (.obj ms, rest ++ more) := by
  cases depth with
  | zero => exact absurd h scalar?_ne_obj
  | succ depth =>
    cases cs with
    | nil => cases h
    | cons c cs =>
      by_cases hitems : c = '['
      · subst hitems
        exact value?_array_append (stops_value? depth) h more
      by_cases hmembers : c = '\x7b'
      · subst hmembers
        exact value?_object_append (stops_value? depth) h more
      rw [value?_of_scalar hitems hmembers] at h
      exact absurd h scalar?_ne_obj

/-- An object with more than white space after it is no text of one value. -/
theorem ofChars?_obj_append (h : ofChars? cs = some (.obj ms)) (hmore : skipGap more ≠ []) :
    ofChars? (cs ++ more) = none := by
  obtain ⟨⟨v, rest⟩, hv, h⟩ := Option.bind_eq_some_iff.mp h
  dsimp only at h
  split at h
  · rename_i hgap
    obtain rfl := Option.some.inj h
    have hcs : skipGap cs ≠ [] := by
      intro hcs
      rw [hcs, value?_nil] at hv
      cases hv
    rw [ofChars?, skipGap_append hcs, value?_obj_append hv more]
    dsimp only [Option.bind_eq_bind, Option.bind_some]
    rw [skipGap_append_of_gap hgap]
    split
    · exact absurd ‹_› hmore
    · rfl
  · cases h

/-- The same for bytes, and for what is written after them. -/
theorem ofBytes?_obj_append {bytes : Bytes} (h : ofBytes? bytes = some (.obj ms))
    (hmore : skipGap more ≠ []) : ofBytes? (bytes ++ encode more) = none := by
  obtain ⟨cs, hcs, h⟩ := Option.bind_eq_some_iff.mp h
  rw [ofBytes?, decode?_append hcs, decode?_encode]
  exact ofChars?_obj_append h hmore

end

end Unloop.Json
