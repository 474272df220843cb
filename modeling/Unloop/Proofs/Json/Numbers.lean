-- The laws of numbers in JSON. A whole number of 64 bits and a finite
-- floating-point number are read back from the texts that are written for
-- them, whatever follows that cannot belong to a number.
import Unloop.Json.Canonical
import Unloop.Proofs.Number.Rounding
import Mathlib.Data.List.Induction

namespace Unloop.Json

open Unloop.Number

/-- No number goes on with this text. -/
def EndsNumber (rest : List Char) : Prop :=
  ∀ c ∈ rest.head?, isDigit c = false ∧ c ≠ '.' ∧ c ≠ 'e' ∧ c ≠ 'E'

/-- Digits of which the first is no zero. -/
def LeadingDigits (ds : List Char) : Prop :=
  ds ≠ [] ∧ (∀ c ∈ ds, isDigit c = true) ∧ ds.head? ≠ some '0'

section

variable {ds es rest w cs cs' : List Char} {n k : Nat} {e point : Int} {negative : Bool} {x : Finite}
  {f : Option (List Char)} {o : Option Int} {c : Char}

/-! ## Digits -/

theorem digits_ne_nil (n : Nat) : digits n ≠ [] := by
  rw [digits_eq]
  simp

theorem head_digits_of_le (h : 10 ≤ n) : (digits n).head? = (digits (n / 10)).head? := by
  rw [digits_eq n, if_neg (by omega), List.head?_append_of_ne_nil _ (digits_ne_nil _)]

theorem head_digits_ne_zero (h : 0 < n) : (digits n).head? ≠ some '0' := by
  induction n using Nat.strongRecOn with
  | _ n ih =>
    by_cases hten : n < 10
    · have hall : ∀ m < 10, 0 < m → some (digitChar m) ≠ some '0' := by decide
      rw [digits_eq, if_pos hten, Nat.mod_eq_of_lt hten]
      exact hall n hten h
    · rw [head_digits_of_le (by omega)]
      exact ih _ (by omega) (by omega)

theorem leadingDigits_digits (h : 0 < n) : LeadingDigits (digits n) :=
  ⟨digits_ne_nil n, fun _ => isDigit_of_mem_digits, head_digits_ne_zero h⟩

theorem ofDigits_append (ds es : List Char) :
    ofDigits (ds ++ es) = ofDigits ds * tenTo es.length + ofDigits es := by
  induction es using List.reverseRecOn with
  | nil => rw [List.append_nil, List.length_nil, tenTo_zero, Nat.mul_one]; rfl
  | append_singleton es c ih =>
    have hlast : ∀ l : List Char, ofDigits (l ++ [c]) = 10 * ofDigits l + (c.toNat - 48) := by
      intro l
      rw [ofDigits, List.foldl_append]
      rfl
    rw [← List.append_assoc, hlast, hlast, ih, List.length_append, List.length_singleton,
      tenTo_succ]
    ring

theorem ofDigits_zeros (k : Nat) : ofDigits (List.replicate k '0') = 0 := by
  induction k with
  | zero => rfl
  | succ k ih =>
    rw [List.replicate_succ', ofDigits_append, ih]
    simp [ofDigits]

theorem isDigit_of_mem_zeros (h : c ∈ List.replicate k '0') : isDigit c = true := by
  rw [List.eq_of_mem_replicate h]
  rfl

/-! ## The parts of a number -/

theorem digits1?_append (hds : ∀ c ∈ ds, isDigit c = true) (hne : ds ≠ [])
    (hrest : ∀ c ∈ rest.head?, isDigit c = false) : digits1? (ds ++ rest) = some (ds, rest) := by
  have htake : (ds ++ rest).takeWhile isDigit = ds := by
    rw [List.takeWhile_append_of_pos hds]
    cases rest with
    | nil => simp
    | cons c rest => simp [hrest c rfl]
  have hdrop : (ds ++ rest).dropWhile isDigit = rest := by
    rw [List.dropWhile_append_of_pos hds]
    cases rest with
    | nil => rfl
    | cons c rest => simp [hrest c rfl]
  unfold digits1?
  rw [htake, hdrop]
  cases ds with
  | nil => exact absurd rfl hne
  | cons d ds => rfl

theorem wholePart?_append (hds : LeadingDigits ds)
    (hrest : ∀ c ∈ rest.head?, isDigit c = false) : wholePart? (ds ++ rest) = some (ds, rest) := by
  obtain ⟨hne, hall, hzero⟩ := hds
  unfold wholePart?
  split
  · rename_i hcs
    obtain ⟨d, ds, rfl⟩ := List.exists_cons_of_ne_nil hne
    obtain ⟨rfl, _⟩ := List.cons.inj hcs
    exact absurd rfl hzero
  · exact digits1?_append hall hne hrest

theorem fraction?_of_none (h : ∀ c ∈ rest.head?, c ≠ '.') : fraction? rest = some (none, rest) := by
  unfold fraction?
  split
  · exact absurd rfl (h _ rfl)
  · rfl

theorem fraction?_append (hds : ∀ c ∈ ds, isDigit c = true) (hne : ds ≠ [])
    (hrest : ∀ c ∈ rest.head?, isDigit c = false) :
    fraction? ('.' :: (ds ++ rest)) = some (some ds, rest) := by
  simp only [fraction?, digits1?_append hds hne hrest, Option.map_some]

theorem exponent?_of_ends (h : EndsNumber rest) : exponent? rest = some (none, rest) := by
  unfold exponent?
  cases rest with
  | nil => rfl
  | cons c rest =>
    obtain ⟨_, _, hlow, hhigh⟩ := h c rfl
    dsimp only
    rw [if_neg (not_or.mpr ⟨hlow, hhigh⟩)]

theorem exponent?_append (e : Int) (hrest : ∀ c ∈ rest.head?, isDigit c = false) :
    exponent? ('e' :: ((if e < 0 then plain e else floatLayout.plus ++ plain e) ++ rest)) =
      some (some e, rest) := by
  have hread := digits1?_append (fun _ => isDigit_of_mem_digits) (digits_ne_nil e.natAbs) hrest
  unfold exponent? plain
  dsimp only
  rw [if_pos (Or.inl rfl)]
  by_cases he : e < 0
  · simp only [if_pos he, List.cons_append, hread, Option.map_some, ofDigits_digits]
    congr
    omega
  · simp only [if_neg he, floatLayout, List.cons_append, List.nil_append, hread, Option.map_some,
      ofDigits_digits]
    congr
    omega

theorem unsigned?_of_parts (hw : wholePart? cs = some (w, cs')) {cs'' : List Char}
    (hf : fraction? cs' = some (f, cs'')) (ho : exponent? cs'' = some (o, rest)) :
    unsigned? negative cs = (numberOf? negative w f o).map fun v => (v, rest) := by
  unfold unsigned?
  rw [hw, Option.bind_eq_bind, Option.bind_some]
  dsimp only
  rw [hf, Option.bind_eq_bind, Option.bind_some]
  dsimp only
  rw [ho, Option.bind_eq_bind, Option.bind_some]
  dsimp only
  cases numberOf? negative w f o <;> rfl

/-! ## Whole numbers -/

theorem number?_signed (hcs : cs.head? ≠ some '-') :
    number? (if negative then '-' :: cs else cs) = unsigned? negative cs := by
  cases negative with
  | true => rfl
  | false =>
    unfold number?
    split
    · rename_i hminus
      rw [if_neg Bool.false_ne_true] at hminus
      rw [hminus] at hcs
      exact absurd rfl hcs
    · rfl

theorem head_ne_minus (hne : ds ≠ []) (hds : ∀ c ∈ ds, isDigit c = true) (rest : List Char) :
    (ds ++ rest).head? ≠ some '-' := by
  obtain ⟨d, ds, rfl⟩ := List.exists_cons_of_ne_nil hne
  rintro ⟨⟩
  exact absurd (hds '-' (by simp)) (by decide)

/-- A whole number of 64 bits is read back. -/
theorem number?_plain {n : Int} (hn : inWordRange n = true) (hrest : EndsNumber rest) :
    number? (plain n ++ rest) = some (.int n, rest) := by
  have hdigit : ∀ c ∈ rest.head?, isDigit c = false := fun c hc => (hrest c hc).1
  have hwhole : wholePart? (digits n.natAbs ++ rest) = some (digits n.natAbs, rest) := by
    rcases Nat.eq_zero_or_pos n.natAbs with hzero | hpos
    · rw [hzero, show digits 0 = ['0'] by rw [digits_eq]; rfl]
      rfl
    · exact wholePart?_append (leadingDigits_digits hpos) hdigit
  have hsigned : plain n ++ rest =
      if decide (n < 0) then '-' :: (digits n.natAbs ++ rest) else digits n.natAbs ++ rest := by
    unfold plain
    by_cases h : n < 0 <;> simp [h]
  rw [hsigned, number?_signed (head_ne_minus (digits_ne_nil _) (fun _ => isDigit_of_mem_digits) _),
    unsigned?_of_parts hwhole (fraction?_of_none fun c hc => (hrest c hc).2.1)
      (exponent?_of_ends hrest)]
  have hvalue : (if decide (n < 0) then -(ofDigits (digits n.natAbs) : Int)
      else ofDigits (digits n.natAbs)) = n := by
    rw [ofDigits_digits]
    by_cases h : n < 0
    · rw [if_pos (by simpa using h)]
      omega
    · rw [if_neg (by simpa using h)]
      omega
  unfold numberOf?
  simp only [hvalue, hn, if_true, Option.map_some]

/-! ## Floating-point numbers -/

theorem floatOf?_congr {m : Nat} {e' : Int}
    (h : Double.ofDecimal negative n e = Double.ofDecimal negative m e') :
    floatOf? negative n e = floatOf? negative m e' := by
  unfold floatOf?
  rw [h]

theorem floatOf?_of_readsAs {d : Decimal} (h : d.ReadsAs x) :
    floatOf? x.negative d.digits d.exponent = some (.float (.finite x)) := by
  unfold floatOf?
  rw [show Double.ofDecimal x.negative d.digits d.exponent = .finite x from h]

theorem numberOf?_places (negative : Bool) (w ds : List Char) (o : Option Int) :
    numberOf? negative w (some ds) o =
      floatOf? negative (ofDigits (w ++ ds)) (o.getD 0 - ds.length) := rfl

theorem not_isDigit_point : ∀ c ∈ ('.' :: cs).head?, isDigit c = false := by
  rintro c ⟨⟩
  rfl

theorem leadingDigits_append (hds : LeadingDigits ds) (hes : ∀ c ∈ es, isDigit c = true) :
    LeadingDigits (ds ++ es) := by
  obtain ⟨hne, hall, hzero⟩ := hds
  refine ⟨by simp [hne], List.forall_mem_append.mpr ⟨hall, hes⟩, ?_⟩
  rw [List.head?_append_of_ne_nil _ hne]
  exact hzero

theorem leadingDigits_take (hds : LeadingDigits ds) (hk : 0 < k) : LeadingDigits (ds.take k) := by
  obtain ⟨hne, hall, hzero⟩ := hds
  refine ⟨by simp [hne, hk.ne'], fun c hc => hall c (List.mem_of_mem_take hc), ?_⟩
  rw [List.head?_take, if_neg hk.ne']
  exact hzero

/-- The digits on both sides of a point are one number, divided by ten for
each digit after the point. -/
theorem unsigned?_places (hwhole : wholePart? cs = some (w, '.' :: (ds ++ rest)))
    (hds : ∀ c ∈ ds, isDigit c = true) (hne : ds ≠ []) (hrest : EndsNumber rest) :
    unsigned? negative cs =
      (floatOf? negative (ofDigits (w ++ ds)) (-ds.length)).map fun v => (v, rest) := by
  have hdigit : ∀ c ∈ rest.head?, isDigit c = false := fun c hc => (hrest c hc).1
  rw [unsigned?_of_parts hwhole (fraction?_append hds hne hdigit) (exponent?_of_ends hrest),
    numberOf?_places, Option.getD_none, zero_sub]

/-- All digits come after the point. -/
theorem unsigned?_belowPoint (negative : Bool) (hds : LeadingDigits ds)
    (hrest : EndsNumber rest) (k : Nat) :
    unsigned? negative ('0' :: '.' :: (List.replicate k '0' ++ ds ++ rest)) =
      (floatOf? negative (ofDigits ds) (-k - ds.length)).map fun v => (v, rest) := by
  have hall : ∀ c ∈ List.replicate k '0' ++ ds, isDigit c = true :=
    List.forall_mem_append.mpr ⟨fun _ => isDigit_of_mem_zeros, hds.2.1⟩
  have hzeros : ofDigits (['0'] ++ List.replicate k '0') = 0 := ofDigits_zeros (k + 1)
  have hvalue : ofDigits (['0'] ++ (List.replicate k '0' ++ ds)) = ofDigits ds := by
    rw [← List.append_assoc, ofDigits_append, hzeros, Nat.zero_mul, Nat.zero_add]
  rw [unsigned?_places rfl hall (by simp [hds.1]) hrest, hvalue, List.length_append,
    List.length_replicate]
  congr 2
  omega

/-- Zeros fill up to the point. -/
theorem unsigned?_filledUp (negative : Bool) (hds : LeadingDigits ds) (hk : k ≤ 400)
    (hrest : EndsNumber rest) :
    unsigned? negative (ds ++ List.replicate k '0' ++ '.' :: (['0'] ++ rest)) =
      (floatOf? negative (ofDigits ds) k).map fun v => (v, rest) := by
  have hlead := leadingDigits_append hds fun _ => isDigit_of_mem_zeros (k := k)
  have hvalue : ofDigits (ds ++ List.replicate k '0' ++ ['0']) = ofDigits ds * tenTo (k + 1) := by
    rw [List.append_assoc, ← List.replicate_succ', ofDigits_append, ofDigits_zeros,
      List.length_replicate, Nat.add_zero]
  rw [unsigned?_places (wholePart?_append hlead not_isDigit_point) (by simp [isDigit]) (by simp)
    hrest, hvalue]
  congr 1
  exact floatOf?_congr (ofDecimal_ten negative (ofDigits ds) hk)

/-- The point comes between digits. -/
theorem unsigned?_betweenDigits (negative : Bool) (hds : LeadingDigits ds) (hk : 0 < k)
    (hlen : k < ds.length) (hrest : EndsNumber rest) :
    unsigned? negative (ds.take k ++ '.' :: (ds.drop k ++ rest)) =
      (floatOf? negative (ofDigits ds) (k - ds.length)).map fun v => (v, rest) := by
  have hdrop : ∀ c ∈ ds.drop k, isDigit c = true :=
    fun c hc => hds.2.1 c (List.mem_of_mem_drop hc)
  have hne : ds.drop k ≠ [] := by simpa using hlen
  have hwhole : wholePart? (ds.take k ++ '.' :: (ds.drop k ++ rest)) =
      some (ds.take k, '.' :: (ds.drop k ++ rest)) :=
    wholePart?_append (leadingDigits_take hds hk) not_isDigit_point
  rw [unsigned?_places hwhole hdrop hne hrest, List.take_append_drop, List.length_drop]
  congr 2
  omega

/-- Digits with a point among them, or with zeros that fill up to it. -/
theorem unsigned?_pointed (hds : LeadingDigits ds) (hpoint : point ≤ 400) (hrest : EndsNumber rest) :
    unsigned? negative (pointedDigits ds point ++ rest) =
      (floatOf? negative (ofDigits ds) (point - ds.length)).map fun v => (v, rest) := by
  unfold pointedDigits
  split
  · have hbelow := unsigned?_belowPoint negative hds hrest (-point).toNat
    rw [show -((-point).toNat : Int) = point by omega] at hbelow
    exact hbelow
  · dsimp only
    split
    · have hfilled := unsigned?_filledUp negative hds
        (k := point.toNat - ds.length) (by omega) hrest
      rw [show ((point.toNat - ds.length : Nat) : Int) = point - ds.length by omega] at hfilled
      rw [List.append_assoc _ _ rest]
      exact hfilled
    · have hbetween := unsigned?_betweenDigits negative hds (k := point.toNat)
        (by omega) (by omega) hrest
      rw [show ((point.toNat : Nat) : Int) = point by omega] at hbetween
      rw [List.append_assoc, List.cons_append]
      exact hbetween

/-- One digit, the others after a point, and an exponent. -/
theorem unsigned?_withExponent (hds : LeadingDigits ds) (hrest : EndsNumber rest) :
    unsigned? negative (withExponent floatLayout ds e ++ rest) =
      (floatOf? negative (ofDigits ds) (e - (ds.length - 1))).map fun v => (v, rest) := by
  have hexp := exponent?_append e fun c hc => (hrest c hc).1
  obtain ⟨d, more, rfl⟩ := List.exists_cons_of_ne_nil hds.1
  obtain ⟨_, hall, hzero⟩ := hds
  have hlead : LeadingDigits [d] := by
    refine ⟨by simp, ?_, hzero⟩
    intro c hc
    rw [List.mem_singleton.mp hc]
    exact hall d (by simp)
  unfold withExponent
  generalize (if e < 0 then plain e else floatLayout.plus ++ plain e) = t at hexp ⊢
  cases more with
  | nil =>
    have hwhole : wholePart? ([d] ++ 'e' :: (t ++ rest)) = some ([d], 'e' :: (t ++ rest)) :=
      wholePart?_append hlead (by rintro c ⟨⟩; rfl)
    have hnone : fraction? ('e' :: (t ++ rest)) = some (none, 'e' :: (t ++ rest)) :=
      fraction?_of_none (by rintro c ⟨⟩; decide)
    rw [show [d] ++ 'e' :: t ++ rest = [d] ++ 'e' :: (t ++ rest) by simp,
      unsigned?_of_parts hwhole hnone hexp]
    simp [numberOf?]
  | cons d' more =>
    have hfraction : fraction? ('.' :: (d' :: more ++ 'e' :: (t ++ rest))) =
        some (some (d' :: more), 'e' :: (t ++ rest)) :=
      fraction?_append (fun c hc => hall c (List.mem_cons_of_mem _ hc)) (by simp)
        (by rintro c ⟨⟩; rfl)
    have hwhole : wholePart? ([d] ++ '.' :: (d' :: more ++ 'e' :: (t ++ rest))) =
        some ([d], '.' :: (d' :: more ++ 'e' :: (t ++ rest))) :=
      wholePart?_append hlead not_isDigit_point
    rw [show d :: '.' :: d' :: more ++ 'e' :: t ++ rest =
      [d] ++ '.' :: (d' :: more ++ 'e' :: (t ++ rest)) by simp,
      unsigned?_of_parts hwhole hfraction hexp, numberOf?_places]
    simp

/-- The text of a number without its sign. -/
theorem unsigned?_shortest (x : Finite) (hrest : EndsNumber rest) :
    let d := x.shortest
    let ds := digits d.digits
    let e : Int := d.exponent + ds.length - 1
    unsigned? x.negative ((if d.digits = 0 then ['0', '.', '0']
      else if floatLayout.leastPlain ≤ e ∧ e < floatLayout.plainEnd then pointedDigits ds (e + 1)
      else withExponent floatLayout ds e) ++ rest) = some (.float (.finite x), rest) := by
  intro d ds e
  have hread : floatOf? x.negative d.digits d.exponent = some (.float (.finite x)) :=
    floatOf?_of_readsAs (readsAs_shortest x)
  rcases Nat.eq_zero_or_pos d.digits with hzero | hpos
  · rw [if_pos hzero]
    rw [hzero] at hread
    have hwhole : wholePart? (['0', '.', '0'] ++ rest) = some (['0'], '.' :: (['0'] ++ rest)) := rfl
    rw [unsigned?_places hwhole (by simp [isDigit]) (by simp) hrest,
      show ofDigits (['0'] ++ ['0']) = 0 from rfl]
    -- zero has one form, whatever its exponent
    exact congrArg (Option.map fun v => (v, rest)) hread
  · have hlead : LeadingDigits ds := leadingDigits_digits hpos
    rw [if_neg hpos.ne']
    split
    · rename_i hplain
      have hend : e < 16 := hplain.2
      rw [unsigned?_pointed hlead (by omega) hrest, ofDigits_digits,
        show e + 1 - (ds.length : Int) = d.exponent by omega, hread]
      rfl
    · rw [unsigned?_withExponent hlead hrest, ofDigits_digits,
        show e - ((ds.length : Int) - 1) = d.exponent by omega, hread]
      rfl

/-! ## Where numbers begin -/

theorem wholePart?_of_not_digit (h : isDigit c = false) : wholePart? (c :: cs) = none := by
  unfold wholePart?
  split
  · rename_i hzero
    rw [(List.cons.inj hzero).1] at h
    exact absurd h (by decide)
  · simp [digits1?, h]

theorem unsigned?_of_not_digit (h : isDigit c = false) : unsigned? negative (c :: cs) = none := by
  rw [unsigned?, wholePart?_of_not_digit h]
  rfl

/-- A finite floating-point number is read back. -/
theorem number?_finiteText (x : Finite) (hrest : EndsNumber rest) :
    number? (finiteText floatLayout x ++ rest) = some (.float (.finite x), rest) := by
  have hread := unsigned?_shortest x hrest
  unfold finiteText
  dsimp only at hread ⊢
  generalize (if x.shortest.digits = 0 then ['0', '.', '0'] else _) = body at hread ⊢
  have hhead : (body ++ rest).head? ≠ some '-' := by
    intro hminus
    obtain ⟨more, hcs⟩ := List.head?_eq_some_iff.mp hminus
    rw [hcs, unsigned?_of_not_digit (by decide)] at hread
    cases hread
  rw [show (if x.negative = true then '-' :: body else body) ++ rest =
    if x.negative = true then '-' :: (body ++ rest) else body ++ rest by split <;> rfl,
    number?_signed hhead, hread]

/-- A number begins with a digit or a minus. -/
theorem head_of_number? {r : Value × List Char} (h : number? cs = some r) :
    ∃ c more, cs = c :: more ∧ (isDigit c = true ∨ c = '-') := by
  unfold number? at h
  split at h
  · exact ⟨_, _, rfl, Or.inr rfl⟩
  · cases cs with
    | nil => cases h
    | cons c more =>
      refine ⟨c, more, rfl, Or.inl ?_⟩
      by_contra hdigit
      rw [unsigned?_of_not_digit (by simpa using hdigit)] at h
      cases h

end

end Unloop.Json
