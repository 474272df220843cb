-- Values as reading gives them: no object has two members of one name, and no
-- floating-point number is infinite or undefined. Of such a value the
-- canonical text tells everything but the order of members.
import Unloop.Proofs.Json.Sorted
import Mathlib.Data.List.Nodup

namespace Unloop.Json

open Unloop.Number

/-- The names in every object differ, and every floating-point number is
finite. -/
inductive Value.Proper : Value → Prop
  | null : Proper .null
  | bool (b : Bool) : Proper (.bool b)
  | int (n : Int) : Proper (.int n)
  | float {x : Double} (finite : x.isFinite = true) : Proper (.float x)
  | str (s : String) : Proper (.str s)
  | arr {items : List Value} (parts : ∀ v ∈ items, v.Proper) : Proper (.arr items)
  | obj {ms : Members} (names : (ms.map Prod.fst).Nodup) (parts : ∀ m ∈ ms, m.2.Proper) :
      Proper (.obj ms)

section

variable {v : Value} {vs : List Value} {ms before : Members} {name : String} {cs rest : List Char}
  {m : String × Value} {fuel depth : Nat} {read : List Char → Option (Value × List Char)}

/-! ## Numbers -/

theorem ofParts_ne_nan (negative : Bool) (n : Nat) (e : Int) :
    Double.ofParts negative n e ≠ .nan := by
  unfold Double.ofParts
  split <;> simp

theorem ofRatio_ne_nan (negative : Bool) (a b : Nat) : Double.ofRatio negative a b ≠ .nan := by
  unfold Double.ofRatio Double.zero
  dsimp only
  split
  · exact ofParts_ne_nan _ _ _
  · split <;> exact ofParts_ne_nan _ _ _

theorem ofDecimal_ne_nan (negative : Bool) (n : Nat) (e : Int) :
    Double.ofDecimal negative n e ≠ .nan := by
  unfold Double.ofDecimal Double.zero
  split
  · exact ofParts_ne_nan _ _ _
  split
  · simp
  split
  · exact ofParts_ne_nan _ _ _
  split <;> exact ofRatio_ne_nan _ _ _

theorem proper_of_floatOf? {negative : Bool} {n : Nat} {e : Int}
    (h : floatOf? negative n e = some v) : v.Proper := by
  unfold floatOf? at h
  split at h
  · cases h
  · rename_i x hx
    obtain rfl := Option.some.inj h
    cases hd : Double.ofDecimal negative n e with
    | finite x => exact .float rfl
    | infinite s => exact absurd hd (hx s)
    | nan => exact absurd hd (ofDecimal_ne_nan _ _ _)

theorem proper_of_numberOf? {negative : Bool} {whole : List Char} {fraction : Option (List Char)}
    {exponent : Option Int} (h : numberOf? negative whole fraction exponent = some v) :
    v.Proper := by
  unfold numberOf? at h
  split at h
  · dsimp only at h
    generalize (if negative = true then -(ofDigits whole : Int) else _) = n at h
    split at h
    · obtain rfl := Option.some.inj h
      exact .int _
    · exact proper_of_floatOf? h
  · exact proper_of_floatOf? h

theorem proper_of_number? (h : number? cs = some (v, rest)) : v.Proper := by
  have hunsigned : ∀ {negative : Bool} {cs : List Char},
      unsigned? negative cs = some (v, rest) → v.Proper := by
    intro negative cs h
    simp only [unsigned?, Option.bind_eq_bind, Option.bind_eq_some_iff] at h
    obtain ⟨⟨whole, _⟩, _, ⟨fraction, _⟩, _, ⟨exponent, _⟩, _, w, hnumber, hw⟩ := h
    obtain rfl : w = v := congrArg Prod.fst (Option.some.inj hw)
    exact proper_of_numberOf? hnumber
  unfold number? at h
  split at h
  · exact hunsigned h
  · exact hunsigned h

/-! ## Members -/

theorem mem_put (h : m ∈ Members.put name v ms) : m = (name, v) ∨ m ∈ ms := by
  induction ms with
  | nil => exact Or.inl (List.mem_singleton.mp h)
  | cons m' ms ih =>
    unfold Members.put at h
    split at h
    · exact (List.mem_cons.mp h).imp_right (List.mem_cons_of_mem _)
    · rcases List.mem_cons.mp h with rfl | h
      · exact Or.inr List.mem_cons_self
      · exact (ih h).imp_right (List.mem_cons_of_mem _)

/-- A new name comes after the others. -/
theorem put_of_not_mem (h : name ∉ ms.map Prod.fst) : Members.put name v ms = ms ++ [(name, v)] := by
  induction ms with
  | nil => rfl
  | cons m ms ih =>
    rw [List.map_cons, List.mem_cons, not_or] at h
    unfold Members.put
    rw [if_neg (by simpa using Ne.symm h.1), ih h.2, List.cons_append]

/-- A name that is there keeps its place. -/
theorem names_put_of_mem (h : name ∈ ms.map Prod.fst) :
    (Members.put name v ms).map Prod.fst = ms.map Prod.fst := by
  induction ms with
  | nil => cases h
  | cons m ms ih =>
    unfold Members.put
    by_cases hname : m.1 = name
    · rw [if_pos (by simpa using hname), List.map_cons, List.map_cons, hname]
    · rw [List.map_cons, List.mem_cons, or_iff_right (Ne.symm hname)] at h
      rw [if_neg (by simpa using hname), List.map_cons, List.map_cons, ih h]

theorem nodup_names_put (h : (ms.map Prod.fst).Nodup) :
    ((Members.put name v ms).map Prod.fst).Nodup := by
  by_cases hname : name ∈ ms.map Prod.fst
  · rw [names_put_of_mem hname]
    exact h
  · rw [put_of_not_mem hname, List.map_append, List.map_singleton]
    exact h.append (List.nodup_singleton _) (List.disjoint_singleton.mpr hname)

/-! ## What is read -/

theorem proper_of_items? (hread : ∀ cs v rest, read cs = some (v, rest) → v.Proper)
    (h : items? read fuel cs = some (vs, rest)) : ∀ v ∈ vs, v.Proper := by
  induction fuel generalizing cs vs rest with
  | zero => cases h
  | succ fuel ih =>
    simp only [items?, Option.bind_eq_bind, Option.bind_eq_some_iff] at h
    obtain ⟨⟨w, after⟩, hw, h⟩ := h
    dsimp only at h
    split at h
    · simp only [Option.bind_eq_some_iff] at h
      obtain ⟨⟨more, after'⟩, hmore, hvs⟩ := h
      obtain rfl : w :: more = vs := congrArg Prod.fst (Option.some.inj hvs)
      exact List.forall_mem_cons.mpr ⟨hread _ _ _ hw, ih hmore⟩
    · obtain rfl : [w] = vs := congrArg Prod.fst (Option.some.inj h)
      exact List.forall_mem_singleton.mpr (hread _ _ _ hw)
    · cases h

theorem proper_of_member? (hread : ∀ cs v rest, read cs = some (v, rest) → v.Proper)
    (h : member? read cs = some (m, rest)) : m.2.Proper := by
  unfold member? at h
  split at h
  · simp only [Option.bind_eq_bind, Option.bind_eq_some_iff] at h
    obtain ⟨⟨name, after⟩, _, h⟩ := h
    dsimp only at h
    split at h
    · simp only [Option.bind_eq_some_iff] at h
      obtain ⟨⟨w, after'⟩, hw, hm⟩ := h
      obtain rfl : (name, w) = m := congrArg Prod.fst (Option.some.inj hm)
      exact hread _ _ _ hw
    · cases h
  · cases h

theorem proper_of_members? (hread : ∀ cs v rest, read cs = some (v, rest) → v.Proper)
    (hbefore : (Value.obj before).Proper) (h : members? read fuel before cs = some (ms, rest)) :
    (Value.obj ms).Proper := by
  induction fuel generalizing before cs with
  | zero => cases h
  | succ fuel ih =>
    simp only [members?, Option.bind_eq_bind, Option.bind_eq_some_iff] at h
    obtain ⟨⟨⟨name, w⟩, after⟩, hw, h⟩ := h
    have hnow : (Value.obj (Members.put name w before)).Proper := by
      cases hbefore with
      | obj names parts =>
        refine .obj (nodup_names_put names) fun m hm => ?_
        rcases mem_put hm with rfl | hm
        · exact proper_of_member? hread hw
        · exact parts m hm
    dsimp only at h
    split at h
    · exact ih hnow h
    · obtain rfl : Members.put name w before = ms := congrArg Prod.fst (Option.some.inj h)
      exact hnow
    · cases h

theorem proper_empty : (Value.obj []).Proper := .obj List.nodup_nil fun _ hm => nomatch hm

theorem proper_of_scalar? (h : scalar? cs = some (v, rest)) : v.Proper := by
  unfold scalar? at h
  split at h
  · obtain rfl := congrArg Prod.fst (Option.some.inj h)
    exact .null
  · obtain rfl := congrArg Prod.fst (Option.some.inj h)
    exact .bool _
  · obtain rfl := congrArg Prod.fst (Option.some.inj h)
    exact .bool _
  · obtain ⟨⟨s, after⟩, _, hs⟩ := Option.map_eq_some_iff.mp h
    obtain rfl := congrArg Prod.fst hs
    exact .str _
  · exact proper_of_number? h

theorem proper_of_value? (h : value? depth cs = some (v, rest)) : v.Proper := by
  induction depth generalizing cs v rest with
  | zero => exact proper_of_scalar? h
  | succ depth ih =>
    unfold value? at h
    split at h
    · split at h
      · obtain rfl := congrArg Prod.fst (Option.some.inj h)
        exact .arr (List.forall_mem_nil _)
      · obtain ⟨⟨vs, after⟩, hvs, hv⟩ := Option.map_eq_some_iff.mp h
        obtain rfl := congrArg Prod.fst hv
        exact .arr (proper_of_items? (fun _ _ _ => ih) hvs)
    · split at h
      · obtain rfl := congrArg Prod.fst (Option.some.inj h)
        exact proper_empty
      · obtain ⟨⟨ms, after⟩, hms, hv⟩ := Option.map_eq_some_iff.mp h
        obtain rfl := congrArg Prod.fst hv
        exact proper_of_members? (fun _ _ _ => ih) proper_empty hms
    · exact proper_of_scalar? h

/-- Every value that is read is proper. -/
theorem proper_of_ofBytes? {bytes : Text.Bytes} (h : ofBytes? bytes = some v) : v.Proper := by
  obtain ⟨cs, _, hcs⟩ := Option.bind_eq_some_iff.mp h
  simp only [ofChars?, Option.bind_eq_bind, Option.bind_eq_some_iff] at hcs
  obtain ⟨⟨w, after⟩, hw, hv⟩ := hcs
  dsimp only at hv
  split at hv
  · obtain rfl := Option.some.inj hv
    exact proper_of_value? hw
  · cases hv

/-! ## Values that are made -/

/-- The value is proper, and at most `n` values are inside one another. -/
def Value.Within (n : Nat) (v : Value) : Prop := v.Proper ∧ v.height ≤ n

theorem within_int (n : Int) : (Value.int n).Within 1 := ⟨.int n, Nat.le_refl _⟩

theorem within_str (s : String) : (Value.str s).Within 1 := ⟨.str s, Nat.le_refl _⟩

theorem within_bool (b : Bool) : (Value.bool b).Within 1 := ⟨.bool b, Nat.le_refl _⟩

theorem within_float {x : Double} (h : x.isFinite = true) : (Value.float x).Within 1 :=
  ⟨.float h, Nat.le_refl _⟩

theorem within_ofText? (o : Option String) : (Value.ofText? o).Within 1 := by
  cases o with
  | none => exact ⟨.null, Nat.le_refl _⟩
  | some s => exact within_str s

theorem within_ofInt? (o : Option Int) : (Value.ofInt? o).Within 1 := by
  cases o with
  | none => exact ⟨.null, Nat.le_refl _⟩
  | some n => exact within_int n

theorem within_ofBool? (o : Option Bool) : (Value.ofBool? o).Within 1 := by
  cases o with
  | none => exact ⟨.null, Nat.le_refl _⟩
  | some b => exact within_bool b

theorem Value.Within.mono {k n : Nat} (h : v.Within k) (hkn : k ≤ n) : v.Within n :=
  ⟨h.1, Nat.le_trans h.2 hkn⟩

theorem within_arr {n : Nat} (h : ∀ v ∈ vs, v.Within n) : (Value.arr vs).Within (n + 1) :=
  ⟨.arr fun v hv => (h v hv).1,
    Nat.succ_le_succ (itemsHeight_le.mpr fun v hv => (h v hv).2)⟩

theorem within_obj {n : Nat} (hnames : (ms.map Prod.fst).Nodup) (h : ∀ m ∈ ms, m.2.Within n) :
    (Value.obj ms).Within (n + 1) :=
  ⟨.obj hnames fun m hm => (h m hm).1,
    Nat.succ_le_succ (membersHeight_le.mpr fun m hm => (h m hm).2)⟩

end

end Unloop.Json
