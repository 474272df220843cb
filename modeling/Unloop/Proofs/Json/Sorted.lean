-- The laws of sorted members. A value whose members are sorted on every level
-- has the text, the depth and the height of the value itself, and holds the
-- same under each name. It is what reading the canonical text gives.
import Unloop.Digest
import Mathlib.Data.List.Sort
import Mathlib.Data.Nat.Basic
import Mathlib.Order.Basic

namespace Unloop.Json

/-! ## Induction over values -/

mutual

/-- A law holds for every value if it holds for each container whose parts
have it, and for the values without parts. -/
@[elab_as_elim, induction_eliminator]
theorem Value.by_parts {motive : Value → Prop} (null : motive .null)
    (bool : ∀ b, motive (.bool b)) (int : ∀ n, motive (.int n)) (float : ∀ x, motive (.float x))
    (str : ∀ s, motive (.str s)) (arr : ∀ items, (∀ v ∈ items, motive v) → motive (.arr items))
    (obj : ∀ members, (∀ m ∈ members, motive m.2) → motive (.obj members)) :
    ∀ v : Value, motive v
  | .null => null
  | .bool b => bool b
  | .int n => int n
  | .float x => float x
  | .str s => str s
  | .arr items => arr items (items_by_parts null bool int float str arr obj items)
  | .obj members => obj members (members_by_parts null bool int float str arr obj members)

theorem items_by_parts {motive : Value → Prop} (null : motive .null)
    (bool : ∀ b, motive (.bool b)) (int : ∀ n, motive (.int n)) (float : ∀ x, motive (.float x))
    (str : ∀ s, motive (.str s)) (arr : ∀ items, (∀ v ∈ items, motive v) → motive (.arr items))
    (obj : ∀ members, (∀ m ∈ members, motive m.2) → motive (.obj members)) :
    ∀ vs : List Value, ∀ v ∈ vs, motive v
  | [] => fun _ h => nomatch h
  | w :: vs => List.forall_mem_cons.mpr
      ⟨w.by_parts null bool int float str arr obj,
        items_by_parts null bool int float str arr obj vs⟩

theorem members_by_parts {motive : Value → Prop} (null : motive .null)
    (bool : ∀ b, motive (.bool b)) (int : ∀ n, motive (.int n)) (float : ∀ x, motive (.float x))
    (str : ∀ s, motive (.str s)) (arr : ∀ items, (∀ v ∈ items, motive v) → motive (.arr items))
    (obj : ∀ members, (∀ m ∈ members, motive m.2) → motive (.obj members)) :
    ∀ ms : List (String × Value), ∀ m ∈ ms, motive m.2
  | [] => fun _ h => nomatch h
  | (_, w) :: ms => List.forall_mem_cons.mpr
      ⟨w.by_parts null bool int float str arr obj,
        members_by_parts null bool int float str arr obj ms⟩

end

/-! ## Sorted values -/

mutual

/-- The value with the members of every object in it sorted by name. -/
def Value.sorted : Value → Value
  | .arr items => .arr (itemsSorted items)
  | .obj ms => .obj (sortedByName (membersSorted ms))
  | v => v

/-- Some values, each sorted. -/
def itemsSorted : List Value → List Value
  | [] => []
  | v :: vs => v.sorted :: itemsSorted vs

/-- Some members, the value of each sorted. -/
def membersSorted : List (String × Value) → List (String × Value)
  | [] => []
  | (name, v) :: ms => (name, v.sorted) :: membersSorted ms

end

section

variable {α β : Type} {v w : Value} {vs : List Value} {ms ns : Members} {name : String} {n : Nat}

/-! ## Parts one by one -/

theorem itemTexts_eq (vs : List Value) : itemTexts vs = vs.map Value.text := by
  induction vs with
  | nil => rfl
  | cons v vs ih => rw [itemTexts, ih, List.map_cons]

theorem memberTexts_eq (ms : Members) : memberTexts ms = ms.map fun m => (m.1, m.2.text) := by
  induction ms with
  | nil => rfl
  | cons m ms ih => rw [memberTexts, ih, List.map_cons]

theorem itemsSorted_eq (vs : List Value) : itemsSorted vs = vs.map Value.sorted := by
  induction vs with
  | nil => rfl
  | cons v vs ih => rw [itemsSorted, ih, List.map_cons]

theorem membersSorted_eq (ms : Members) :
    membersSorted ms = ms.map fun m => (m.1, m.2.sorted) := by
  induction ms with
  | nil => rfl
  | cons m ms ih => rw [membersSorted, ih, List.map_cons]

theorem itemsDepth_le : itemsDepth vs ≤ n ↔ ∀ v ∈ vs, v.depth ≤ n := by
  induction vs with
  | nil => simp [itemsDepth]
  | cons v vs ih => rw [itemsDepth, Nat.max_le, ih, List.forall_mem_cons]

theorem membersDepth_le : membersDepth ms ≤ n ↔ ∀ m ∈ ms, m.2.depth ≤ n := by
  induction ms with
  | nil => simp [membersDepth]
  | cons m ms ih => rw [membersDepth, Nat.max_le, ih, List.forall_mem_cons]

theorem itemsHeight_le : itemsHeight vs ≤ n ↔ ∀ v ∈ vs, v.height ≤ n := by
  induction vs with
  | nil => simp [itemsHeight]
  | cons v vs ih => rw [itemsHeight, Nat.max_le, ih, List.forall_mem_cons]

theorem membersHeight_le : membersHeight ms ≤ n ↔ ∀ m ∈ ms, m.2.height ≤ n := by
  induction ms with
  | nil => simp [membersHeight]
  | cons m ms ih => rw [membersHeight, Nat.max_le, ih, List.forall_mem_cons]

theorem itemsWordsOnly_iff : itemsWordsOnly vs = true ↔ ∀ v ∈ vs, v.wordsOnly = true := by
  induction vs with
  | nil => simp [itemsWordsOnly]
  | cons v vs ih => rw [itemsWordsOnly, Bool.and_eq_true, ih, List.forall_mem_cons]

theorem membersWordsOnly_iff : membersWordsOnly ms = true ↔ ∀ m ∈ ms, m.2.wordsOnly = true := by
  induction ms with
  | nil => simp [membersWordsOnly]
  | cons m ms ih => rw [membersWordsOnly, Bool.and_eq_true, ih, List.forall_mem_cons]

/-- Containers are values, so no more of them are inside one another. -/
theorem depth_le_height (v : Value) : v.depth ≤ v.height := by
  induction v with
  | arr items ih =>
    rw [Value.depth, Value.height, Nat.add_le_add_iff_right, itemsDepth_le]
    exact fun v hv => Nat.le_trans (ih v hv) (itemsHeight_le.mp (Nat.le_refl _) v hv)
  | obj ms ih =>
    rw [Value.depth, Value.height, Nat.add_le_add_iff_right, membersDepth_le]
    exact fun m hm => Nat.le_trans (ih m hm) (membersHeight_le.mp (Nat.le_refl _) m hm)
  | _ => exact Nat.zero_le _

/-! ## Members sorted by name -/

theorem sortedByName_perm (ms : List (String × α)) : (sortedByName ms).Perm ms :=
  List.mergeSort_perm _ _

theorem sortedByName_map (f : α → β) (ms : List (String × α)) :
    sortedByName (ms.map fun m => (m.1, f m.2)) = (sortedByName ms).map fun m => (m.1, f m.2) := by
  unfold sortedByName
  rw [List.map_mergeSort]
  intro a _ b _
  rfl

theorem sortedByName_sortedByName (ms : List (String × α)) :
    sortedByName (sortedByName ms) = sortedByName ms := by
  unfold sortedByName
  apply List.mergeSort_of_pairwise
  apply List.pairwise_mergeSort
  · intro a b c hab hbc
    exact decide_eq_true (String.le_trans (of_decide_eq_true hab) (of_decide_eq_true hbc))
  · intro a b
    rw [Bool.or_eq_true, decide_eq_true_eq, decide_eq_true_eq]
    exact String.le_total a.1 b.1

/-- Members of different names come into their order by insertion as well. -/
theorem sortedByName_eq_insertionSort {ms : List (String × α)} (hnames : (ms.map Prod.fst).Nodup) :
    sortedByName ms = ms.insertionSort fun a b => a.1 ≤ b.1 := by
  have total : Std.Total fun a b : String × α => a.1 ≤ b.1 := ⟨fun a b => String.le_total a.1 b.1⟩
  have trans : IsTrans (String × α) fun a b => a.1 ≤ b.1 := ⟨fun _ _ _ => String.le_trans⟩
  refine ((sortedByName_perm ms).trans (List.perm_insertionSort _ ms).symm).eq_of_pairwise ?_
    (List.pairwise_mergeSort' _ ms) (List.pairwise_insertionSort _ ms)
  intro a b ha hb hab hba
  have ha := (sortedByName_perm ms).mem_iff.mp ha
  have hb := (List.mem_insertionSort _).mp hb
  exact List.inj_on_of_nodup_map hnames ha hb (String.le_antisymm hab hba)

theorem sortedByName_membersSorted (ms : Members) :
    sortedByName (membersSorted ms) = (sortedByName ms).map fun m => (m.1, m.2.sorted) := by
  rw [membersSorted_eq, sortedByName_map]

theorem sortedByName_memberTexts (ms : Members) :
    sortedByName (memberTexts ms) = (sortedByName ms).map fun m => (m.1, m.2.text) := by
  rw [memberTexts_eq, sortedByName_map]

/-- The members of a sorted object are the sorted members, in some order. -/
theorem forall_sorted_members {p : String × Value → Prop} :
    (∀ m ∈ sortedByName (membersSorted ms), p m) ↔ ∀ m ∈ ms, p (m.1, m.2.sorted) := by
  rw [membersSorted_eq]
  constructor
  · intro h m hm
    exact h _ ((sortedByName_perm _).mem_iff.mpr (List.mem_map.mpr ⟨m, hm, rfl⟩))
  · intro h m hm
    obtain ⟨m', hm', rfl⟩ := List.mem_map.mp ((sortedByName_perm _).mem_iff.mp hm)
    exact h m' hm'

theorem names_membersSorted (ms : Members) :
    (membersSorted ms).map Prod.fst = ms.map Prod.fst := by
  rw [membersSorted_eq, List.map_map]
  rfl

/-- The text of an object, with a sort that can be followed step by step. -/
theorem text_obj (hnames : (ms.map Prod.fst).Nodup) :
    (Value.obj ms).text =
      '\x7b' :: withCommas (((memberTexts ms).insertionSort fun a b => a.1 ≤ b.1).map memberText) ++
        ['\x7d'] := by
  have hnames' : ((memberTexts ms).map Prod.fst).Nodup := by
    rw [memberTexts_eq, List.map_map]
    exact hnames
  rw [Value.text, sortedByName_eq_insertionSort hnames']

/-! ## What sorting leaves as it is -/

/-- A value and its sorted form have one text. -/
theorem text_sorted (v : Value) : v.sorted.text = v.text := by
  induction v with
  | arr items ih =>
    have htexts : itemTexts (itemsSorted items) = itemTexts items := by
      rw [itemTexts_eq, itemTexts_eq, itemsSorted_eq, List.map_map]
      exact List.map_congr_left ih
    rw [Value.sorted, Value.text, htexts, Value.text]
  | obj ms ih =>
    have htexts : memberTexts (sortedByName (membersSorted ms)) = sortedByName (memberTexts ms) := by
      rw [memberTexts_eq, sortedByName_membersSorted, sortedByName_memberTexts, List.map_map]
      apply List.map_congr_left
      intro m hm
      rw [Function.comp_apply, ih m ((sortedByName_perm ms).mem_iff.mp hm)]
    rw [Value.sorted, Value.text, htexts, sortedByName_sortedByName, Value.text]
  | _ => rfl

/-- A sorted value stays as it is when it is sorted again. -/
theorem sorted_sorted (v : Value) : v.sorted.sorted = v.sorted := by
  induction v with
  | arr items ih =>
    rw [Value.sorted, Value.sorted, itemsSorted_eq, itemsSorted_eq, List.map_map]
    exact congrArg Value.arr (List.map_congr_left ih)
  | obj ms ih =>
    rw [Value.sorted, Value.sorted, sortedByName_membersSorted, sortedByName_membersSorted,
      sortedByName_map, sortedByName_sortedByName, List.map_map]
    refine congrArg Value.obj (List.map_congr_left fun m hm => ?_)
    rw [Function.comp_apply, ih m ((sortedByName_perm ms).mem_iff.mp hm)]
  | _ => rfl

theorem depth_sorted (v : Value) : v.sorted.depth = v.depth := by
  induction v with
  | arr items ih =>
    rw [Value.sorted, Value.depth, Value.depth, Nat.add_right_cancel_iff]
    refine eq_of_forall_ge_iff fun n => ?_
    rw [itemsDepth_le, itemsDepth_le, itemsSorted_eq, List.forall_mem_map]
    exact forall₂_congr fun v hv => by rw [ih v hv]
  | obj ms ih =>
    rw [Value.sorted, Value.depth, Value.depth, Nat.add_right_cancel_iff]
    refine eq_of_forall_ge_iff fun n => ?_
    rw [membersDepth_le, membersDepth_le, forall_sorted_members]
    exact forall₂_congr fun m hm => by rw [ih m hm]
  | _ => rfl

theorem height_sorted (v : Value) : v.sorted.height = v.height := by
  induction v with
  | arr items ih =>
    rw [Value.sorted, Value.height, Value.height, Nat.add_right_cancel_iff]
    refine eq_of_forall_ge_iff fun n => ?_
    rw [itemsHeight_le, itemsHeight_le, itemsSorted_eq, List.forall_mem_map]
    exact forall₂_congr fun v hv => by rw [ih v hv]
  | obj ms ih =>
    rw [Value.sorted, Value.height, Value.height, Nat.add_right_cancel_iff]
    refine eq_of_forall_ge_iff fun n => ?_
    rw [membersHeight_le, membersHeight_le, forall_sorted_members]
    exact forall₂_congr fun m hm => by rw [ih m hm]
  | _ => rfl

theorem wordsOnly_sorted (v : Value) : v.sorted.wordsOnly = v.wordsOnly := by
  induction v with
  | arr items ih =>
    rw [Value.sorted, Value.wordsOnly, Value.wordsOnly, Bool.eq_iff_iff, itemsWordsOnly_iff,
      itemsWordsOnly_iff, itemsSorted_eq, List.forall_mem_map]
    exact forall₂_congr fun v hv => by rw [ih v hv]
  | obj ms ih =>
    rw [Value.sorted, Value.wordsOnly, Value.wordsOnly, Bool.eq_iff_iff, membersWordsOnly_iff,
      membersWordsOnly_iff, forall_sorted_members]
    exact forall₂_congr fun m hm => by rw [ih m hm]
  | _ => rfl

theorem canonical?_sorted (v : Value) : v.sorted.canonical? = v.canonical? := by
  unfold Value.canonical? Value.isWritable
  rw [wordsOnly_sorted, depth_sorted, text_sorted]

/-! ## What is under a name -/

theorem get?_eq_some_iff (hnames : (ms.map Prod.fst).Nodup) :
    Members.get? ms name = some v ↔ (name, v) ∈ ms := by
  induction ms with
  | nil => simp [Members.get?]
  | cons m ms ih =>
    obtain ⟨other, w⟩ := m
    obtain ⟨hm, htail⟩ := List.nodup_cons.mp hnames
    by_cases hname : other = name
    · subst hname
      have hfresh : (other, v) ∉ ms := fun hv => hm (List.mem_map.mpr ⟨_, hv, rfl⟩)
      simp [Members.get?, hfresh, eq_comm]
    · have hne : (name, v) ≠ (other, w) := fun heq => hname (congrArg Prod.fst heq).symm
      rw [List.mem_cons, or_iff_right hne, ← ih htail]
      simp [Members.get?, hname]

theorem get?_of_perm (hnames : (ms.map Prod.fst).Nodup) (h : ms.Perm ns) (name : String) :
    Members.get? ns name = Members.get? ms name := by
  have hnames' : (ns.map Prod.fst).Nodup := (h.map _).nodup_iff.mp hnames
  refine Option.ext fun v => ?_
  rw [get?_eq_some_iff hnames, get?_eq_some_iff hnames', h.mem_iff]

/-- In a sorted object each name has its value, sorted. -/
theorem get?_sorted (hnames : (ms.map Prod.fst).Nodup) (name : String) :
    Members.get? (sortedByName (membersSorted ms)) name = (Members.get? ms name).map Value.sorted := by
  have hnames' : ((membersSorted ms).map Prod.fst).Nodup := by
    rw [names_membersSorted]
    exact hnames
  rw [get?_of_perm hnames' (sortedByName_perm _).symm, membersSorted_eq, Members.get?,
    List.find?_map, Option.map_map, Members.get?, Option.map_map]
  rfl

end

end Unloop.Json
