-- What is written is read back. Reading the canonical text of a value gives
-- the value with its members sorted, so values of one text differ in the order
-- of members only.
import Unloop.Proofs.Json.Numbers
import Unloop.Proofs.Json.Proper
import Unloop.Proofs.Json.Strings

namespace Unloop.Json

open Unloop.Number Unloop.Text

/-- A reader takes a text for a value, whatever follows that cannot belong to
a number. -/
def Reads (read : List Char → Option (Value × List Char)) (t : List Char) (v : Value) : Prop :=
  ∀ rest, EndsNumber rest → read (skipGap (t ++ rest)) = some (v, rest)

/-- A text that no white space and no closing bracket starts. -/
def StartsValue (t : List Char) : Prop :=
  ∃ c more, t = c :: more ∧ isGap c = false ∧ c ≠ ']'

section

variable {v : Value} {vs : List Value} {ms : Members} {c : Char} {cs t rest : List Char}
  {s : String} {fuel d : Nat} {read : List Char → Option (Value × List Char)}

/-! ## Where values begin and end -/

theorem skipGap_cons (h : isGap c = false) (cs : List Char) : skipGap (c :: cs) = c :: cs := by
  rw [skipGap, List.dropWhile_cons_of_neg (by simp [h])]

theorem endsNumber_cons (h : isDigit c = false ∧ c ≠ '.' ∧ c ≠ 'e' ∧ c ≠ 'E') (rest : List Char) :
    EndsNumber (c :: rest) := by
  rintro c ⟨⟩
  exact h

/-- What a number can begin with begins neither white space nor a container. -/
theorem not_special_of_digit (h : isDigit c = true ∨ c = '-') :
    isGap c = false ∧ c ≠ ']' ∧ c ≠ '[' ∧ c ≠ '\x7b' ∧ c ≠ '"' ∧ c ≠ 'n' ∧ c ≠ 't' ∧ c ≠ 'f' := by
  rcases h with h | rfl
  · refine ⟨?_, ?_, ?_, ?_, ?_, ?_, ?_, ?_⟩
    · rw [isGap, Bool.eq_false_iff]
      intro hgap
      simp only [Bool.or_eq_true, beq_iff_eq] at hgap
      rcases hgap with ((rfl | rfl) | rfl) | rfl <;> exact absurd h (by decide)
    all_goals
      rintro rfl
      exact absurd h (by decide)
  · decide

theorem value?_of_scalar (hitems : c ≠ '[') (hmembers : c ≠ '\x7b') (d : Nat) (cs : List Char) :
    value? d (c :: cs) = scalar? (c :: cs) := by
  cases d with
  | zero => rfl
  | succ d =>
    rw [value?.eq_def]
    dsimp only
    split
    · exact absurd (List.cons.inj ‹_›).1 hitems
    · exact absurd (List.cons.inj ‹_›).1 hmembers
    · rfl

theorem scalar?_of_digit (h : isDigit c = true ∨ c = '-') (cs : List Char) :
    scalar? (c :: cs) = number? (c :: cs) := by
  obtain ⟨_, _, _, _, hquote, hn, ht, hf⟩ := not_special_of_digit h
  unfold scalar?
  split
  · exact absurd (List.cons.inj ‹_›).1 hn
  · exact absurd (List.cons.inj ‹_›).1 ht
  · exact absurd (List.cons.inj ‹_›).1 hf
  · exact absurd (List.cons.inj ‹_›).1 hquote
  · rfl

/-! ## Values that hold no other -/

theorem startsValue_of_number (h : ∀ rest, EndsNumber rest → number? (t ++ rest) = some (v, rest)) :
    StartsValue t := by
  have hread := h [] (by rintro c ⟨⟩)
  obtain ⟨c, more, hcs, hc⟩ := head_of_number? hread
  rw [List.append_nil] at hcs
  obtain ⟨hgap, hclose, _⟩ := not_special_of_digit hc
  exact ⟨c, more, hcs, hgap, hclose⟩

theorem reads_number (h : ∀ rest, EndsNumber rest → number? (t ++ rest) = some (v, rest)) (d : Nat) :
    Reads (value? d) t v := by
  intro rest hrest
  have hread := h rest hrest
  obtain ⟨c, more, hcs, hc⟩ := head_of_number? hread
  obtain ⟨hgap, _, hitems, hmembers, _⟩ := not_special_of_digit hc
  rw [hcs] at hread ⊢
  rw [skipGap_cons hgap, value?_of_scalar hitems hmembers, scalar?_of_digit hc, hread]

theorem reads_string (s : String) (d : Nat) : Reads (value? d) (stringText s) (.str s) := by
  intro rest _
  rw [stringText, List.cons_append, List.cons_append, skipGap_cons rfl,
    value?_of_scalar (by decide) (by decide), scalar?, string?_stringText]
  rfl

theorem reads_word (hgap : isGap c = false) (hitems : c ≠ '[') (hmembers : c ≠ '\x7b')
    (h : ∀ rest, scalar? (c :: (t ++ rest)) = some (v, rest)) (d : Nat) :
    Reads (value? d) (c :: t) v := by
  intro rest _
  rw [List.cons_append, skipGap_cons hgap, value?_of_scalar hitems hmembers, h]

/-! ## Containers -/

theorem length_le_withCommas (ts : List (List Char)) : ts.length ≤ (withCommas ts).length + 1 := by
  induction ts with
  | nil => exact Nat.zero_le _
  | cons t ts ih =>
    cases ts with
    | nil => exact Nat.le_add_left _ _
    | cons u us =>
      simp only [withCommas, List.length_append, List.length_cons] at ih ⊢
      omega

theorem items?_text (hne : vs ≠ []) (hread : ∀ v ∈ vs, Reads read v.text v.sorted)
    (hfuel : vs.length ≤ fuel) (rest : List Char) :
    items? read fuel (withCommas (vs.map Value.text) ++ ']' :: rest) =
      some (vs.map Value.sorted, rest) := by
  induction vs generalizing fuel with
  | nil => exact absurd rfl hne
  | cons v vs ih =>
    obtain ⟨hv, hvs⟩ := List.forall_mem_cons.mp hread
    obtain ⟨fuel, rfl⟩ := Nat.exists_eq_succ_of_ne_zero (Nat.ne_of_gt (Nat.lt_of_succ_le
      (Nat.le_trans (Nat.succ_le_succ (Nat.zero_le _)) hfuel)))
    cases vs with
    | nil =>
      have hlast := hv (']' :: rest) (endsNumber_cons (by decide) rest)
      simp only [List.map_cons, List.map_nil, withCommas, items?, hlast, Option.bind_eq_bind,
        Option.bind_some, skipGap_cons (show isGap ']' = false from rfl), Option.pure_def]
    | cons w ws =>
      have hmore := ih (List.cons_ne_nil _ _) hvs (Nat.le_of_succ_le_succ hfuel)
      have hfirst := hv (',' :: (withCommas ((w :: ws).map Value.text) ++ ']' :: rest))
        (endsNumber_cons (by decide) _)
      rw [List.map_cons] at hmore hfirst ⊢
      rw [List.map_cons, withCommas, List.append_assoc, List.cons_append]
      simp only [items?, hfirst, Option.bind_eq_bind, Option.bind_some,
        skipGap_cons (show isGap ',' = false from rfl), hmore, Option.pure_def, List.map_cons]
      exact List.cons_ne_nil _ _

theorem member?_text (hread : Reads read v.text v.sorted) (hrest : EndsNumber rest) :
    member? read (memberText (s, v.text) ++ rest) = some ((s, v.sorted), rest) := by
  have hcolon : skipGap (':' :: (v.text ++ rest)) = ':' :: (v.text ++ rest) := skipGap_cons rfl _
  unfold member? memberText stringText
  rw [List.cons_append, List.cons_append, List.cons_append, skipGap_cons rfl, List.append_assoc,
    List.cons_append]
  simp only [string?_stringText, Option.bind_eq_bind, Option.bind_some, hcolon, hread rest hrest,
    Option.pure_def]

theorem members?_text (before : Members) (hne : ms ≠ []) (hread : ∀ m ∈ ms, Reads read m.2.text m.2.sorted)
    (hnames : ((before ++ ms).map Prod.fst).Nodup) (hfuel : ms.length ≤ fuel) (rest : List Char) :
    members? read fuel before
        (withCommas (ms.map fun m => memberText (m.1, m.2.text)) ++ '\x7d' :: rest) =
      some (before ++ ms.map fun m => (m.1, m.2.sorted), rest) := by
  induction ms generalizing fuel before with
  | nil => exact absurd rfl hne
  | cons m ms ih =>
    obtain ⟨hm, hms⟩ := List.forall_mem_cons.mp hread
    obtain ⟨fuel, rfl⟩ := Nat.exists_eq_add_of_le' (Nat.le_trans (Nat.le_add_left 1 _) hfuel)
    have hnow : Members.put m.1 m.2.sorted before = before ++ [(m.1, m.2.sorted)] := by
      rw [List.map_append, List.map_cons] at hnames
      exact put_of_not_mem fun hmem => (List.nodup_append.mp hnames).2.2 _ hmem _ List.mem_cons_self rfl
    cases ms with
    | nil =>
      have hlast := member?_text (s := m.1) hm (endsNumber_cons (c := '\x7d') (by decide) rest)
      simp only [List.map_cons, List.map_nil, withCommas, members?, hlast, hnow,
        Option.bind_eq_bind, Option.bind_some, skipGap_cons (show isGap '\x7d' = false from rfl),
        Option.pure_def]
    | cons n ns =>
      have hfirst := member?_text (s := m.1) hm (endsNumber_cons (c := ',') (by decide)
        (withCommas ((n :: ns).map fun m => memberText (m.1, m.2.text)) ++ '\x7d' :: rest))
      have hnames' : ((before ++ [(m.1, m.2.sorted)] ++ n :: ns).map Prod.fst).Nodup := by
        simpa using hnames
      have hmore := ih _ (List.cons_ne_nil _ _) hms hnames' (Nat.le_of_succ_le_succ hfuel)
      rw [List.map_cons] at hmore hfirst ⊢
      rw [List.map_cons, withCommas, List.append_assoc, List.cons_append]
      simp only [members?, hfirst, Option.bind_eq_bind, Option.bind_some, hnow,
        skipGap_cons (show isGap ',' = false from rfl), hmore, List.map_cons, List.append_assoc,
        List.singleton_append]
      exact List.cons_ne_nil _ _

/-! ## Values -/

theorem startsValue_text (hv : v.Proper) (hwords : v.wordsOnly = true) : StartsValue v.text := by
  cases hv with
  | null => exact ⟨_, _, rfl, rfl, by decide⟩
  | bool b => cases b <;> exact ⟨_, _, rfl, rfl, by decide⟩
  | int n => exact startsValue_of_number fun rest => number?_plain hwords
  | float hx =>
    rename_i x
    cases x with
    | finite x => exact startsValue_of_number fun rest => number?_finiteText x
    | infinite negative => cases hx
    | nan => cases hx
  | str s => exact ⟨_, _, rfl, rfl, by decide⟩
  | arr _ => exact ⟨_, _, rfl, rfl, by decide⟩
  | obj _ _ => exact ⟨_, _, rfl, rfl, by decide⟩

theorem StartsValue.append (h : StartsValue t) (rest : List Char) : StartsValue (t ++ rest) := by
  obtain ⟨c, more, rfl, hc⟩ := h
  exact ⟨c, more ++ rest, rfl, hc⟩

theorem value?_items (h : StartsValue cs) (d : Nat) :
    value? (d + 1) ('[' :: cs) =
      (items? (value? d) (cs.length + 1) cs).map fun r => (.arr r.1, r.2) := by
  obtain ⟨c, more, rfl, hgap, hclose⟩ := h
  rw [value?]
  dsimp only
  rw [skipGap_cons hgap]
  split
  · exact absurd (List.cons.inj ‹_›).1 hclose
  · rfl

theorem value?_members (d : Nat) (cs : List Char) :
    value? (d + 1) ('\x7b' :: '"' :: cs) =
      (members? (value? d) (('"' :: cs).length + 1) [] ('"' :: cs)).map fun r =>
        (.obj r.1, r.2) := by
  rw [value?]
  dsimp only
  rw [skipGap_cons rfl]
  split
  · exact absurd (List.cons.inj ‹_›).1 (by decide)
  · rfl

theorem reads_arr (hstarts : ∀ v ∈ vs, StartsValue v.text)
    (hread : ∀ v ∈ vs, Reads (value? d) v.text v.sorted) :
    Reads (value? (d + 1)) (Value.arr vs).text (Value.arr vs).sorted := by
  intro rest _
  rw [Value.text, itemTexts_eq, Value.sorted, itemsSorted_eq, List.cons_append, List.cons_append,
    List.append_assoc, List.singleton_append, skipGap_cons rfl]
  by_cases hvs : vs = []
  · subst hvs
    rfl
  · have hbody : StartsValue (withCommas (vs.map Value.text)) := by
      obtain ⟨v, ws, rfl⟩ := List.exists_cons_of_ne_nil hvs
      have hv := hstarts v List.mem_cons_self
      cases ws with
      | nil => exact hv
      | cons w ws => exact hv.append _
    have hfuel := length_le_withCommas (vs.map Value.text)
    rw [List.length_map] at hfuel
    rw [value?_items (hbody.append _), items?_text hvs hread (by rw [List.length_append]; omega)]
    rfl

theorem reads_obj (hnames : (ms.map Prod.fst).Nodup)
    (hread : ∀ m ∈ ms, Reads (value? d) m.2.text m.2.sorted) :
    Reads (value? (d + 1)) (Value.obj ms).text (Value.obj ms).sorted := by
  intro rest _
  rw [Value.text, sortedByName_memberTexts, List.map_map, Value.sorted, sortedByName_membersSorted,
    List.cons_append, List.cons_append, List.append_assoc, List.singleton_append, skipGap_cons rfl]
  -- from here on the members count in their sorted order
  have hnames' : ((sortedByName ms).map Prod.fst).Nodup :=
    ((sortedByName_perm ms).map _).nodup_iff.mpr hnames
  have hread' : ∀ m ∈ sortedByName ms, Reads (value? d) m.2.text m.2.sorted :=
    fun m hm => hread m ((sortedByName_perm ms).mem_iff.mp hm)
  generalize sortedByName ms = ns at hnames' hread'
  by_cases hns : ns = []
  · subst hns
    rfl
  · have hbody : ∃ more, withCommas (ns.map fun m => memberText (m.1, m.2.text)) = '"' :: more := by
      obtain ⟨n, ns, rfl⟩ := List.exists_cons_of_ne_nil hns
      cases ns <;> exact ⟨_, rfl⟩
    obtain ⟨more, hmore⟩ := hbody
    have hfuel : ns.length ≤ ('"' :: (more ++ '\x7d' :: rest)).length + 1 := by
      have hlen := length_le_withCommas (ns.map fun m => memberText (m.1, m.2.text))
      rw [List.length_map, hmore, List.length_cons] at hlen
      rw [List.length_cons, List.length_append]
      omega
    have hmembers := members?_text [] hns hread' hnames' hfuel rest
    rw [hmore, List.cons_append] at hmembers
    change value? (d + 1) ('\x7b' :: (withCommas (ns.map fun m => memberText (m.1, m.2.text)) ++ _)) = _
    rw [hmore, List.cons_append, value?_members, hmembers]
    rfl

/-- A proper value is read back with its members sorted. -/
theorem reads_text (hv : v.Proper) (hwords : v.wordsOnly = true) (hdepth : v.depth ≤ d) :
    Reads (value? d) v.text v.sorted := by
  induction v generalizing d with
  | null => exact reads_word rfl (by decide) (by decide) (fun _ => rfl) d
  | bool b => cases b <;> exact reads_word rfl (by decide) (by decide) (fun _ => rfl) d
  | int n => exact reads_number (fun _ => number?_plain hwords) d
  | float x =>
    cases x with
    | finite x => exact reads_number (fun _ => number?_finiteText x) d
    | infinite negative => cases hv; contradiction
    | nan => cases hv; contradiction
  | str s => exact reads_string s d
  | arr items ih =>
    cases hv with
    | arr parts =>
      rw [Value.wordsOnly, itemsWordsOnly_iff] at hwords
      rw [Value.depth] at hdepth
      obtain ⟨d, rfl⟩ := Nat.exists_eq_add_of_le' (Nat.le_trans (Nat.le_add_left 1 _) hdepth)
      have hparts := itemsDepth_le.mp (Nat.le_of_succ_le_succ hdepth)
      exact reads_arr (fun v hv => startsValue_text (parts v hv) (hwords v hv))
        fun v hv => ih v hv (parts v hv) (hwords v hv) (hparts v hv)
  | obj ms ih =>
    cases hv with
    | obj names parts =>
      rw [Value.wordsOnly, membersWordsOnly_iff] at hwords
      rw [Value.depth] at hdepth
      obtain ⟨d, rfl⟩ := Nat.exists_eq_add_of_le' (Nat.le_trans (Nat.le_add_left 1 _) hdepth)
      have hparts := membersDepth_le.mp (Nat.le_of_succ_le_succ hdepth)
      exact reads_obj names fun m hm => ih m hm (parts m hm) (hwords m hm) (hparts m hm)

theorem ofChars?_text (hv : v.Proper) (hw : v.isWritable = true) : ofChars? v.text = some v.sorted := by
  rw [Value.isWritable, Bool.and_eq_true, decide_eq_true_eq] at hw
  have hread := reads_text hv hw.1 (Nat.le_trans hw.2 (by decide : writtenDepth ≤ depthLimit)) []
    (by rintro c ⟨⟩)
  rw [List.append_nil] at hread
  unfold ofChars?
  rw [hread]
  rfl

/-- The canonical bytes of a proper value are read as the value with its
members sorted. -/
theorem ofBytes?_encode_text (hv : v.Proper) (hw : v.isWritable = true) :
    ofBytes? (encode v.text) = some v.sorted := by
  rw [ofBytes?, decode?_encode]
  exact ofChars?_text hv hw

/-- Values of one text differ in the order of members only. -/
theorem sorted_eq_of_text_eq {w : Value} (hv : v.Proper) (hvw : v.isWritable = true)
    (hw : w.Proper) (hww : w.isWritable = true) (h : v.text = w.text) : v.sorted = w.sorted := by
  have hread := ofChars?_text hv hvw
  rw [h, ofChars?_text hw hww] at hread
  exact (Option.some.inj hread).symm

end

end Unloop.Json
