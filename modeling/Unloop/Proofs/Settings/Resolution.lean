-- Where each setting comes from. The values that are chosen are looked up name
-- by name, so that the settings are resolved when each of them is, and what is
-- found for a setting that is given does not matter.
import Unloop.Proofs.Fault
import Unloop.Proofs.Settings.Fields
import Unloop.Settings.Sources

namespace Unloop.Settings

open Form Json Text

/-! ## The pure model -/

/-- A name in small letters. -/
def small (name : String) : String := String.ofList (lowered name.toList)

/-- A name, its letters of either case, is that of a setting. -/
def IsSetting (name : String) : Prop := ∃ f ∈ fields, small name = f.name

/-- The last variable of an environment that has the name of a setting after
the lead, its letters of either case. -/
def ofVariables? (env : Environment) (name : String) : Option String :=
  (env.reverse.find? fun v => small v.1 == small ("HANDHELD_" ++ name)).map Prod.snd

/-- What is found besides what is given: a value for each setting, perhaps, and
the variables of files that are for no setting. -/
structure Finds where
  value? : String → Option Value
  strangers : List String

namespace Finds

/-- What is found in the environment alone. -/
def inEnvironment (env : Environment) : Finds where
  value? name := (ofVariables? env name).map .str
  strangers := []

/-- The value that is chosen for a setting. What is given goes before what is
found. -/
def chosen? (found : Finds) (given : Members) (name : String) : Option Value :=
  (given? given name).or (found.value? name)

end Finds

/-- What is found besides what is given: in the environment first, then in
files of variables, and then in files of one value. -/
def look (around : Surroundings) (given : Members) : Except Fault Finds := do
  let l ← Lookup.ofMembers given
  let files ← l.fromFiles around
  let directories ← l.directories around
  return {
    value? name := (l.among (l.fromEnvironment around) name).or
      ((l.among files name).or (l.inDirectories around name directories))
    strangers := l.strangers files }

/-- No member tells how to look. -/
def Plain (given : Members) : Prop := ∀ m ∈ given, m.1 ∉ Lookup.names

/-! ## Variables -/

section

variable {α : Type} {k : String}

theorem find?_put (name : String) (a : α) (vs : List (String × α)) :
    ((VariableFile.put name a vs).find? fun v => v.1 == k).map Prod.snd =
      if name = k then some a else (vs.find? fun v => v.1 == k).map Prod.snd := by
  induction vs with
  | nil =>
    unfold VariableFile.put
    by_cases h : name = k <;> simp [h]
  | cons v vs ih =>
    unfold VariableFile.put
    split
    · rename_i hv
      have hv : v.1 = name := by simpa using hv
      by_cases h : name = k <;> simp [hv, h]
    · rename_i hv
      have hv : v.1 ≠ name := by simpa using hv
      by_cases h : v.1 = k
      · have hne : name ≠ k := fun hk => hv (h.trans hk.symm)
        simp [h, hne]
      · simp [h, ih]

/-- Of the variables of one name the last one counts. -/
theorem find?_foldl_put (key : String → String) (vs known : List (String × α)) :
    ((vs.foldl (fun known v => VariableFile.put (key v.1) v.2 known) known).find?
        fun v => v.1 == k).map Prod.snd =
      ((vs.reverse.find? fun v => key v.1 == k).map Prod.snd).or
        ((known.find? fun v => v.1 == k).map Prod.snd) := by
  -- the table grows with each variable, so the claim is about any table at the start
  induction vs generalizing known with
  | nil => rfl
  | cons v vs ih =>
    rw [List.foldl_cons, ih, find?_put, List.reverse_cons, List.find?_append]
    cases vs.reverse.find? fun v => key v.1 == k with
    | some w => rfl
    | none =>
      by_cases h : key v.1 = k <;> simp [h]

theorem counted_default (vs : Variables) :
    Lookup.counted {} vs =
      vs.foldl (fun known v => VariableFile.put (small v.1) v.2 known) [] := by
  have hall : vs.filter (fun v => !(({} : Lookup).skipsEmpty && v.2 == some "")) = vs :=
    List.filter_eq_self.mpr fun _ _ => rfl
  unfold Lookup.counted
  rw [hall]
  rfl

/-- In the environment a setting has the value of its last variable. -/
theorem among_fromEnvironment (around : Surroundings) (name : String) :
    Lookup.among {} (Lookup.fromEnvironment {} around) name =
      (ofVariables? around.environment name).map .str := by
  have hlast : ((Lookup.fromEnvironment {} around).find? fun v =>
      v.1 == small ("HANDHELD_" ++ name)).map Prod.snd =
        (ofVariables? around.environment name).map some := by
    unfold Lookup.fromEnvironment ofVariables?
    rw [counted_default, find?_foldl_put, ← List.map_reverse, List.find?_map, List.find?_nil,
      Option.map_none, Option.or_none, Option.map_map, Option.map_map]
    rfl
  have hvalue : ((Lookup.fromEnvironment {} around).find? fun v =>
      v.1 == Lookup.variableFor {} name).bind Prod.snd = ofVariables? around.environment name := by
    have hjoined := congrArg (Option.bind · id) hlast
    rw [Option.bind_map, Option.bind_map] at hjoined
    exact hjoined.trans (Option.bind_fun_some _)
  unfold Lookup.among
  rw [hvalue]
  cases ofVariables? around.environment name <;> rfl

end

/-! ## Names -/

section

variable {given : Members} {name : String} {names : List String}

theorem get?_eq_none (h : ∀ m ∈ given, m.1 ≠ name) : given.get? name = none := by
  rw [Members.get?, Option.map_eq_none_iff, List.find?_eq_none]
  exact fun m hm hname => h m hm (beq_iff_eq.mp hname)

theorem get?_filterMap_of_not_mem {value? : String → Option Value} (h : name ∉ names) :
    Members.get? (names.filterMap fun n => (value? n).map fun v => (n, v)) name = none := by
  refine get?_eq_none fun m hm hname => ?_
  obtain ⟨n, hn, hmade⟩ := List.mem_filterMap.mp hm
  obtain ⟨v, _, rfl⟩ := Option.map_eq_some_iff.mp hmade
  exact h (hname ▸ hn)

/-- Members that are made for some names have what was made for each. -/
theorem get?_filterMap {value? : String → Option Value} (h : name ∈ names) :
    Members.get? (names.filterMap fun n => (value? n).map fun v => (n, v)) name = value? name := by
  induction names with
  | nil => cases h
  | cons n names ih =>
    by_cases hrest : name ∈ names
    · cases hv : value? n with
      | none =>
        rw [List.filterMap_cons_none (by rw [hv]; rfl)]
        exact ih hrest
      | some v =>
        rw [List.filterMap_cons_some (by rw [hv]; rfl), Members.get?, List.find?_cons]
        by_cases hn : n = name
        · subst hn
          simp [hv]
        · simp only [beq_false_of_ne hn]
          exact ih hrest
    · obtain rfl := (List.mem_cons.mp h).resolve_right hrest
      cases hv : value? name with
      | none =>
        rw [List.filterMap_cons_none (by rw [hv]; rfl)]
        exact get?_filterMap_of_not_mem hrest
      | some v =>
        rw [List.filterMap_cons_some (by rw [hv]; rfl)]
        simp [Members.get?]

theorem isSetting_iff : IsSetting name ↔ small name ∈ Settings.names := by
  rw [← map_name_fields, List.mem_map]
  exact exists_congr fun f => and_congr_right fun _ => eq_comm

theorem strangers_eq_nil_iff :
    strangers given = [] ↔ ∀ m ∈ given, IsSetting m.1 ∨ m.1 ∈ Lookup.names := by
  simp only [strangers, List.filter_eq_nil_iff, List.forall_mem_map, isSetting_iff, small,
    Bool.and_eq_true, Bool.not_eq_true', List.contains_eq_mem, decide_eq_false_iff_not, not_and_or,
    not_not]

end

/-! ## Looking -/

section

variable {around around' : Surroundings} {given : Members} {s : Settings} {found found' : Finds}

theorem ofMembers_of_plain (plain : Plain given) (h : given.get? Lookup.takenName = none) :
    Lookup.ofMembers given = .ok {} := by
  have hnone : ∀ name ∈ Lookup.names, given.get? name = none := fun name hname =>
    get?_eq_none fun m hm hsame => plain m hm (hsame ▸ hname)
  simp only [Lookup.names, List.forall_mem_cons] at hnone
  obtain ⟨hlead, htarget, hcase, hempty, hnull, hfile, hdirectory, hdepth, harguments, -⟩ := hnone
  unfold Lookup.ofMembers Lookup.leadOf Lookup.leadCounts Lookup.checkDepth Lookup.checkArguments
  simp only [h, hlead, htarget, hcase, hempty, hnull, hfile, hdirectory, hdepth, harguments]
  rfl

/-- Where no member tells how to look, only the environment is looked into. -/
theorem look_of_plain (plain : Plain given) (h : given.get? Lookup.takenName = none) :
    look around given = .ok (.inEnvironment around.environment) := by
  have hvalue (name : String) :
      (Lookup.among {} (Lookup.fromEnvironment {} around) name).or
        ((Lookup.among {} [] name).or (Lookup.inDirectories {} around name [])) =
          (ofVariables? around.environment name).map .str := by
    rw [among_fromEnvironment]
    exact Option.or_none
  unfold look
  rw [ofMembers_of_plain plain h]
  exact congrArg (fun value? => Except.ok (Finds.mk value? [])) (funext hvalue)

theorem resolve_eq :
    resolve around given = look around given >>= fun found =>
      (check (Settings.names.filterMap fun name =>
          (found.chosen? given name).map fun v => (name, v)) <*
        noFields (found.strangers ++ strangers given).eraseDups).toExcept := by
  unfold resolve look
  simp only [bind_assoc, pure_bind]
  rfl

theorem check_chosen_eq_ok_iff :
    check (Settings.names.filterMap fun name =>
        (found.chosen? given name).map fun v => (name, v)) = .ok s ↔
      ∀ f ∈ fields, f.settle (found.chosen? given f.name) = .ok (f.get s) := by
  rw [check_eq_ok_iff]
  refine forall₂_congr fun f hf => ?_
  rw [get?_filterMap (map_name_fields ▸ List.mem_map_of_mem hf)]

theorem eraseDups_eq_nil_iff {names : List String} : names.eraseDups = [] ↔ names = [] := by
  simp only [List.eq_nil_iff_forall_not_mem, List.mem_eraseDups]

/-- Settings are resolved when what tells how to look can be followed, every
name is known, and each setting fits what is chosen for it. -/
theorem resolve_eq_ok_iff :
    resolve around given = .ok s ↔
      (∀ m ∈ given, IsSetting m.1 ∨ m.1 ∈ Lookup.names) ∧
        ∃ found, look around given = .ok found ∧ found.strangers = [] ∧
          ∀ f ∈ fields, f.settle (found.chosen? given f.name) = .ok (f.get s) := by
  simp only [resolve_eq, bind_eq_ok_iff, toExcept_eq_ok_iff, seqLeft_eq_ok_iff,
    check_chosen_eq_ok_iff, noFields_eq_ok_iff, exists_const, eraseDups_eq_nil_iff,
    List.append_eq_nil_iff, strangers_eq_nil_iff]
  constructor
  · rintro ⟨found, hlook, hsettled, hstrangers, hknown⟩
    exact ⟨hknown, found, hlook, hstrangers, hsettled⟩
  · rintro ⟨hknown, found, hlook, hstrangers, hsettled⟩
    exact ⟨found, hlook, hsettled, hstrangers, hknown⟩

theorem small_name : ∀ name ∈ Settings.names, small name = name := by decide +kernel

theorem not_mem_lookupNames : ∀ name ∈ Settings.names, name ∉ Lookup.names := by decide

theorem given?_shown (s : Settings) :
    ∀ f ∈ fields, given? (fields.map fun f => (f.name, f.shown (f.get s))) f.name =
      some (f.shown (f.get s)) :=
  forall_mem_fields.mpr ⟨rfl, rfl, rfl, rfl, rfl, rfl⟩

theorem check_of_resolve (h : resolve around given = .ok s) : ∃ ms, check ms = .ok s := by
  obtain ⟨_, found, _, _, hsettled⟩ := resolve_eq_ok_iff.mp h
  exact ⟨_, check_chosen_eq_ok_iff.mpr hsettled⟩

/-- Settings that are resolved time a search at least once. -/
theorem benchRepeats_of_resolve (h : resolve around given = .ok s) : 1 ≤ s.benchRepeats := by
  obtain ⟨ms, hchecked⟩ := check_of_resolve h
  exact benchRepeats_of_check hchecked

/-- Settings that are given as they are shown come out as they are, whatever is
found around them. -/
theorem ofValue_toValue (h : resolve around given = .ok s) :
    ofValue around' s.toValue = .ok s := by
  obtain ⟨ms, hchecked⟩ := check_of_resolve h
  have hname : ∀ m ∈ fields.map fun f => (f.name, f.shown (f.get s)), m.1 ∈ Settings.names := by
    intro m hm
    obtain ⟨f, hf, rfl⟩ := List.mem_map.mp hm
    exact map_name_fields ▸ List.mem_map_of_mem hf
  rw [toValue_eq]
  change resolve around' (fields.map fun f => (f.name, f.shown (f.get s))) = .ok s
  refine resolve_eq_ok_iff.mpr ⟨fun m hm => Or.inl ?_, _,
    look_of_plain (fun m hm => not_mem_lookupNames _ (hname m hm)) rfl, rfl, fun f hf => ?_⟩
  · rw [isSetting_iff, small_name _ (hname m hm)]
    exact hname m hm
  · -- every setting is given, so that nothing is chosen from what is around
    unfold Finds.chosen?
    rw [given?_shown s f hf]
    exact check_shown hchecked f hf

/-! ## Settings without members that tell how to look -/

end

end Unloop.Settings
