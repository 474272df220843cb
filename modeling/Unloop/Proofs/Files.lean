-- The laws of files. What a path leads to is found by walking through
-- directories, and writing a file makes the directories on its way first. A
-- file can be kept at a path when what is written at its end is read back
-- after the rest, and then it can be kept on and no other file is touched.
import Unloop.Files
import Unloop.Proofs.Fault

namespace Unloop

open Text

namespace Files

/-! ## The pure model -/

/-- A name that leads nowhere else. -/
def isIdle (name : String) : Bool := name == "" || name == "."

/-- All files and directories of `fs` stay what they are, except at `l`, where
there is no directory. -/
structure Spares (fs after : Files) (l : Location) : Prop where
  place : fs.at? l ≠ some .directory
  others : ∀ m ≠ l, ∀ node, fs.at? m = some node → after.at? m = some node

/-- The way to the file at a path is made, and there is no directory in its
place. -/
structure Ready (fs : Files) (path : String) (ready : Files) : Prop where
  text : checkText path = .ok ()
  way : fs.makeWay (startOf path) false (steps path).dropLast =
    .ok (ready, (steps path).dropLast.foldl Location.step (startOf path))
  name : ∃ name, (steps path).getLast? = some name ∧
    (ready.at? (locationOf path) = none → isLongName name = false)
  place : ready.at? (locationOf path) ≠ some .directory

/-- A file with this content can be kept at a path: reading gives the content,
and once nothing is written at its end the file is there with it. -/
def Keeps (fs : Files) (path : String) (content : Bytes) : Prop :=
  fs.read path = .ok content ∧
    ∃ after, fs.append path [] = .ok after ∧ after.find? path = some (.file content)

section

variable {fs after ready : Files} {l m d : Location} {path other : String} {names : List String}
  {content before line : Bytes} {node : Node} {made : Bool}

/-! ## What is at a location -/

theorem at?_eq_file_iff : fs.at? l = some (.file content) ↔ fs.file? l = some content := by
  unfold at?
  rcases fs.file? l with _ | c
  · simp only [reduceCtorEq, iff_false]
    split <;> simp
  · simp

theorem at?_eq_directory_iff :
    fs.at? l = some .directory ↔ fs.file? l = none ∧ fs.holds l = true := by
  unfold at?
  rcases fs.file? l with _ | c
  · simp
  · simp

theorem any_putIn (test : Location → Bool) (cs : List (Location × Bytes)) :
    (putIn l content cs).any (fun f => test f.1) = (test l || cs.any fun f => test f.1) := by
  induction cs with
  | nil => rfl
  | cons f cs ih =>
    unfold putIn
    split
    · rename_i same
      rw [beq_iff_eq] at same
      simp [same]
    · rw [List.any_cons, ih, List.any_cons, Bool.or_left_comm]

theorem holds_put : (fs.put l content).holds m = (fs.holds m || m.isPrefixOf l) := by
  unfold holds put
  rw [any_putIn fun k => m.isPrefixOf k]
  cases isAncestor m <;> cases m.isPrefixOf l <;> simp

theorem put_put : (fs.put l before).put l content = fs.put l content := by
  have h : ∀ cs : List (Location × Bytes),
      putIn l content (putIn l before cs) = putIn l content cs := by
    intro cs
    induction cs with
    | nil => simp [putIn]
    | cons f cs ih =>
      by_cases hf : (f.1 == l) = true
      · simp [putIn, hf]
      · simp [putIn, hf, ih]
  simp only [put, h]

theorem at?_put_self : (fs.put l content).at? l = some (.file content) :=
  at?_eq_file_iff.mpr (file?_put_self fs l content)

theorem at?_put_of_at? (h : m ≠ l) (hm : fs.at? m = some node) :
    (fs.put l content).at? m = some node := by
  cases node with
  | file c => rwa [at?_eq_file_iff, file?_put_of_ne h, ← at?_eq_file_iff]
  | directory =>
    obtain ⟨hnone, hholds⟩ := at?_eq_directory_iff.mp hm
    rw [at?_eq_directory_iff, file?_put_of_ne h, holds_put, hholds]
    exact ⟨hnone, Bool.true_or _⟩

/-! ## Walking -/

theorem step_of_isIdle {name : String} (h : isIdle name = true) : l.step name = l := by
  unfold Location.step
  exact if_pos h

theorem steps_eq_filter (path : String) :
    steps path = (namesOf path).filter fun n => !isIdle n := by
  unfold steps
  apply List.filter_congr
  intro n _
  simp [isIdle, bne]

theorem foldl_step_filter (names : List String) (l : Location) :
    (names.filter fun n => !isIdle n).foldl Location.step l = names.foldl Location.step l := by
  induction names generalizing l with
  | nil => rfl
  | cons n ns ih =>
    rw [List.filter_cons, List.foldl_cons]
    by_cases hn : isIdle n = true
    · rw [hn, step_of_isIdle hn]
      exact ih l
    · rw [Bool.not_eq_true] at hn
      rw [hn]
      exact ih _

theorem enter?_eq_some_iff {name : String} :
    fs.enter? l name = some m ↔ fs.at? l = some .directory ∧ l.step name = m := by
  unfold enter?
  rcases fs.at? l with _ | ⟨c⟩ | _
  · simp
  · simp
  · simp

/-- A walk leads where its names do. -/
theorem foldl_of_walk (h : names.foldlM fs.enter? l = some m) :
    m = names.foldl Location.step l := by
  induction names generalizing l with
  | nil => exact (Option.some.inj h).symm
  | cons n ns ih =>
    obtain ⟨k, hk, hrest⟩ := Option.bind_eq_some_iff.mp h
    obtain ⟨_, rfl⟩ := enter?_eq_some_iff.mp hk
    exact ih hrest

theorem foldl_namesOf (path : String) :
    (namesOf path).foldl Location.step (startOf path) = locationOf path := by
  rw [locationOf, steps_eq_filter, foldl_step_filter]

theorem find?_eq_some_iff :
    fs.find? path = some node ↔ path.isEmpty = false ∧
      (namesOf path).foldlM fs.enter? (startOf path) = some (locationOf path) ∧
      fs.at? (locationOf path) = some node := by
  unfold find?
  rcases hempty : path.isEmpty with _ | _
  · rw [if_neg (by simp), Option.bind_eq_some_iff]
    constructor
    · rintro ⟨m, hm, hnode⟩
      obtain rfl := (foldl_of_walk hm).trans (foldl_namesOf path)
      exact ⟨rfl, hm, hnode⟩
    · rintro ⟨_, hm, hnode⟩
      exact ⟨_, hm, hnode⟩
  · simp

/-- A walk goes through directories alone, so it can be made again where these
stay. -/
theorem walk_congr (hdirs : ∀ d, fs.at? d = some .directory → after.at? d = some .directory)
    (h : names.foldlM fs.enter? l = some m) : names.foldlM after.enter? l = some m := by
  induction names generalizing l with
  | nil => exact h
  | cons n ns ih =>
    obtain ⟨k, hk, hrest⟩ := Option.bind_eq_some_iff.mp h
    obtain ⟨hl, hstep⟩ := enter?_eq_some_iff.mp hk
    exact Option.bind_eq_some_iff.mpr ⟨k, enter?_eq_some_iff.mpr ⟨hdirs l hl, hstep⟩, ih hrest⟩

theorem read_of_find? (h : fs.find? path = some (.file content)) : fs.read path = .ok content := by
  rw [read, h]

theorem at?_of_directories (fs : Files) (ds : List Location) (h : fs.at? m = some node) :
    { fs with directories := fs.directories ++ ds }.at? m = some node := by
  cases node with
  | file c =>
    rw [at?_eq_file_iff] at h ⊢
    exact h
  | directory =>
    obtain ⟨hnone, hholds⟩ := at?_eq_directory_iff.mp h
    refine at?_eq_directory_iff.mpr ⟨hnone, ?_⟩
    unfold holds at hholds ⊢
    rw [List.any_append]
    simp only [Bool.or_eq_true] at hholds ⊢
    rcases hholds with (h | h) | h
    · exact Or.inl (Or.inl h)
    · exact Or.inl (Or.inr (Or.inl h))
    · exact Or.inr h

/-- The way leads where its names do, and nothing that is there goes. -/
theorem of_makeWay (h : fs.makeWay l made names = .ok (ready, m)) :
    m = names.foldl Location.step l ∧
      ∀ d node, fs.at? d = some node → ready.at? d = some node := by
  induction names generalizing fs l made with
  | nil =>
    cases h
    exact ⟨rfl, fun _ _ hd => hd⟩
  | cons n ns ih =>
    unfold makeWay at h
    split at h
    · exact ih h
    · cases h
    · split at h
      · cases h
      · obtain ⟨hm, hstays⟩ := ih h
        exact ⟨hm, fun d node hd => hstays d node (at?_of_directories fs _ hd)⟩

/-- The directories that a walk goes through are there already. -/
theorem makeWay_of_walk (h : names.foldlM fs.enter? l = some m) :
    fs.makeWay l made (names.filter fun n => !isIdle n).dropLast =
      .ok (fs, (names.filter fun n => !isIdle n).dropLast.foldl Location.step l) := by
  induction names generalizing l with
  | nil => rfl
  | cons n ns ih =>
    obtain ⟨k, hk, hrest⟩ := Option.bind_eq_some_iff.mp h
    obtain ⟨_, rfl⟩ := enter?_eq_some_iff.mp hk
    have ih := ih hrest
    rw [List.filter_cons]
    by_cases hn : isIdle n = true
    · rw [step_of_isIdle hn] at ih
      simpa [hn] using ih
    · rw [Bool.not_eq_true] at hn
      simp only [hn, Bool.not_false, if_true]
      rcases hnames : ns.filter fun n => !isIdle n with _ | ⟨n', ns'⟩
      · rfl
      · -- another name follows, so the walk goes through what this one leads to
        have hdir : fs.at? (l.step n) = some .directory := by
          cases ns with
          | nil => simp at hnames
          | cons u us =>
            obtain ⟨_, hu, _⟩ := Option.bind_eq_some_iff.mp hrest
            exact (enter?_eq_some_iff.mp hu).1
        rw [hnames] at ih
        rw [List.dropLast_cons_cons, makeWay, hdir]
        exact ih

/-! ## Writing -/

theorem locationOf_of_last {name : String} (h : (steps path).getLast? = some name) :
    ((steps path).dropLast.foldl Location.step (startOf path)).step name = locationOf path := by
  obtain ⟨before, hsteps⟩ := List.getLast?_eq_some_iff.mp h
  rw [locationOf, hsteps, List.dropLast_concat, List.foldl_append]
  rfl

theorem changeAt_eq_ok_iff {name : String} {change : Bytes → Bytes} :
    fs.changeAt l name change = .ok after ↔
      fs.at? (l.step name) ≠ some .directory ∧
      (fs.at? (l.step name) = none → isLongName name = false) ∧
      after = fs.put (l.step name) (change ((fs.file? (l.step name)).getD [])) := by
  unfold changeAt
  rcases hat : fs.at? (l.step name) with _ | c | _
  · have hnone : fs.file? (l.step name) = none := by
      rw [Option.eq_none_iff_forall_ne_some]
      intro c hc
      rw [at?_eq_file_iff.mpr hc] at hat
      cases hat
    rw [hnone, Option.getD_none, @eq_comm _ after]
    by_cases hlong : isLongName name = true
    · simp [hlong]
    · simp [hlong]
  · rw [at?_eq_file_iff.mp hat, Option.getD_some, @eq_comm _ after]
    simp
  · simp

/-- A file is changed as soon as the way to it is made. -/
theorem update_eq_ok_iff {change : Bytes → Bytes} :
    fs.update path change = .ok after ↔ ∃ ready, fs.Ready path ready ∧
      after = ready.put (locationOf path)
        (change ((ready.file? (locationOf path)).getD [])) := by
  unfold update
  rw [bind_eq_ok_iff]
  constructor
  · rintro ⟨_, htext, h⟩
    obtain ⟨⟨ready, m⟩, hway, h⟩ := bind_eq_ok_iff.mp h
    obtain ⟨rfl, _⟩ := of_makeWay hway
    rcases hname : (steps path).getLast? with _ | name
    · rw [hname] at h
      cases h
    · rw [hname] at h
      obtain ⟨hplace, hlong, hafter⟩ := changeAt_eq_ok_iff.mp h
      rw [locationOf_of_last hname] at hplace hlong hafter
      exact ⟨ready, ⟨htext, hway, ⟨name, hname, hlong⟩, hplace⟩, hafter⟩
  · rintro ⟨ready, hready, hafter⟩
    obtain ⟨name, hname, hlong⟩ := hready.name
    refine ⟨(), hready.text, bind_eq_ok_iff.mpr ⟨_, hready.way, ?_⟩⟩
    rw [hname]
    refine changeAt_eq_ok_iff.mpr ?_
    rw [locationOf_of_last hname]
    exact ⟨hready.place, hlong, hafter⟩

/-- Writing a file leaves all others as they are. -/
theorem spares_of_ready (h : fs.Ready path ready) :
    fs.Spares (ready.put (locationOf path) content) (locationOf path) := by
  have hstays := (of_makeWay h.way).2
  constructor
  · intro hdir
    exact h.place (hstays _ _ hdir)
  · intro m hm node hnode
    exact at?_put_of_at? hm (hstays m node hnode)

/-! ## Keeping a file -/

/-- A file that is found is found with any other content. -/
theorem find?_put (h : fs.find? path = some (.file before)) :
    (fs.put (locationOf path) content).find? path = some (.file content) := by
  obtain ⟨hempty, hwalk, hat⟩ := find?_eq_some_iff.mp h
  refine find?_eq_some_iff.mpr ⟨hempty, walk_congr ?_ hwalk, at?_put_self⟩
  intro d hd
  apply at?_put_of_at? _ hd
  rintro rfl
  rw [hat] at hd
  cases hd

/-- The way to a file that is found is made already. -/
theorem ready_of_find? (hready : fs.Ready path ready)
    (h : after.find? path = some (.file content)) : after.Ready path after := by
  obtain ⟨_, hwalk, hat⟩ := find?_eq_some_iff.mp h
  obtain ⟨name, hname, _⟩ := hready.name
  constructor
  · exact hready.text
  · rw [steps_eq_filter]
    exact makeWay_of_walk hwalk
  · exact ⟨name, hname, fun hnone => by rw [hat] at hnone; cases hnone⟩
  · rw [hat]
    simp

theorem keeps_of_find? (hready : fs.Ready path ready)
    (h : after.find? path = some (.file content)) : after.Keeps path content := by
  have hcontent : after.file? (locationOf path) = some content :=
    at?_eq_file_iff.mp (find?_eq_some_iff.mp h).2.2
  refine ⟨read_of_find? h, after.put (locationOf path) content, ?_, find?_put h⟩
  refine update_eq_ok_iff.mpr ⟨after, ready_of_find? hready h, ?_⟩
  rw [hcontent, Option.getD_some, List.append_nil]

/-- Where a file can be kept, the way to it is the same whatever is written at its
end. -/
theorem exists_ready (h : fs.Keeps path content) :
    ∃ ready, fs.Ready path ready ∧ ∀ line,
      fs.append path line = .ok (ready.put (locationOf path) (content ++ line)) ∧
      (ready.put (locationOf path) (content ++ line)).find? path =
        some (.file (content ++ line)) := by
  obtain ⟨_, after, hafter, hfound⟩ := h
  obtain ⟨ready, hready, rfl⟩ := update_eq_ok_iff.mp hafter
  have hcontent : (ready.file? (locationOf path)).getD [] = content := by
    have hat := (find?_eq_some_iff.mp hfound).2.2
    rw [at?_put_self] at hat
    simpa using hat
  refine ⟨ready, hready, fun line => ⟨update_eq_ok_iff.mpr ⟨ready, hready, by rw [hcontent]⟩, ?_⟩⟩
  rw [← put_put]
  exact find?_put hfound

/-- Where a file can be kept, a line is written at its end, so that it is read
after the rest. The file can be kept on, and no other one is touched. -/
theorem keeps_append (h : fs.Keeps path content) (line : Bytes) :
    ∃ after, fs.append path line = .ok after ∧ after.Keeps path (content ++ line) ∧
      fs.Spares after (locationOf path) := by
  obtain ⟨ready, hready, happend⟩ := exists_ready h
  obtain ⟨hafter, hfound⟩ := happend line
  exact ⟨_, hafter, keeps_of_find? hready hfound, spares_of_ready hready⟩

/-- What is written in two goes could be written in one. -/
theorem append_append (h : fs.Keeps path content) (hafter : fs.append path before = .ok after)
    (line : Bytes) : after.append path line = fs.append path (before ++ line) := by
  obtain ⟨ready, hready, happend⟩ := exists_ready h
  obtain ⟨hbefore, hfound⟩ := happend before
  obtain rfl := Except.ok.inj (hbefore.symm.trans hafter)
  rw [(happend _).1]
  refine update_eq_ok_iff.mpr ⟨_, ready_of_find? hready hfound, ?_⟩
  rw [file?_put_self, Option.getD_some, put_put, List.append_assoc]

end

end Files

end Unloop
