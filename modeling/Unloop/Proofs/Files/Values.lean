-- Files to which values are added, one to a line. Every value stays a line of its
-- own, whatever its strings hold. So what is read are the values that were there
-- and, after them, those that were added, and a value without a text leaves the
-- file as it is.
import Unloop.Files.Values
import Unloop.Proofs.Files
import Unloop.Proofs.Json.Lines

namespace Unloop.Files

open Json Text

/-! ## Values added one after the other -/

/-- Adds values to a file one after the other, whatever comes of each. Gives the
files afterwards and the values that were added. -/
def addValues (fs : Files) (path : String) : List Value → Files × List Value
  | [] => (fs, [])
  | v :: vs =>
    match fs.addValue path v with
    | (after, .ok _) => ((after.addValues path vs).1, v :: (after.addValues path vs).2)
    | (after, .error _) => after.addValues path vs

/-- What every addition keeps: the file can be kept with this content, its last line
has ended, and these are its values. -/
structure Lists (fs : Files) (path : String) (content : Bytes) (vs : List Value) : Prop where
  keeps : fs.Keeps path content
  ended : Ended content
  values : ofLines content = .ok vs

section

variable {fs after : Files} {path : String} {content line : Bytes} {before vs : List Value}
  {v : Value} {cs : List Char}

/-! ## One value -/

/-- A value that has a line is added as this line. -/
theorem addValue_of_line (hkeeps : fs.Keeps path content) (hline : v.toLine = .ok line)
    (hafter : fs.append path line = .ok after) : fs.addValue path v = (after, .ok ()) := by
  obtain ⟨opened, hopened, _⟩ := keeps_append hkeeps []
  have happend : (v.toLine >>= opened.append path) = .ok after := by
    rw [hline, ← hafter]
    exact append_append hkeeps hopened line
  rw [addValue, hopened]
  dsimp only
  rw [happend]

/-- A value without a text opens the file and adds no byte to it. -/
theorem addValue_of_no_text (hkeeps : fs.Keeps path content) (hv : v.canonical? = none) :
    ∃ opened, fs.addValue path v = (opened, .error .unwritable) ∧ opened.Keeps path content := by
  obtain ⟨opened, hopened, hkept, _⟩ := keeps_append hkeeps []
  rw [List.append_nil] at hkept
  refine ⟨opened, ?_, hkept⟩
  rw [addValue, hopened, Value.toLine_of_no_text hv]
  rfl

theorem values_of_lists (h : fs.Lists path content vs) : fs.values path = .ok vs := by
  rw [values, h.keeps.1]
  exact h.values

/-- A value that is added comes after the others. -/
theorem lists_of_line (h : fs.Lists path content before) (hproper : v.Proper)
    (hline : v.toLine = .ok line) :
    ∃ after, fs.addValue path v = (after, .ok ()) ∧
      after.Lists path (content ++ line) (before ++ [v.sorted]) := by
  obtain ⟨after, hafter, hkeeps, _⟩ := keeps_append h.keeps line
  exact ⟨after, addValue_of_line h.keeps hline hafter, hkeeps, (EndsLine.append hline).ended,
    ofLines_append h.ended h.values hproper hline⟩

/-! ## Many values -/

/-- The values that have a text are added. Their lines come after the content that was
there, and so do the values that are read. -/
theorem lists_addValues (h : fs.Lists path content before) (hproper : ∀ v ∈ vs, v.Proper) :
    (fs.addValues path vs).2 = vs.filter (fun v => v.canonical?.isSome) ∧
      (fs.addValues path vs).1.Lists path
        (content ++ (fs.addValues path vs).2.flatMap fun v => encode v.text ++ [10])
        (before ++ (fs.addValues path vs).2.map Value.sorted) := by
  -- each addition changes what is there, so the induction is over every file and content
  induction vs generalizing fs content before with
  | nil => exact ⟨rfl, by simpa [addValues] using h⟩
  | cons v vs ih =>
    obtain ⟨hv, hvs⟩ := List.forall_mem_cons.mp hproper
    cases hcs : v.canonical? with
    | none =>
      obtain ⟨opened, hadd, hkeeps⟩ := addValue_of_no_text h.keeps hcs
      obtain ⟨hadded, hlists⟩ := ih ⟨hkeeps, h.ended, h.values⟩ hvs
      rw [addValues, hadd, List.filter_cons_of_neg (by simp [hcs])]
      exact ⟨hadded, hlists⟩
    | some cs =>
      have hwritten := Value.toLine_of_text hcs
      obtain ⟨_, hline⟩ := toLine_eq_ok hwritten
      obtain ⟨after, hadd, hlists⟩ := lists_of_line h hv hwritten
      obtain ⟨hadded, hlists'⟩ := ih hlists hvs
      rw [hline] at hlists'
      rw [addValues, hadd, List.filter_cons_of_pos (by simp [hcs])]
      dsimp only
      rw [List.flatMap_cons, List.map_cons, ← List.append_assoc, List.append_cons before]
      exact ⟨congrArg (v :: ·) hadded, hlists'⟩

/-- Lines keep values apart. Let a file be missing or empty or end with a line break,
and let values be added to it, whatever their strings hold. Those that have a
canonical text are added, and the file then holds what it held and, after it, their
lines. What is read are the values that were there and, after them, the added ones in
their order, each with the same canonical text; the members of an object come sorted
by name. To add a value without a text fails and adds no byte to the file. -/
theorem lines_keep_values_apart (hkeeps : fs.Keeps path content) (hended : Ended content)
    (hbefore : fs.values path = .ok before) (hproper : ∀ v ∈ vs, v.Proper) :
    ∃ after added, fs.addValues path vs = (after, added) ∧
      added = vs.filter (fun v => v.canonical?.isSome) ∧
      after.read path = .ok (content ++ added.flatMap fun v => encode v.text ++ [10]) ∧
      after.values path = .ok (before ++ added.map Value.sorted) ∧
      (added.map Value.sorted).map Value.canonical? = added.map Value.canonical? ∧
      ∀ v, v.canonical? = none → ∃ opened,
        after.addValue path v = (opened, .error .unwritable) ∧
          opened.read path = after.read path := by
  have hlines : ofLines content = .ok before := by
    rw [values, hkeeps.1] at hbefore
    exact hbefore
  obtain ⟨hadded, hlists⟩ := lists_addValues ⟨hkeeps, hended, hlines⟩ hproper
  refine ⟨_, _, rfl, hadded, hlists.keeps.1, values_of_lists hlists, ?_, fun v hv => ?_⟩
  · rw [List.map_map]
    exact List.map_congr_left fun v _ => canonical?_sorted v
  · obtain ⟨opened, hadd, hkeeps'⟩ := addValue_of_no_text hlists.keeps hv
    exact ⟨opened, hadd, hkeeps'.1.trans hlists.keeps.1.symm⟩

-- A missing file can be kept in a directory that is missing too.
example : ({} : Files).Keeps "logs/lines.jsonl" [] := ⟨rfl, _, rfl, rfl⟩

/-! ## A file whose lines end in three ways -/

/-- Two values and an empty line, ended in three ways. -/
def mixedEnds : Bytes := bytesOf "[1]\r\n\r\"x\"\r"

/-- A value that holds breaks of every kind, in names and in strings. -/
def brokenUp : Value :=
  .obj [("\r\n", .arr [.str "\x85\u2028\n", .obj [("\x00\u2029", .float (.ofRatio true 1 3))]]),
    ("\n", .str "\r")]

theorem values_full_of_breaks_stay_apart :
    let fs : Files := { contents := [(["lines.jsonl"], mixedEnds)] }
    let vs : List Value := [brokenUp, .int 18446744073709551616, .str "\n"]
    fs.Keeps "lines.jsonl" mixedEnds ∧ Ended mixedEnds ∧
      fs.values "lines.jsonl" = .ok [.arr [.int 1], .str "x"] ∧ (∀ v ∈ vs, v.Proper) ∧
      ∃ after, fs.addValues "lines.jsonl" vs = (after, [brokenUp, .str "\n"]) ∧
        after.values "lines.jsonl" = .ok [.arr [.int 1], .str "x", brokenUp.sorted, .str "\n"] ∧
        ∃ opened, after.addValue "lines.jsonl" (.int (-9223372036854775809)) =
          (opened, .error .unwritable) ∧ opened.read "lines.jsonl" = after.read "lines.jsonl" := by
  intro fs vs
  have hkeeps : fs.Keeps "lines.jsonl" mixedEnds := ⟨rfl, _, rfl, rfl⟩
  have hended : Ended mixedEnds := ended_concat rfl (bytesOf "[1]\r\n\r\"x\"")
  have hitem : (Value.arr [.int 1]).Proper := .arr (List.forall_mem_singleton.mpr (.int 1))
  have hfilled : filledLines mixedEnds =
      [encode (Value.arr [.int 1]).text, encode (Value.str "x").text] := by decide +kernel
  have hbefore : fs.values "lines.jsonl" = .ok [.arr [.int 1], .str "x"] := by
    change (filledLines mixedEnds).mapM ofLine = _
    rw [hfilled]
    exact mapM_eq_ok_iff.mpr
      (.cons (ofLine_encode_text hitem rfl) (.cons (ofLine_encode_text (.str "x") rfl) .nil))
  have hinner : (Value.obj [("\x00\u2029", .float (.ofRatio true 1 3))]).Proper :=
    .obj (by decide) (List.forall_mem_singleton.mpr (.float rfl))
  have hitems : (Value.arr [.str "\x85\u2028\n",
      .obj [("\x00\u2029", .float (.ofRatio true 1 3))]]).Proper :=
    .arr (List.forall_mem_cons.mpr ⟨.str _, List.forall_mem_singleton.mpr hinner⟩)
  have hbroken : brokenUp.Proper :=
    .obj (by decide) (List.forall_mem_cons.mpr ⟨hitems, List.forall_mem_singleton.mpr (.str _)⟩)
  have hproper : ∀ v ∈ vs, v.Proper := by
    simp only [vs, List.forall_mem_cons, List.not_mem_nil, false_implies, implies_true, and_true]
    exact ⟨hbroken, .int _, .str _⟩
  obtain ⟨after, added, hafter, hadded, _, hvalues, _, hrefused⟩ :=
    lines_keep_values_apart hkeeps hended hbefore hproper
  obtain rfl : added = [brokenUp, .str "\n"] := hadded.trans rfl
  exact ⟨hkeeps, hended, hbefore, hproper, after, hafter, hvalues, hrefused _ rfl⟩

end

end Unloop.Files
