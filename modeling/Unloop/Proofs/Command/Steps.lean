-- The laws of the steps of a command. A step ends normally or stops, and what
-- holds then follows from what holds of the steps that it is made of. Printing
-- and logging leave the journal and the files alone, and an entry that fits
-- always comes to the end of the journal.
import Unloop.Proofs.Command.Notes
import Unloop.Proofs.Files
import Unloop.Proofs.Machine.Words
import Unloop.Command.Actions

namespace Unloop.Command

open Json Number Text

/-! ## The pure model -/

/-- The step ends normally so that `ok` holds, or stops so that `stopped`
holds. -/
def Ends {α : Type} (x : Session α) (s : Shell) (ok : α → Shell → Prop)
    (stopped : Halt → Shell → Prop) : Prop :=
  match x s with
  | .ok a s => ok a s
  | .error h s => stopped h s

/-- The step ends normally so that `ok` holds. -/
def Gives {α : Type} (x : Session α) (s : Shell) (ok : α → Shell → Prop) : Prop :=
  Ends x s ok fun _ _ => False

/-- Every reading of the clocks is a number of 63 bits. -/
def Clock.Fits (c : Clock) : Prop :=
  ∀ k, (0 ≤ c.times k ∧ c.times k < twoTo 63) ∧ 0 ≤ c.stopwatch k ∧ c.stopwatch k < twoTo 63

/-- Every reading of the stopwatch is a number of 63 bits. -/
def Clock.Brief (c : Clock) : Prop := ∀ k, 0 ≤ c.stopwatch k ∧ c.stopwatch k < twoTo 63

/-- The states agree in everything but what is printed and logged and how often
the clocks were read. -/
structure Beside (s after : Shell) : Prop where
  files : after.files = s.files
  book : after.book = s.book
  times : after.clock.times = s.clock.times
  stopwatch : after.clock.stopwatch = s.clock.stopwatch

/-- The entry tells what is asked for. -/
def Tells (request : Request) (e : Entry) : Prop :=
  ∃ d, request.draft = .ok d ∧ e.event = d.event ∧
    e.payload = sortedByName (membersSorted d.payload)

section

variable {α β : Type} {x : Session α} {f : α → Session β} {s after : Shell} {a : α}
  {ok mid : α → Shell → Prop} {good : β → Shell → Prop} {stopped before : Halt → Shell → Prop}
  {program path : String} {bytes : Bytes} {es : List Entry} {n : Int}
  {r : Except Fault α} {v : Value}

/-! ## Steps after one another -/

theorem ends_of_eq (h : x s = .ok a after) (hok : ok a after) : Ends x s ok stopped := by
  unfold Ends
  rw [h]
  exact hok

theorem ends_of_error {halt : Halt} (h : x s = .error halt after) (hstopped : stopped halt after) :
    Ends x s ok stopped := by
  unfold Ends
  rw [h]
  exact hstopped

theorem ends_pure (h : ok a s) : Ends (pure a) s ok stopped := h

theorem ends_throw {halt : Halt} (h : stopped halt s) : Ends (throw halt) s ok stopped := h

theorem ends_bind (hx : Ends x s mid stopped)
    (hf : ∀ a s', mid a s' → Ends (f a) s' good stopped) : Ends (x >>= f) s good stopped := by
  unfold Ends at hx ⊢
  change match EStateM.bind x f s with | .ok a s => good a s | .error h s => stopped h s
  unfold EStateM.bind
  rcases hrun : x s with ⟨a, s'⟩ | ⟨h, s'⟩
  · rw [hrun] at hx
    exact hf a s' hx
  · rw [hrun] at hx
    exact hx

/-- Nothing comes after a step that stops. -/
theorem ends_bind_of_stops (hx : Ends x s (fun _ _ => False) stopped) :
    Ends (x >>= f) s good stopped :=
  ends_bind hx fun _ _ h => h.elim

theorem ends_bind_of_error {halt : Halt} (h : x s = .error halt after)
    (hstopped : stopped halt after) : Ends (x >>= f) s good stopped :=
  ends_bind_of_stops (ends_of_error h hstopped)

theorem ends_mono (hx : Ends x s mid before) (hok : ∀ a s', mid a s' → ok a s')
    (hstopped : ∀ h s', before h s' → stopped h s') : Ends x s ok stopped := by
  unfold Ends at hx ⊢
  rcases hrun : x s with ⟨a, s'⟩ | ⟨h, s'⟩
  · rw [hrun] at hx
    exact hok a s' hx
  · rw [hrun] at hx
    exact hstopped h s' hx

/-- After a step that is done the next one goes on. -/
theorem bind_of_eq_ok (h : x s = .ok a after) : (x >>= f) s = f a after := by
  change EStateM.bind x f s = _
  unfold EStateM.bind
  rw [h]

theorem ends_bind_of_eq (h : x s = .ok a after) (hf : Ends (f a) after good stopped) :
    Ends (x >>= f) s good stopped := by
  unfold Ends at hf ⊢
  rw [bind_of_eq_ok h]
  exact hf

theorem exists_of_gives (h : Gives x s ok) : ∃ a after, x s = .ok a after ∧ ok a after := by
  unfold Gives Ends at h
  rcases hrun : x s with ⟨a, after⟩ | ⟨halt, after⟩
  · rw [hrun] at h
    exact ⟨a, after, rfl, h⟩
  · rw [hrun] at h
    exact h.elim

theorem ends_of_gives (hx : Gives x s mid) (hok : ∀ a s', mid a s' → ok a s') :
    Ends x s ok stopped :=
  ends_mono hx hok fun _ _ h => h.elim

/-- A step that ends normally goes before another one. -/
theorem ends_bind_of_gives (hx : Gives x s mid)
    (hf : ∀ a s', mid a s' → Ends (f a) s' good stopped) : Ends (x >>= f) s good stopped :=
  ends_bind (ends_of_gives hx fun _ _ h => h) hf

/-- One of two steps goes before another one. -/
theorem ends_ite_bind {c : Prop} [Decidable c] {y : Session α}
    (h : Gives (if c then x else y) s mid)
    (hf : ∀ a s', mid a s' → Ends (f a) s' good stopped) :
    Ends (if c then x >>= f else y >>= f) s good stopped := by
  by_cases hc : c
  · rw [if_pos hc] at h ⊢
    exact ends_bind_of_gives h hf
  · rw [if_neg hc] at h ⊢
    exact ends_bind_of_gives h hf

theorem ends_map {g : α → β} (hx : Ends x s (fun a s' => good (g a) s') stopped) :
    Ends (g <$> x) s good stopped := by
  rw [map_eq_pure_bind]
  exact ends_bind hx fun _ _ h => ends_pure h

/-- Each item is worked on in turn, as long as none stops. -/
theorem ends_mapM_forall₂ {as : List α} {keeps : Shell → Prop} {wanted : α → β → Prop}
    (hs : keeps s)
    (h : ∀ a ∈ as, ∀ s, keeps s → Ends (f a) s (fun b s' => keeps s' ∧ wanted a b) stopped) :
    Ends (as.mapM f) s (fun bs s' => keeps s' ∧ List.Forall₂ wanted as bs) stopped := by
  induction as generalizing s with
  | nil =>
    rw [List.mapM_nil]
    exact ends_pure ⟨hs, .nil⟩
  | cons a as ih =>
    rw [List.mapM_cons]
    refine ends_bind (h a (by simp) s hs) ?_
    rintro b s' ⟨hs', hb⟩
    refine ends_bind (ih hs' fun a ha => h a (List.mem_cons_of_mem _ ha)) ?_
    rintro bs s'' ⟨hs'', hbs⟩
    exact ends_pure ⟨hs'', .cons hb hbs⟩

theorem forall_of_forall₂ {as : List α} {bs : List β} {wanted : β → Prop}
    (h : List.Forall₂ (fun _ b => wanted b) as bs) : ∀ b ∈ bs, wanted b := by
  induction h with
  | nil => simp
  | cons hb _ ih => exact List.forall_mem_cons.mpr ⟨hb, ih⟩

theorem ends_mapM {as : List α} {keeps : Shell → Prop} {wanted : β → Prop} (hs : keeps s)
    (h : ∀ a ∈ as, ∀ s, keeps s → Ends (f a) s (fun b s' => keeps s' ∧ wanted b) stopped) :
    Ends (as.mapM f) s (fun bs s' => keeps s' ∧ ∀ b ∈ bs, wanted b) stopped :=
  ends_mono (ends_mapM_forall₂ hs h) (fun _ _ hmade => ⟨hmade.1, forall_of_forall₂ hmade.2⟩)
    fun _ _ hstopped => hstopped

/-- A part in which failures are reported ends as the report of one does. -/
theorem ends_reporting {caught : Failure → Shell → Prop}
    (hx : Ends x s ok fun h s' => ∃ failure, h = .crash (.failure failure) ∧ caught failure s')
    (hreport : ∀ failure s', caught failure s' → Ends (reportFailure failure) s' ok stopped) :
    Ends (reporting x) s ok stopped := by
  unfold Ends at hx ⊢
  unfold reporting
  rcases hrun : x s with ⟨a, s'⟩ | ⟨h, s'⟩
  · rw [hrun] at hx
    exact hx
  · rw [hrun] at hx
    obtain ⟨failure, rfl, hcaught⟩ := hx
    exact hreport failure s' hcaught

theorem reporting_of_eq_ok (h : x s = .ok a after) : reporting x s = .ok a after := by
  unfold reporting
  rw [h]

/-! ## Results that are at hand -/

theorem ends_orCrash (h : r = .ok a) (hok : ok a s) : Ends (orCrash r) s ok stopped := by
  rw [h]
  exact hok

theorem ends_orCrash_error {fault : Fault} (h : r = .error fault)
    (hstopped : stopped (.crash fault) s) : Ends (orCrash r) s ok stopped := by
  rw [h]
  exact hstopped

/-- A result that is at hand goes to the next step, in the same state. -/
theorem ends_orCrash_bind (h : r = .ok a) (hf : Ends (f a) s good stopped) :
    Ends (orCrash r >>= f) s good stopped := by
  rw [h]
  exact hf

theorem ends_shown_bind {g : String → Session β} (h : Writable n)
    (hg : Ends (g (numberText n)) s good stopped) : Ends (shown n >>= g) s good stopped := by
  unfold shown
  rw [writeNumber_of_writable h]
  exact hg

theorem readFile_of_find? (h : s.files.find? program = some (.file bytes)) :
    readFile program s = .ok bytes s := by
  unfold readFile
  change orCrash (s.files.read program) s = _
  rw [Files.read_of_find? h]
  rfl

theorem ends_readFile_bind {g : Bytes → Session β} (h : s.files.find? program = some (.file bytes))
    (hg : Ends (g bytes) s good stopped) : Ends (readFile program >>= g) s good stopped :=
  ends_bind_of_eq (readFile_of_find? h) hg

/-! ## Output -/

theorem beside_refl (s : Shell) : Beside s s := ⟨rfl, rfl, rfl, rfl⟩

theorem beside_trans {last : Shell} (h : Beside s after) (hlast : Beside after last) :
    Beside s last where
  files := hlast.files.trans h.files
  book := hlast.book.trans h.book
  times := hlast.times.trans h.times
  stopwatch := hlast.stopwatch.trans h.stopwatch

theorem gives_printLines (lines : List String) (s : Shell) :
    Gives (printLines lines) s fun _ s' => Beside s s' :=
  ends_of_eq rfl ⟨rfl, rfl, rfl, rfl⟩

theorem gives_logAll (events : List Event) (s : Shell) :
    Gives (logAll events) s fun _ s' => Beside s s' :=
  ends_of_eq rfl ⟨rfl, rfl, rfl, rfl⟩

theorem gives_printFailure (failure : Failure) (s : Shell) :
    Gives (printFailure failure) s fun _ s' => Beside s s' :=
  ends_of_eq rfl ⟨rfl, rfl, rfl, rfl⟩

/-- A value that can be written is printed. -/
theorem gives_printValue (hv : v.isWritable = true) (s : Shell) :
    Gives (printValue v) s fun _ s' => Beside s s' := by
  have htext : orFault .unwritable v.canonical? = .ok v.text := by
    rw [Value.canonical?, if_pos hv]
    rfl
  exact ends_orCrash_bind htext (gives_printLines _ s)

theorem Clock.Fits.brief {c : Clock} (h : c.Fits) : c.Brief := fun k => (h k).2

theorem brief_of_beside (h : Beside s after) (hs : s.clock.Brief) : after.clock.Brief := by
  unfold Clock.Brief
  rw [h.stopwatch]
  exact hs

/-- A reading of the stopwatch has 63 bits. -/
theorem gives_lap (h : s.clock.Brief) :
    Gives lap s fun n s' => Beside s s' ∧ 0 ≤ n ∧ n < twoTo 63 :=
  ends_of_eq rfl ⟨⟨rfl, rfl, rfl, rfl⟩, h _⟩

-- From here on a step is known by these laws alone.
attribute [irreducible] Ends

/-! ## The journal -/

end

end Unloop.Command
