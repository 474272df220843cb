-- Whole runs of a journal: opened, written to and opened anew, from an empty
-- file on. What was hashed in memory is what is read back, so the chain of the
-- file holds after every call, and the file alone tells how to go on.
import Unloop.Proofs.Journal.Draft

namespace Unloop

open Form Json Text

/-! ## Logbooks -/

/-- What a journal is asked to write down. -/
inductive Request where
  | start (command path : String) (settings : Settings)
  | record (r : Report)
  | failure (f : Failure)

/-- The draft of the entry that is asked for. -/
def Request.draft : Request → Except Fault Draft
  | start command path settings => Draft.start command path settings
  | record r => Draft.record r
  | failure f => .ok (Draft.failure f)

/-- A call: the journal is opened on its file anew, or writes an entry at a
time. -/
inductive Call where
  | reopen
  | write (ts : Int) (request : Request)

/-- The content of a file, and the journal that is open on it. -/
structure Logbook where
  content : Bytes := []
  journal : Journal := {}

/-- The entry that a request brings about. -/
def Logbook.write (s : Logbook) (ts : Int) (request : Request) : Except Fault Journal.Appended := do
  s.journal.append ts (← request.draft)

/-- The logbook after a call. A call that fails leaves it as it was. -/
def Logbook.after (s : Logbook) : Call → Logbook
  | .reopen =>
    match Journal.ofContent s.content with
    | .ok journal => { s with journal := journal }
    | .error _ => s
  | .write ts request =>
    match s.write ts request with
    | .ok a => ⟨s.content ++ a.line, a.journal⟩
    | .error _ => s

/-- The logbook after some calls, from an empty file on. -/
def Logbook.run (calls : List Call) : Logbook := calls.foldl Logbook.after {}

/-- Every floating-point number of a report that is to be recorded is finite. -/
def Call.HasFiniteFloats : Call → Prop
  | .write _ (.record r) => r.HasFiniteFloats
  | _ => True

/-- Every whole number that a request brings into the entry has 64 bits, and a
report is of a kind that the journal takes. -/
def Request.Fits : Request → Prop
  | start _ _ settings => settings.toValue.wordsOnly = true
  | record r => (EntryEvent.ofReport? r).isSome = true ∧ r.toValue.wordsOnly = true
  | failure _ => True

/-- What every call keeps: the entries of the file are these, their chain holds,
and the open journal goes on after the last one. -/
structure Logbook.Sound (s : Logbook) (es : List Entry) : Prop where
  ends : EndsLine s.content
  entries : Journal.entries s.content = .ok es
  chained : Chained "" 0 es
  journal : s.journal = ⟨es.length, .str (lastHashFrom "" es)⟩

/-- What is appended is the line of an entry that has its place after the hash
`prev`, and the journal goes on after it. -/
structure Journal.Appended.Follows (a : Journal.Appended) (prev : String) (n : Nat) : Prop where
  proper : a.entry.toValue.Proper
  line : a.entry.toValue.toLine = .ok a.line
  fits : a.entry.stored.Fits prev n
  journal : a.journal = ⟨n + 1, .str a.entry.entryHash⟩

section

variable {es : List Entry} {e : Entry} {d : Draft} {ts : Int} {request : Request} {s : Logbook}
  {a : Journal.Appended} {c : Call} {calls : List Call} {content : Bytes} {prev : String} {n : Nat}

/-! ## Requests -/

/-- What is asked for is a sound draft, with the whole numbers of the request. -/
theorem sound_draft (hfinite : (Call.write ts request).HasFiniteFloats)
    (h : request.draft = .ok d) :
    d.Sound ∧ (membersWordsOnly d.payload = true ↔ request.Fits) := by
  cases request with
  | start command path settings =>
    obtain ⟨hsound, hwords⟩ := sound_start h
    exact ⟨hsound, by rw [hwords]; rfl⟩
  | record r =>
    obtain ⟨hsound, hevent, hpayload⟩ := sound_record hfinite h
    refine ⟨hsound, ?_⟩
    rw [hpayload, Request.Fits, hevent]
    exact (and_iff_right rfl).symm
  | failure f =>
    obtain rfl := Except.ok.inj h
    exact ⟨sound_failure f, iff_of_true rfl trivial⟩

theorem draft_of_fits (hfinite : (Call.write ts request).HasFiniteFloats) (h : request.Fits) :
    ∃ d, request.draft = .ok d := by
  cases request with
  | start command path settings => exact start_of_wordsOnly h
  | record r => exact record_of_wordsOnly hfinite h.1 h.2
  | failure f => exact ⟨_, rfl⟩

/-! ## One call -/

/-- An open journal writes down a request exactly when all whole numbers of the entry
have 64 bits and the journal takes it. -/
theorem write_ok_iff_of_journal (hjournal : s.journal = ⟨n, .str prev⟩)
    (hfinite : (Call.write ts request).HasFiniteFloats) :
    (∃ a, s.write ts request = .ok a) ↔
      inWordRange n = true ∧ inWordRange ts = true ∧ request.Fits := by
  simp only [Logbook.write, bind_eq_ok_iff, hjournal]
  constructor
  · rintro ⟨a, d, hd, ha⟩
    obtain ⟨hsound, hfits⟩ := sound_draft hfinite hd
    rw [← hfits]
    exact (append_ok_iff hsound).mp ⟨a, ha⟩
  · rintro ⟨hseq, hts, hrequest⟩
    obtain ⟨d, hd⟩ := draft_of_fits hfinite hrequest
    obtain ⟨hsound, hfits⟩ := sound_draft hfinite hd
    obtain ⟨a, ha⟩ := (append_ok_iff hsound).mpr ⟨hseq, hts, hfits.mpr hrequest⟩
    exact ⟨a, d, hd, ha⟩

/-- A request is written down exactly when all its whole numbers have 64 bits
and the journal takes it. -/
theorem write_ok_iff (hs : s.Sound es) (hfinite : (Call.write ts request).HasFiniteFloats) :
    (∃ a, s.write ts request = .ok a) ↔
      inWordRange es.length = true ∧ inWordRange ts = true ∧ request.Fits :=
  write_ok_iff_of_journal hs.journal hfinite

theorem follows_of_write (hjournal : s.journal = ⟨n, .str prev⟩)
    (hfinite : (Call.write ts request).HasFiniteFloats) (ha : s.write ts request = .ok a) :
    a.Follows prev n := by
  obtain ⟨d, hd, happend⟩ := bind_eq_ok_iff.mp ha
  have hsound := (sound_draft hfinite hd).1
  rw [hjournal] at happend
  obtain ⟨h, _, he, hline, hnext⟩ := append_eq_ok_iff.mp happend
  exact {
    proper := by
      rw [he]
      exact (within_toValue hsound.payload).1
    line := hline
    fits := fits_appended hsound happend
    journal := by rw [hnext, he] }

/-- After lines that have ended the line of an entry adds this entry. -/
theorem entries_append (hcontent : Ended content) (hentries : Journal.entries content = .ok es)
    (ha : a.Follows prev n) :
    Journal.entries (content ++ a.line) = .ok (es ++ [a.entry.stored]) := by
  obtain ⟨vs, hvs, hes⟩ := entries_eq_ok_iff.mp hentries
  exact entries_eq_ok_iff.mpr ⟨_, ofLines_append hcontent hvs ha.proper ha.line,
    List.rel_append hes (.cons (ofValue_toValue _) .nil)⟩

theorem chained_concat (hes : Chained "" 0 es) (ha : e.Fits (lastHashFrom "" es) es.length) :
    Chained "" 0 (es ++ [e]) :=
  chained_append.mpr ⟨hes, by rwa [Nat.zero_add], trivial⟩

/-- An entry that is written comes after the others. -/
theorem sound_of_write (hs : s.Sound es) (hfinite : (Call.write ts request).HasFiniteFloats)
    (ha : s.write ts request = .ok a) :
    (⟨s.content ++ a.line, a.journal⟩ : Logbook).Sound (es ++ [a.entry.stored]) := by
  have hfollows := follows_of_write hs.journal hfinite ha
  exact {
    ends := EndsLine.append hfollows.line
    entries := entries_append hs.ends.ended hs.entries hfollows
    chained := chained_concat hs.chained hfollows.fits
    journal := by
      rw [hfollows.journal, lastHashFrom_concat, List.length_append, List.length_singleton]
      rfl }

theorem sound_after_write (hs : s.Sound es) (ts : Int) (request : Request)
    (hfinite : (Call.write ts request).HasFiniteFloats)
    (h : inWordRange es.length = true ∧ inWordRange ts = true ∧ request.Fits) :
    ∃ e, (s.after (.write ts request)).Sound (es ++ [e]) := by
  obtain ⟨a, ha⟩ := (write_ok_iff hs hfinite).mpr h
  refine ⟨a.entry.stored, ?_⟩
  rw [Logbook.after, ha]
  exact sound_of_write hs hfinite ha

/-- A request that is refused changes nothing. -/
theorem after_refused (hs : s.Sound es) (ts : Int) (request : Request)
    (hfinite : (Call.write ts request).HasFiniteFloats)
    (h : ¬ (inWordRange es.length = true ∧ inWordRange ts = true ∧ request.Fits)) :
    s.after (.write ts request) = s := by
  rw [← write_ok_iff hs hfinite] at h
  rw [Logbook.after]
  split
  · exact absurd ⟨_, ‹_›⟩ h
  · rfl

/-- Opening the journal anew changes nothing. -/
theorem after_reopen (hs : s.Sound es) : s.after .reopen = s := by
  rw [Logbook.after, ofContent_of_entries hs.entries, ← hs.journal]

theorem sound_after (hs : s.Sound es) (hc : c.HasFiniteFloats) :
    ∃ es', (s.after c).Sound es' := by
  cases c with
  | reopen => exact ⟨es, by rw [after_reopen hs]; exact hs⟩
  | write ts request =>
    by_cases h : inWordRange es.length = true ∧ inWordRange ts = true ∧ request.Fits
    · obtain ⟨a, ha⟩ := sound_after_write hs ts request hc h
      exact ⟨_, ha⟩
    · exact ⟨es, by rw [after_refused hs ts request hc h]; exact hs⟩

/-! ## Whole runs -/

theorem sound_empty : ({} : Logbook).Sound [] where
  ends := Or.inl rfl
  entries := rfl
  chained := trivial
  journal := rfl

theorem sound_run (hfinite : ∀ c ∈ calls, c.HasFiniteFloats) :
    ∃ es, (Logbook.run calls).Sound es := by
  have hrun : ∀ (s : Logbook) (es : List Entry), s.Sound es →
      ∃ es', (calls.foldl Logbook.after s).Sound es' := by
    induction calls with
    | nil => exact fun s es hs => ⟨es, hs⟩
    | cons c calls ih =>
      intro s es hs
      obtain ⟨hc, hcalls⟩ := List.forall_mem_cons.mp hfinite
      obtain ⟨es', hs'⟩ := sound_after hs hc
      exact ih hcalls _ es' hs'
  exact hrun {} [] sound_empty

/-- The invariant of a journal, over whole runs. After any calls, the chain of
the file holds, and the open journal is the one that is opened on the file: its
number is that of the entries, and its hash that of the last one. The next call
that writes an entry adds it at the end and changes nothing before it; one that
fails changes nothing, and fails exactly if the report is of no kind that the
journal takes or a whole number of the entry has more than 64 bits. -/
theorem every_call_keeps_the_journal_sound (calls : List Call)
    (hfinite : ∀ c ∈ calls, c.HasFiniteFloats) :
    ∃ es, Journal.entries (Logbook.run calls).content = .ok es ∧
      Journal.verify (Logbook.run calls).content = .ok .holds ∧
      (Logbook.run calls).journal = ⟨es.length, .str (lastHashFrom "" es)⟩ ∧
      Journal.ofContent (Logbook.run calls).content = .ok (Logbook.run calls).journal ∧
      (Logbook.run calls).after .reopen = Logbook.run calls ∧
      ∀ ts request, (Call.write ts request).HasFiniteFloats →
        ((∃ a, (Logbook.run calls).write ts request = .ok a) ↔
          inWordRange es.length = true ∧ inWordRange ts = true ∧ request.Fits) ∧
        (∀ a, (Logbook.run calls).write ts request = .ok a →
          ((Logbook.run calls).after (.write ts request)).content =
            (Logbook.run calls).content ++ a.line ∧
          Journal.entries ((Logbook.run calls).after (.write ts request)).content =
            .ok (es ++ [a.entry.stored])) ∧
        ∀ fault, (Logbook.run calls).write ts request = .error fault →
          (Logbook.run calls).after (.write ts request) = Logbook.run calls := by
  obtain ⟨es, hs⟩ := sound_run hfinite
  refine ⟨es, hs.entries, verify_eq_holds_iff.mpr ⟨es, hs.entries, hs.chained⟩, hs.journal, ?_,
    after_reopen hs, fun ts request hrequest => ⟨write_ok_iff hs hrequest, fun a ha => ?_,
      fun fault hfault => ?_⟩⟩
  · rw [ofContent_of_entries hs.entries, hs.journal]
  · have hafter : (Logbook.run calls).after (.write ts request) =
        ⟨(Logbook.run calls).content ++ a.line, a.journal⟩ := by
      rw [Logbook.after, ha]
    rw [hafter]
    exact ⟨rfl, (sound_of_write hs hrequest ha).entries⟩
  · rw [Logbook.after, hfault]

/-- A comparison of the strategies that took no time. -/
def quickBench : Report :=
  .bench ⟨{ programHash := "" }, 3, "lowest_index",
    [⟨"naive", 1, .zero false, .zero true, 2, 3, 4, -5⟩], true⟩

/-- Calls of every kind. The bare report and the failure at a time of 65 bits
are refused. -/
def mixedCalls : List Call :=
  [.reopen, .write 1 (.start "bench" "boot.txt" {}), .write 2 (.record quickBench),
    .write 3 (.record (.plain { programHash := "" })), .reopen,
    .write (Number.twoTo 64) (.failure (.general "late"))]

theorem mixed_calls_leave_two_entries :
    (∀ c ∈ mixedCalls, c.HasFiniteFloats) ∧
      ∃ es, es.length = 2 ∧ Journal.entries (Logbook.run mixedCalls).content = .ok es ∧
        Journal.verify (Logbook.run mixedCalls).content = .ok .holds ∧
        (Logbook.run mixedCalls).journal = ⟨2, .str (lastHashFrom "" es)⟩ := by
  have hquick : quickBench.HasFiniteFloats := List.forall_mem_singleton.mpr (by decide)
  have hfinite : ∀ c ∈ mixedCalls, c.HasFiniteFloats := by
    simp only [mixedCalls, List.forall_mem_cons, List.not_mem_nil, false_implies, implies_true,
      and_true]
    exact ⟨trivial, trivial, hquick, trivial, trivial, trivial⟩
  obtain ⟨es, hes, hverify, hjournal, _⟩ := every_call_keeps_the_journal_sound mixedCalls hfinite
  have htwo : es.length = 2 := by
    obtain ⟨e, he⟩ := sound_after_write sound_empty 1 (.start "bench" "boot.txt" {}) trivial
      ⟨by decide, by decide, rfl⟩
    obtain ⟨f, hf⟩ := sound_after_write he 2 (.record quickBench) hquick
      ⟨(by decide : inWordRange (1 : Nat) = true), by decide, rfl, rfl⟩
    have hplain := after_refused hf 3 (.record (.plain { programHash := "" })) trivial
      fun h => absurd h.2.2.1 (by decide)
    have hlate := after_refused hf (Number.twoTo 64) (.failure (.general "late")) trivial
      fun h => absurd h.2.1 (by decide)
    simp only [Logbook.run, mixedCalls, List.foldl_cons, List.foldl_nil, after_reopen sound_empty,
      hplain, after_reopen hf, hlate, hf.entries, Except.ok.injEq] at hes
    rw [← hes]
    rfl
  exact ⟨hfinite, es, htwo, hes, hverify, by rw [hjournal, htwo]⟩

end

end Unloop
