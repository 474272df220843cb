-- How a command keeps its journal: as a logbook does. Opening the journal
-- takes what the file tells, an entry goes to the end of the file, and where
-- no entry comes about neither the files nor the journal change.
import Unloop.Command.Session
import Unloop.Proofs.Journal.Logbook

namespace Unloop.Command

/-- The state after the time was taken. -/
def Shell.stamped (s : Shell) : Shell :=
  { s with clock := { s.clock with stamped := s.clock.stamped + 1 } }

section

variable {s : Shell} {b : Book} {l : Logbook} {request : Request} {a : Journal.Appended}
  {j : Journal} {files : Files} {fault : Fault} {path : String} {content : Text.Bytes}

theorem get_eq (s : Shell) : (get : Session Shell) s = .ok s s := rfl

theorem stamp_eq (s : Shell) : stamp s = .ok (s.clock.times s.clock.stamped) s.stamped := rfl

/-- One entry of an open journal, step by step. -/
theorem write_eq (b : Book) (d : Draft) (s : Shell) :
    b.write d s =
      match b.journal.append (s.clock.times s.clock.stamped) d with
      | .error fault => .error (.crash fault) s.stamped
      | .ok a =>
        match s.files.append b.path a.line with
        | .error fault => .error (.crash fault) s.stamped
        | .ok files =>
          .ok () { s.stamped with
            files := files, book := some { b with journal := a.journal } } := by
  unfold Book.write
  simp only [bind, EStateM.bind, stamp_eq, get_eq]
  cases b.journal.append (s.clock.times s.clock.stamped) d with
  | error fault => rfl
  | ok a =>
    dsimp only [orCrash, Shell.stamped]
    simp only [pure, EStateM.pure]
    cases s.files.append b.path a.line with
    | error fault => rfl
    | ok files => rfl

theorem note_eq (hbook : s.book = some b) (draft : Except Fault Draft) :
    note draft s = (orCrash draft >>= b.write) s := by
  unfold note
  simp only [bind, EStateM.bind, get_eq, hbook]

/-- Where the logbook refuses an entry, so does the command, and it leaves the
files and the journal as they are. -/
theorem note_of_fault (hbook : s.book = some b) (hl : l.journal = b.journal)
    (h : l.write (s.clock.times s.clock.stamped) request = .error fault) :
    ∃ clock, note request.draft s = .error (.crash fault) { s with clock := clock } := by
  rw [note_eq hbook]
  unfold Logbook.write at h
  cases hdraft : request.draft with
  | error f =>
    rw [hdraft] at h
    obtain rfl := Except.error.inj h
    exact ⟨s.clock, rfl⟩
  | ok d =>
    rw [hdraft, hl] at h
    change b.journal.append _ d = _ at h
    refine ⟨s.stamped.clock, (write_eq b d s).trans ?_⟩
    rw [h]
    rfl

end

end Unloop.Command
