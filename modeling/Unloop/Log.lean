-- What is logged: events with a level, and the levels by their names.
import Unloop.Repair

namespace Unloop

open Json (Members Value)

/-! ## Levels -/

/-- The levels, from the one that lets everything through. -/
inductive Level where
  | notset
  | debug
  | info
  | warning
  | error
  | critical
  deriving DecidableEq

/-- The number of a level; the greater is the graver. -/
def Level.number : Level → Nat
  | notset => 0
  | debug => 10
  | info => 20
  | warning => 30
  | error => 40
  | critical => 50

/-- The word of a level in events. -/
def Level.word : Level → String
  | notset => "notset"
  | debug => "debug"
  | info => "info"
  | warning => "warning"
  | error => "error"
  | critical => "critical"

/-- The names of levels in capitals. Two levels have two names. -/
def Level.names : List (String × Level) :=
  [("NOTSET", .notset), ("DEBUG", .debug), ("INFO", .info), ("WARN", .warning),
    ("WARNING", .warning), ("ERROR", .error), ("CRITICAL", .critical), ("FATAL", .critical)]

/-- The capital of a letter, where that is one of the letters A to Z. Besides
the plain letters these are the dotless i and the long s. -/
def capital (c : Char) : Char :=
  if c = 'ı' then 'I' else if c = 'ſ' then 'S' else c.toUpper

/-- The level of a name in letters of either case. -/
def Level.ofName (name : String) : Except Fault Level :=
  let capitals := String.ofList (name.toList.map capital)
  orFault (.unknownLevel name) ((names.find? fun n => n.1 == capitals).map Prod.snd)

/-! ## Events -/

/-- What can happen that is logged. -/
inductive Event where
  /-- A flip led out of the program. -/
  | leaves (position : Nat) (reached : Int)
  /-- A flip left the program looping. -/
  | loops (position : Nat) (loopPosition : Int)
  /-- A repair was found. -/
  | repaired (r : Repair)
  /-- A command ended with a failure. -/
  | failed (f : Failure)
  deriving DecidableEq

/-- The level of an event. -/
def Event.level : Event → Level
  | leaves .. | loops .. => .debug
  | repaired _ => .info
  | failed _ => .error

/-- The name of an event. -/
def Event.name : Event → String
  | leaves .. | loops .. => "candidate_rejected"
  | repaired _ => "repair_found"
  | failed _ => "command_failed"

/-- The part of the program that logs an event. -/
def Event.source : Event → String
  | failed _ => "handheld.cli"
  | _ => "handheld.locator"

/-- The fields of an event. -/
def Event.fields : Event → Members
  | leaves position reached =>
    [("position", .int position), ("reason", .str "out_of_bounds"), ("pc", .int reached)]
  | loops position loopPosition =>
    [("position", .int position), ("reason", .str "looped"), ("loop_position", .int loopPosition)]
  | repaired r =>
    [("strategy", .str r.strategy.name), ("position", .int r.position),
      ("replacement", .str r.replacement.render), ("accumulator", .int r.accumulator),
      ("runs", .int r.stats.runs), ("steps", .int r.stats.steps)]
  | failed f => [("failure_atom", .str f.atom), ("error", .str f.message)]

/-- An event with its name and level. -/
def Event.record (e : Event) : Members :=
  e.fields ++ [("event", .str e.name), ("level", .str e.level.word)]

/-- The events that a level lets through. -/
def Level.filter (l : Level) (es : List Event) : List Event :=
  es.filter fun e => l.number ≤ e.level.number

end Unloop
