-- Settings, each with a default of its own.
import Unloop.Report

namespace Unloop

open Form Json

/-- What a user may choose. -/
structure Settings where
  strategy : Strategy := .speculative
  tieBreak : TieBreak := .lowestIndex
  recordTrace : Bool := false
  logLevel : String := "WARNING"
  logJson : Bool := false
  benchRepeats : Int := 5
  deriving DecidableEq

namespace Settings

/-- The names of the settings. -/
def names : List String :=
  ["strategy", "tie_break", "record_trace", "log_level", "log_json", "bench_repeats"]

/-- The settings of some members, checked. -/
def check (ms : Members) : Checked Settings :=
  Settings.mk
    <$> optional ms "strategy" (oneOf (Strategy.all.map fun s => (s.name, s))) .speculative
    <*> optional ms "tie_break" (oneOf (TieBreak.all.map fun t => (t.name, t))) .lowestIndex
    <*> optional ms "record_trace" truth false
    <*> optional ms "log_level" text "WARNING"
    <*> optional ms "log_json" truth false
    <*> optional ms "bench_repeats" (atLeast 1) 5

/-- The settings as JSON. -/
def toValue (s : Settings) : Value :=
  .obj [("strategy", .str s.strategy.name), ("tie_break", .str s.tieBreak.name),
    ("record_trace", .bool s.recordTrace), ("log_level", .str s.logLevel),
    ("log_json", .bool s.logJson), ("bench_repeats", .int s.benchRepeats)]

/-- The hash of the settings. -/
def hash (s : Settings) : Except Fault String := orFault .unwritable s.toValue.hash?

end Settings

end Unloop
