-- The program: it reads the files that the arguments name, carries out the
-- command, and writes what the command has changed.
import Std.Time.DateTime.Timestamp
import Unloop.Command

namespace Unloop.Main

open Command Json Text

/-! ## Before a command -/

/-- The paths that arguments may name: each argument, what stands behind an
equals sign in it, and the directories above these. -/
def pathsIn (args : List String) : List Location :=
  let named := args.flatMap fun arg => arg :: (splitOption arg).2.toList
  (named.map locationOf).flatMap fun l => (List.range l.length).map fun n => l.take (n + 1)

/-- Adds what is at a location to the files that are known. -/
def load (fs : Files) (l : Location) : IO Files := do
  try
    let content ← IO.FS.readBinFile l.path
    return fs.put l content.toList
  catch e =>
    match e with
    | .inappropriateType .. => return { fs with directories := l :: fs.directories }
    | _ => return fs

/-- The variables of the environment that settings are taken from. -/
def readEnvironment : IO Environment := do
  let found ← Settings.names.mapM fun name => do
    let full := "HANDHELD_" ++ name.toUpper
    return (← IO.getEnv full).map fun value => (full, value)
  return found.filterMap id

/-! ## After a command -/

/-- Makes the directories that are new, and writes the files that differ from
what they were. -/
def save (before after : Files) : IO Unit := do
  after.directories.forM fun l => do
    if !before.directories.contains l then IO.FS.createDirAll l.path
  after.contents.forM fun (l, content) => do
    if before.file? l != some content then
      if l.length > 1 then IO.FS.createDirAll (Location.path l.dropLast)
      IO.FS.writeBinFile (Location.path l) ⟨content.toArray⟩

/-- What is told of the way in which a command ended. -/
def complaint? : Finish → Option String
  | .exit _ => none
  | .usage u => some ("Error: " ++ u.message)
  | .crash fault => some ("Error: " ++ fault.valueMessage?.getD "the command cannot go on")

/-- Prints what a command printed and logged. -/
def tell (finish : Finish) (s : Shell) : IO Unit := do
  s.log.forM fun e => IO.eprintln (String.ofList (Value.obj e.record).text)
  s.out.forM fun line => IO.println line
  s.err.forM fun line => IO.eprintln line
  (complaint? finish).toList.forM fun line => IO.eprintln line

/-- Carries out a command. Where it reads the stopwatch, it is carried out a
second time, with readings that share the time of the first evenly. -/
def carryOut (s : Shell) (args : List String) : IO (Finish × Shell) := do
  let start ← IO.monoNanosNow
  let (finish, after) := execute s args
  let laps := after.clock.laps
  if laps = 0 then return (finish, after)
  let spent := (← IO.monoNanosNow) - start
  let clock := { s.clock with stopwatch := fun k => (2 * (spent / laps) * (k / 2 + k % 2) : Nat) }
  return execute { s with clock := clock } args

/-- Carries out the command that the arguments call for, and gives its exit
code. -/
def start (args : List String) : IO UInt32 := do
  let files ← (pathsIn args).foldlM load {}
  let now ← Std.Time.Timestamp.now
  let times : Nat → Int := fun k => now.toNanosecondsSinceUnixEpoch.val + k
  let clock : Clock := { times := times, stopwatch := fun _ => 0 }
  let before : Shell := { files := files, environment := ← readEnvironment, clock := clock }
  let (finish, after) ← carryOut before args
  tell finish after
  save files after.files
  return finish.code.toUInt32

end Unloop.Main

/-- Carries out the command that the arguments call for. -/
def main (args : List String) : IO UInt32 := Unloop.Main.start args
