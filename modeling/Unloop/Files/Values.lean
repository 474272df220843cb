-- Files of values, one to a line. A value is added at the end of its file, and
-- what is read are the values of all lines.
import Unloop.Files
import Unloop.Json.Lines

namespace Unloop.Files

open Json

/-- The values in a file. A missing file has none. -/
def values (fs : Files) (path : String) : Except Fault (List Value) := do
  Json.ofLines (← fs.read path)

/-- Adds a value to a file as a line. The file is opened before the value is
written, so it is there afterwards even if the value has no text. -/
def addValue (fs : Files) (path : String) (v : Value) : Files × Except Fault Unit :=
  match fs.append path [] with
  | .error fault => (fs, .error fault)
  | .ok opened =>
    match v.toLine >>= opened.append path with
    | .error fault => (opened, .error fault)
    | .ok after => (after, .ok ())

end Unloop.Files
