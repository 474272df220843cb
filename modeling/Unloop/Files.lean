-- Files by their paths. A directory is there as soon as it holds a file, and
-- directories that hold none can be named besides. Writing a file makes the
-- directories that its path leads through.
import Unloop.Fault
import Unloop.Text.Utf8

namespace Unloop

open Text

/-! ## Paths -/

/-- A path has the character that ends paths. -/
def hasNull (path : String) : Bool := path.toList.contains '\x00'

/-- The names in a path, between its slashes. -/
def namesOf (path : String) : List String := (path.toList.splitOn '/').map String.ofList

/-- The slashes at the front of a path that count: two are kept as they are,
and more are as good as one. -/
def rootOf (path : String) : String :=
  match (path.toList.takeWhile (· == '/')).length with
  | 0 => ""
  | 2 => "//"
  | _ => "/"

/-- The names in a path that lead somewhere else. -/
def steps (path : String) : List String :=
  (namesOf path).filter fun name => name != "" && name != "."

/-- A path without needless parts. The empty path is the working directory. -/
def tidy (path : String) : String :=
  let text := rootOf path ++ "/".intercalate (steps path)
  if text.isEmpty then "." else text

/-! ## Locations -/

/-- Where a path leads, seen from the working directory: the names on the way,
after a slash for the root or after two points for each directory above. -/
abbrev Location := List String

/-- A location that is a directory whatever the files: the root, the working
directory and those above it. -/
def isAncestor (l : Location) : Bool := l == ["/"] || l.all (· == "..")

/-- The location that a name leads to from a directory. -/
def Location.step (l : Location) (name : String) : Location :=
  if name == "" || name == "." then l
  else if name == ".." then
    if l == ["/"] then l else if isAncestor l then l ++ [".."] else l.dropLast
  else l ++ [name]

/-- Where the names of a path lead from. -/
def startOf (path : String) : Location := if (rootOf path).isEmpty then [] else ["/"]

/-- Where a path leads, if every name on the way is a directory. -/
def locationOf (path : String) : Location := (steps path).foldl Location.step (startOf path)

/-- The path of a location. -/
def Location.path : Location → String
  | "/" :: names => "/" ++ "/".intercalate names
  | names => "/".intercalate names

/-! ## Files -/

/-- Files with their contents, and directories that may hold none. -/
structure Files where
  contents : List (Location × Bytes) := []
  directories : List Location := []

/-- What is at a location. -/
inductive Node where
  | file (content : Bytes)
  | directory

namespace Files

/-- The content of the file at a location. -/
def file? (fs : Files) (l : Location) : Option Bytes :=
  (fs.contents.find? fun f => f.1 == l).map Prod.snd

/-- Something lies below a location, or it is a directory anyhow. -/
def holds (fs : Files) (l : Location) : Bool :=
  isAncestor l || fs.directories.any (fun d => l.isPrefixOf d) ||
    fs.contents.any fun f => l.isPrefixOf f.1

/-- What is at a location. -/
def at? (fs : Files) (l : Location) : Option Node :=
  match fs.file? l with
  | some content => some (.file content)
  | none => if fs.holds l then some .directory else none

/-- The location that a name leads to from another one, which must be a
directory. -/
def enter? (fs : Files) (l : Location) (name : String) : Option Location :=
  match fs.at? l with
  | some .directory => some (Location.step l name)
  | _ => none

/-- What a path leads to. A slash at its end needs a directory before it. -/
def find? (fs : Files) (path : String) : Option Node :=
  if path.isEmpty then none
  else ((namesOf path).foldlM fs.enter? (startOf path)).bind fs.at?

/-- The contents with another one at a location: in the place of the one that
is there, or at the end. -/
def putIn (l : Location) (content : Bytes) : List (Location × Bytes) → List (Location × Bytes)
  | [] => [(l, content)]
  | f :: fs => if f.1 == l then (l, content) :: fs else f :: putIn l content fs

/-- The files with a content at a location. -/
def put (fs : Files) (l : Location) (content : Bytes) : Files :=
  { fs with contents := putIn l content fs.contents }

/-! ## Paths that cannot be -/

/-- The most bytes in a name. -/
def nameLimit : Nat := 255

/-- The most bytes in a path. -/
def pathLimit : Nat := 4095

/-- A name is too long. -/
def isLongName (name : String) : Bool := nameLimit < (bytesOf name).length

/-- The path leads to a name that is too long, through directories that are
there. -/
def leadsTooFar (fs : Files) (path : String) : Bool :=
  pathLimit < (bytesOf path).length ||
    ((namesOf path).any isLongName &&
      match ((namesOf path).takeWhile fun name => !isLongName name).foldlM fs.enter? (startOf path) with
      | some l => match fs.at? l with
        | some .directory => true
        | _ => false
      | none => false)

/-! ## Reading and writing -/

/-- The content of the file that a path leads to; a missing file is empty. -/
def read (fs : Files) (path : String) : Except Fault Bytes :=
  match fs.find? path with
  | some (.file content) => .ok content
  | some .directory => .error .isDirectory
  | none => if fs.leadsTooFar path then .error .longPath else .ok []

/-- Makes the directories that some names lead through, one after the other, and
gives where they lead. A file on the way is told in one way where a directory is
to be made in its place, and in another where it is to hold one. -/
def makeWay (fs : Files) (l : Location) (made : Bool) : List String → Except Fault (Files × Location)
  | [] => .ok (fs, l)
  | name :: names =>
    match fs.at? (l.step name) with
    | some .directory => fs.makeWay (l.step name) made names
    | some (.file _) => .error (if made || names.isEmpty then .fileExists else .notDirectory)
    | none =>
      if isLongName name then .error .longPath
      else { fs with directories := fs.directories ++ [l.step name] }.makeWay (l.step name) true names

/-- A path can be looked up: it has no null and is not too long. -/
def checkText (path : String) : Except Fault Unit :=
  if hasNull path then .error .nullInPath
  else if pathLimit < (bytesOf path).length then .error .longPath
  else .ok ()

/-- Makes a directory, and those that it needs. One that is there will do. -/
def makeDirectory (fs : Files) (path : String) : Except Fault Files := do
  checkText path
  return (← fs.makeWay (startOf path) false (steps path)).1

/-- The files with a change to the content of one, which must not be a
directory. A file that is not there has no content. -/
def changeAt (fs : Files) (l : Location) (name : String) (change : Bytes → Bytes) :
    Except Fault Files :=
  match fs.at? (l.step name) with
  | some .directory => .error .isDirectory
  | some (.file content) => .ok (fs.put (l.step name) (change content))
  | none =>
    if isLongName name then .error .longPath else .ok (fs.put (l.step name) (change []))

/-- Changes the content of a file, and makes the directories that it needs. -/
def update (fs : Files) (path : String) (change : Bytes → Bytes) : Except Fault Files := do
  checkText path
  let (fs, l) ← fs.makeWay (startOf path) false (steps path).dropLast
  match (steps path).getLast? with
  | none => .error .isDirectory
  | some name => fs.changeAt l name change

/-- Writes a file. -/
def write (fs : Files) (path : String) (content : Bytes) : Except Fault Files :=
  fs.update path fun _ => content

/-- Writes at the end of a file. -/
def append (fs : Files) (path : String) (content : Bytes) : Except Fault Files :=
  fs.update path fun before => before ++ content

/-! ## Laws -/

/-- What was put is there. -/
theorem file?_put_self (fs : Files) (l : Location) (content : Bytes) :
    (fs.put l content).file? l = some content := by
  simp only [put, file?]
  induction fs.contents with
  | nil => simp [putIn]
  | cons f cs ih =>
    unfold putIn
    split
    · simp
    · rename_i other
      simp only [List.find?_cons, other]
      exact ih

/-- Putting one file leaves the others as they are. -/
theorem file?_put_of_ne {fs : Files} {l other : Location} (h : other ≠ l) (content : Bytes) :
    (fs.put l content).file? other = fs.file? other := by
  have differs : (l == other) = false := by simp [Ne.symm h]
  simp only [put, file?]
  induction fs.contents with
  | nil => simp [putIn, differs]
  | cons f cs ih =>
    unfold putIn
    split
    · rename_i same
      have same : f.1 = l := by simpa using same
      simp [same, differs]
    · simp only [List.find?_cons]
      cases (f.1 == other) with
      | true => rfl
      | false => exact ih

end Files

end Unloop
