-- Where settings come from: from what is given first, then from the
-- environment, from files of variables, and from files that hold one value
-- each. Members whose names begin with an underscore tell how to look.
import Unloop.Files
import Unloop.Settings
import Unloop.Settings.VariableFile
import Unloop.Text.LowerCase

namespace Unloop

open Form Json Text

/-- What settings are looked up in, besides what is given. -/
structure Surroundings where
  environment : Environment := []
  files : Files := {}

/-- How settings are looked up. -/
structure Lookup where
  /-- What stands before the name of a setting in that of a variable. -/
  lead : String := "HANDHELD_"
  /-- The case of letters counts in the names of variables. -/
  exactCase : Bool := false
  /-- Variables without a value count as missing. -/
  skipsEmpty : Bool := false
  /-- The value that stands for null. -/
  nullWord : Option String := none
  /-- The paths of files of variables, where a later one goes before. -/
  variableFiles : List String := []
  /-- The directories with files of one value each, where a later one goes
  before. -/
  valueDirectories : List String := []

/-! ## How to look -/

namespace Lookup

/-- The names that tell how to look. Those after the first nine do not matter
for these settings. -/
def names : List String :=
  ["_env_prefix", "_env_prefix_target", "_case_sensitive", "_env_ignore_empty",
    "_env_parse_none_str", "_env_file", "_secrets_dir", "_env_nested_max_split", "_cli_parse_args",
    "_nested_model_default_partial_update", "_env_file_encoding", "_env_nested_delimiter",
    "_env_parse_enums", "_cli_prog_name", "_cli_settings_source", "_cli_parse_none_str",
    "_cli_hide_none_type", "_cli_avoid_json", "_cli_enforce_required",
    "_cli_use_class_docs_for_groups", "_cli_exit_on_error", "_cli_prefix",
    "_cli_flag_prefix_char", "_cli_implicit_flags", "_cli_ignore_unknown_args",
    "_cli_kebab_case", "_cli_shortcuts", "_build_sources"]

/-- The name that stands for the settings themselves and can be given to
nothing else. -/
def takenName : String := "__pydantic_self__"

/-- Some paths: one, or several. -/
def paths : Value → Except Fault (List String)
  | .null => .ok []
  | .str s => .ok [s]
  | .arr items =>
    items.mapM fun v =>
      match v with
      | .str s => .ok s
      | _ => .error .badSources
  | .obj ms => .ok (ms.map Prod.fst)
  | _ => .error .badSources

/-- What stands before the names of variables: a text. What has a length but is
none cannot be put before a name. -/
def leadOf (ms : Members) : Except Fault String :=
  match (ms.get? "_env_prefix").getD .null with
  | .null => .ok ({} : Lookup).lead
  | .str s => .ok s
  | .arr _ | .obj _ => .error .sourcesFailed
  | _ => .error .badSources

/-- The lead counts for the names of settings. -/
def leadCounts (ms : Members) : Bool :=
  match (ms.get? "_env_prefix_target").getD .null with
  | .null => true
  | .str s => s == "variable" || s == "all"
  | _ => false

/-- A number is needed where a depth is given. -/
def checkDepth (ms : Members) : Except Fault Unit :=
  match (ms.get? "_env_nested_max_split").getD .null with
  | .null | .int _ | .float _ | .bool _ => .ok ()
  | v => if v.isTruthy then .error .badSources else .ok ()

/-- Arguments are to be a list, if there are any. -/
def checkArguments (ms : Members) : Except Fault Unit :=
  match (ms.get? "_cli_parse_args").getD .null with
  | .null | .bool _ | .arr _ => .ok ()
  | _ => .error .sourcesFailed

/-- How to look, as the given members tell. -/
def ofMembers (ms : Members) : Except Fault Lookup := do
  if (ms.get? takenName).isSome then .error .badSources
  let truth (name : String) := ((ms.get? name).map Value.isTruthy).getD false
  let lead ← leadOf ms
  checkDepth ms
  let variableFiles ← paths ((ms.get? "_env_file").getD .null)
  checkArguments ms
  return {
    lead := if leadCounts ms then lead else ""
    exactCase := truth "_case_sensitive"
    skipsEmpty := truth "_env_ignore_empty"
    nullWord :=
      match ms.get? "_env_parse_none_str" with
      | some (.str s) => some s
      | _ => none
    variableFiles := variableFiles
    valueDirectories := ← paths ((ms.get? "_secrets_dir").getD .null) }

/-! ## Variables -/

/-- A name as it counts. -/
def key (l : Lookup) (name : String) : String :=
  if l.exactCase then name else String.ofList (lowered name.toList)

/-- The name of the variable for a setting, as it counts. -/
def variableFor (l : Lookup) (name : String) : String := l.key (l.lead ++ name)

/-- The variables that count, by the names as they count; the last one of a
name goes before. -/
def counted (l : Lookup) (vs : Variables) : Variables :=
  (vs.filter fun v => !(l.skipsEmpty && v.2 == some "")).foldl
    (fun known v => VariableFile.put (l.key v.1) v.2 known) []

/-- The value of a setting among variables that count. -/
def among (l : Lookup) (vs : Variables) (name : String) : Option Value := do
  let value ← ((vs.find? fun v => v.1 == l.variableFor name).bind Prod.snd)
  return if l.nullWord == some value then .null else .str value

/-- The variables of the environment. -/
def fromEnvironment (l : Lookup) (around : Surroundings) : Variables :=
  l.counted (around.environment.map fun v => (v.1, some v.2))

/-- The variables of one file. A file that is not there has none. -/
def inFile (l : Lookup) (around : Surroundings) (path : String) : Except Fault Variables :=
  match around.files.find? (tidy path) with
  | some (.file content) =>
    (orFault .undecodable (VariableFile.read? around.environment content)).map l.counted
  | _ => .ok []

/-- The variables of all files. -/
def fromFiles (l : Lookup) (around : Surroundings) : Except Fault Variables := do
  let tables ← l.variableFiles.mapM (l.inFile around)
  return tables.flatten.foldl (fun known v => VariableFile.put v.1 v.2 known) []

/-- The variables of files that are for no setting. -/
def strangers (l : Lookup) (vs : Variables) : List String :=
  let wanted := Settings.names.map l.variableFor
  (vs.filter fun v =>
    v.2.any (fun value => !value.isEmpty) && !wanted.contains v.1 &&
      !Settings.names.contains v.1).map Prod.fst

/-! ## Files of one value -/

/-- The directories that are there. -/
def directories (l : Lookup) (around : Surroundings) : Except Fault (List Location) := do
  let found ← l.valueDirectories.mapM fun path =>
    match around.files.find? (tidy path) with
    | some .directory => .ok (some (locationOf path))
    | some (.file _) => .error .sourcesFailed
    | none => .ok none
  return found.filterMap id

/-- The value of a setting in a directory. -/
def inDirectory (l : Lookup) (around : Surroundings) (name : String) (directory : Location) :
    Option Value :=
  let wanted := l.variableFor name
  let named := around.files.contents.find? fun f =>
    match f.1.getLast? with
    | some last => f.1.dropLast == directory && l.key last == wanted
    | none => false
  named.map fun f => .str (String.ofList (trimBlanks (decodeShown f.2)))

/-- The value of a setting in some directories, the last of which goes
before. -/
def inDirectories (l : Lookup) (around : Surroundings) (name : String) (ds : List Location) :
    Option Value :=
  ds.reverse.findSome? (l.inDirectory around name)

end Lookup

/-! ## Settings -/

namespace Settings

/-- The value that is given for a setting. The letters of its name may have
either case; the name as it is goes before, and else the first. -/
def given? (given : Members) (name : String) : Option Value :=
  (given.get? name).or
    ((given.find? fun m => String.ofList (lowered m.1.toList) == name).map Prod.snd)

/-- The names that are given but are for no setting. -/
def strangers (given : Members) : List String :=
  (given.map Prod.fst).filter fun name =>
    !names.contains (String.ofList (lowered name.toList)) && !Lookup.names.contains name

/-- The settings from given members and from what is around. -/
def resolve (around : Surroundings) (given : Members) : Except Fault Settings := do
  let l ← Lookup.ofMembers given
  let first := l.fromEnvironment around
  let second ← l.fromFiles around
  let third ← l.directories around
  let chosen := names.filterMap fun name =>
    ((given? given name).or ((l.among first name).or
      ((l.among second name).or (l.inDirectories around name third)))).map fun v => (name, v)
  let others := (l.strangers second ++ strangers given).eraseDups
  (check chosen <* noFields others).toExcept

/-- The settings from a given value and from what is around. -/
def ofValue (around : Surroundings) : Value → Except Fault Settings
  | .obj ms => resolve around ms
  | _ => .error .noFields

end Settings

end Unloop
