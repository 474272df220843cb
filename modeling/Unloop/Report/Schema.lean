-- The JSON Schemas of the reports, from one table of fields for each.
import Unloop.Report

namespace Unloop.Schema

open Json

/-- What a field may hold. -/
inductive Kind where
  | text
  | whole
  | number
  | truth
  | oneOf (words : List String)
  | listOf (name : String)
  | orNull (k : Kind)

/-- The schema of what a field may hold. -/
def Kind.schema : Kind → Members
  | text => [("type", .str "string")]
  | whole => [("type", .str "integer")]
  | number => [("type", .str "number")]
  | truth => [("type", .str "boolean")]
  | oneOf words => [("type", .str "string"), ("enum", .arr (words.map .str))]
  | listOf name => [("type", .str "array"), ("items", .obj [("$ref", .str ("#/$defs/" ++ name))])]
  | orNull k => [("anyOf", .arr [.obj k.schema, .obj [("type", .str "null")]])]

/-- A field: its name, what it may hold, and its value where it is missing. -/
structure Field where
  name : String
  kind : Kind
  default : Option Value := none

/-- The text with its first letter a capital. -/
def capitalized : List Char → List Char
  | [] => []
  | c :: cs => c.toUpper :: cs

/-- The title of a field: its words, each with a capital. -/
def title (name : String) : String :=
  " ".intercalate ((name.splitOn "_").map fun w => String.ofList (capitalized w.toList))

/-- The schema of a field. -/
def Field.schema (f : Field) : Value :=
  .obj (f.kind.schema ++ [("title", .str (title f.name))] ++
    match f.default with
    | some v => [("default", v)]
    | none => [])

/-- The schema of an object with some fields. -/
def object (name : String) (fields : List Field) : Members :=
  [("title", .str name), ("type", .str "object"),
    ("properties", .obj (fields.map fun f => (f.name, f.schema))),
    ("required", .arr ((fields.filter fun f => f.default.isNone).map fun f => .str f.name))]

/-! ## The tables -/

/-- The fields that all reports have. -/
def provenance : List Field :=
  [⟨"schema_version", .text, some (.str "v1")⟩,
    ⟨"canonicalization", .text, some (.str canonicalization)⟩,
    ⟨"hash_algorithm", .text, some (.str hashAlgorithm)⟩,
    ⟨"program_hash", .text, none⟩,
    ⟨"engine_hash", .text, some (.str machineHash)⟩]

/-- The fields of the report of a run. -/
def run : List Field :=
  provenance ++
    [⟨"length", .whole, none⟩, ⟨"outcome", .oneOf ["TERMINATED", "LOOPED"], none⟩,
      ⟨"accumulator", .whole, none⟩, ⟨"loop_position", .orNull .whole, some .null⟩,
      ⟨"steps", .whole, none⟩, ⟨"trace_hash", .orNull .text, some .null⟩]

/-- The fields of the report of a repair. -/
def repair : List Field :=
  provenance ++
    [⟨"strategy", .text, none⟩, ⟨"tie_break", .text, none⟩, ⟨"position", .whole, none⟩,
      ⟨"original", .text, none⟩, ⟨"replacement", .text, none⟩, ⟨"accumulator", .whole, none⟩,
      ⟨"runs", .whole, none⟩, ⟨"steps", .whole, none⟩, ⟨"candidates_tried", .whole, none⟩,
      ⟨"out_of_bounds", .whole, none⟩, ⟨"verified", .orNull .truth, some .null⟩]

/-- The fields of a timing. -/
def timing : List Field :=
  [⟨"strategy", .text, none⟩, ⟨"repeats", .whole, none⟩, ⟨"best_ms", .number, none⟩,
    ⟨"mean_ms", .number, none⟩, ⟨"runs", .whole, none⟩, ⟨"steps", .whole, none⟩,
    ⟨"position", .whole, none⟩, ⟨"accumulator", .whole, none⟩]

/-- The fields of the report of a comparison. -/
def bench : List Field :=
  provenance ++
    [⟨"length", .whole, none⟩, ⟨"tie_break", .text, none⟩,
      ⟨"timings", .listOf "StrategyTiming", none⟩, ⟨"agreed", .truth, none⟩]

/-- The schemas that are exported, by the names of the reports. -/
def exported : List (String × Value) :=
  [("RunReport", .obj (object "RunReport" run)),
    ("RepairReport", .obj (object "RepairReport" repair)),
    ("BenchReport",
      .obj (("$defs", .obj [("StrategyTiming", .obj (object "StrategyTiming" timing))]) ::
        object "BenchReport" bench))]

end Unloop.Schema
