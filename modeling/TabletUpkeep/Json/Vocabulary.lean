import TabletUpkeep.Settings.Basic
import TabletUpkeep.Json.Value
import TabletUpkeep.Tablet.ReadCounters
import TabletUpkeep.Tablet.Rowset

/-! The storage vocabulary as JSON. Writing gives objects with the fields in order; reading takes
these and every other form of a record. Unlike settings, all fields must be there. -/
namespace TabletUpkeep

open Described

namespace Coded

variable {α : Type} [Coded α]

def toJson (a : α) : Json := .text (name a)

def ofJson? (v : Json) : Option α := v.memberName?.bind ofName?

end Coded

namespace Tier

def toJson (t : Tier) : Json := .text t.name

def ofJson? (v : Json) : Option Tier := v.memberName?.bind ofName?

end Tier

namespace Version

def toJson (v : Version) : Json :=
  .object [("start", .integer v.first.toInt), ("end", .integer v.last.toInt)]

def ofJson? (v : Json) : Option Version := do
  match ← v.fields? ["start", "end"] with
  | [first, last] => return { first := ← required word? first, last := ← required word? last }
  | _ => none

end Version

namespace Tablet

def toJson (t : Tablet) : Json :=
  .object [("tablet_id", .integer t.id.toInt), ("schema_hash", .integer t.schemaHash.toInt)]

def ofJson? (v : Json) : Option Tablet := do
  match ← v.fields? ["tablet_id", "schema_hash"] with
  | [id, schemaHash] =>
    return { id := ← required word? id, schemaHash := ← required word? schemaHash }
  | _ => none

end Tablet

namespace KeyRange

def toJson (r : KeyRange) : Json := .object [("min", .text r.min), ("max", .text r.max)]

def ofJson? (v : Json) : Option KeyRange := do
  match ← v.fields? ["min", "max"] with
  | [min, max] => return { min := ← required text? min, max := ← required text? max }
  | _ => none

end KeyRange

namespace Rowset

def fieldNames : List String :=
  ["rowset_id", "num_segments", "num_rows", "data_size", "index_size", "empty", "key_ranges"]

def toJson (r : Rowset) : Json :=
  .object (fieldNames.zip
    [.integer r.id.toInt, .integer r.segments.toInt, .integer r.rows.toInt,
     .integer r.dataSize.toNat, .integer r.indexSize.toNat, .boolean r.isEmpty,
     .array (r.keyRanges.map KeyRange.toJson)])

def ofJson? (v : Json) : Option Rowset := do
  match ← v.fields? fieldNames with
  | [id, segments, rows, dataSize, indexSize, isEmpty, keyRanges] =>
    return { id := ← required word? id
             segments := ← required word? segments
             rows := ← required word? rows
             dataSize := ← required word? dataSize
             indexSize := ← required word? indexSize
             isEmpty := ← required boolean? isEmpty
             keyRanges := ← required (list? KeyRange.ofJson?) keyRanges }
  | _ => none

end Rowset

namespace VersionContents

def fieldNames : List String := ["version", "version_hash", "rowsets"]

def toJson (e : VersionContents) : Json :=
  .object (fieldNames.zip
    [e.version.toJson, .integer e.versionHash.toInt, .array (e.rowsets.map Rowset.toJson)])

def ofJson? (v : Json) : Option VersionContents := do
  match ← v.fields? fieldNames with
  | [version, versionHash, rowsets] =>
    return { version := ← required Version.ofJson? version
             versionHash := ← required word? versionHash
             rowsets := ← required (list? Rowset.ofJson?) rowsets }
  | _ => none

end VersionContents

namespace ReadCounters

def fieldNames : List String := counters.map (·.key)

def toJson (s : ReadCounters) : Json :=
  .object (counters.map fun c => (c.key, .integer (c.get s).toInt))

/-- The statistics with the listed counters set to the values given for them. -/
def setAll? : List Counter → List (Option Json) → ReadCounters → Option ReadCounters
  | c :: counters, field :: fields, s => do
    let value ← required word? field
    setAll? counters fields (c.set value s)
  | [], [], s => some s
  | _, _, _ => none

def ofJson? (v : Json) : Option ReadCounters :=
  (v.fields? fieldNames).bind (setAll? counters · {})

end ReadCounters

end TabletUpkeep
