import TabletUpkeep.Tablet.Basic

/-! The rowsets that make up a version. Totals add from the first rowset on and are absent as
soon as one partial sum leaves its word, so a signed total can be absent although it would
fit. -/
namespace TabletUpkeep

/-- Least and greatest key of one column inside a rowset. -/
structure KeyRange where
  min : String
  max : String
  deriving DecidableEq, Repr

structure Rowset where
  id : Int32
  segments : Int32
  rows : Int64
  dataSize : UInt64
  indexSize : UInt64
  isEmpty : Bool
  keyRanges : List KeyRange
  deriving DecidableEq, Repr

/-- A version with the rowsets that materialise it. -/
structure VersionContents where
  version : Version
  versionHash : Int64
  rowsets : List Rowset
  deriving DecidableEq, Repr

namespace VersionContents

def empty (version : Version) (versionHash : Int64) : VersionContents := ⟨version, versionHash, []⟩

def push (e : VersionContents) (r : Rowset) : VersionContents :=
  { e with rowsets := e.rowsets ++ [r] }

def rows? (e : VersionContents) : Option Int64 := Word.sumFrom? 0 (e.rowsets.map (·.rows))

def dataSize? (e : VersionContents) : Option UInt64 := Word.sumFrom? 0 (e.rowsets.map (·.dataSize))

@[simp] theorem rowsets_push (e : VersionContents) (r : Rowset) :
    (e.push r).rowsets = e.rowsets ++ [r] := rfl

/-- The contents after each of a list of additions, the given ones first. -/
def growth (e : VersionContents) : List Rowset → List VersionContents
  | [] => [e]
  | r :: rest => e :: (e.push r).growth rest

end VersionContents

end TabletUpkeep
