import TabletUpkeep.Tablet.Codes

/-! Tablets, the versions they hold, and the two tiers of compaction. Tablets and versions are
ordered by their first part and then by their second. -/
namespace TabletUpkeep

/-- The committed increments of a tablet from `first` to `last`. -/
structure Version where
  first : Int64
  last : Int64
  deriving DecidableEq, Repr

namespace Version

/-- A version produced by one load rather than by a merge. -/
def isSingle (v : Version) : Bool := v.first == v.last

def contains (outer inner : Version) : Bool :=
  outer.first ≤ inner.first && inner.last ≤ outer.last

def text (v : Version) : String :=
  "[" ++ toString v.first.toInt ++ "-" ++ toString v.last.toInt ++ "]"

def before (a b : Version) : Bool :=
  a.first < b.first || (a.first == b.first && a.last ≤ b.last)

def sort (versions : List Version) : List Version := versions.mergeSort before

end Version

/-- One replica of a tablet, under one schema. -/
structure Tablet where
  id : Int64
  schemaHash : Int32
  deriving DecidableEq, Repr

namespace Tablet

def text (t : Tablet) : String :=
  "." ++ toString t.id.toInt ++ "." ++ toString t.schemaHash.toInt

def before (a b : Tablet) : Bool :=
  a.id < b.id || (a.id == b.id && a.schemaHash ≤ b.schemaHash)

/-- The tablets of a list, each once, in order. -/
def sortDistinct (tablets : List Tablet) : List Tablet := tablets.eraseDups.mergeSort before

end Tablet

/-- The tier of compaction that a pool of workers serves. -/
inductive Tier
  | base | cumulative
  deriving DecidableEq, Repr

namespace Tier

def text : Tier → String
  | base => "base"
  | cumulative => "cumulative"

/-- The purpose under which a compaction of this tier opens its readers. -/
def readerPurpose : Tier → ReaderPurpose
  | base => .baseCompaction
  | cumulative => .cumulativeCompaction

/-- The name a member of the tier has in records. -/
def name : Tier → String
  | base => "Base"
  | cumulative => "Cumulative"

def ofName? (name : String) : Option Tier := [base, cumulative].find? fun t => t.name == name

end Tier

end TabletUpkeep
