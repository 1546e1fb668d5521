import TabletUpkeep.Word

/-! Enumerations with fixed numeric codes. Every one lists its members once, with a name and a
code each; reading a name or a code back is a search of that list. -/
namespace TabletUpkeep

/-- A finite enumeration whose members are known to other programs by name and by number. -/
class Coded (α : Type) where
  members : List α
  name : α → String
  code : α → Int32

namespace Coded

variable {α : Type} [Coded α]

def ofCode? (code : Int32) : Option α := members.find? fun a => Coded.code a == code

def ofName? (name : String) : Option α := members.find? fun a => Coded.name a == name

end Coded

/-- Comparison used by delete predicates and key-range scans. -/
inductive RangeComparison
  | gt | ge | lt | le
  deriving DecidableEq, Repr

instance : Coded RangeComparison where
  members := [.gt, .ge, .lt, .le]
  name
    | .gt => "Gt" | .ge => "Ge" | .lt => "Lt" | .le => "Le"
  code
    | .gt => 0 | .ge => 1 | .lt => 2 | .le => 3

/-- How far a delete condition covers a range of rows. -/
inductive DeleteCoverage
  | satisfied | notSatisfied | partialSatisfied
  deriving DecidableEq, Repr

instance : Coded DeleteCoverage where
  members := [.satisfied, .notSatisfied, .partialSatisfied]
  name
    | .satisfied => "Satisfied" | .notSatisfied => "NotSatisfied"
    | .partialSatisfied => "PartialSatisfied"
  code
    | .satisfied => 0 | .notSatisfied => 1 | .partialSatisfied => 2

/-- Column storage types. -/
inductive ColumnType
  | tinyInt | unsignedTinyInt | smallInt | unsignedSmallInt | int | unsignedInt | bigInt
  | unsignedBigInt | largeInt | float | double | discreteDouble | char | date | dateTime
  | decimal | varchar | struct | list | map | unknown | none | hll
  deriving DecidableEq, Repr

instance : Coded ColumnType where
  members := [.tinyInt, .unsignedTinyInt, .smallInt, .unsignedSmallInt, .int, .unsignedInt,
    .bigInt, .unsignedBigInt, .largeInt, .float, .double, .discreteDouble, .char, .date,
    .dateTime, .decimal, .varchar, .struct, .list, .map, .unknown, .none, .hll]
  name
    | .tinyInt => "TinyInt" | .unsignedTinyInt => "UnsignedTinyInt"
    | .smallInt => "SmallInt" | .unsignedSmallInt => "UnsignedSmallInt"
    | .int => "Int" | .unsignedInt => "UnsignedInt"
    | .bigInt => "BigInt" | .unsignedBigInt => "UnsignedBigInt"
    | .largeInt => "LargeInt" | .float => "Float" | .double => "Double"
    | .discreteDouble => "DiscreteDouble" | .char => "Char" | .date => "Date"
    | .dateTime => "DateTime" | .decimal => "Decimal" | .varchar => "Varchar"
    | .struct => "Struct" | .list => "List" | .map => "Map"
    | .unknown => "Unknown" | .none => "None" | .hll => "Hll"
  code
    | .tinyInt => 1 | .unsignedTinyInt => 2 | .smallInt => 3 | .unsignedSmallInt => 4
    | .int => 5 | .unsignedInt => 6 | .bigInt => 7 | .unsignedBigInt => 8
    | .largeInt => 9 | .float => 10 | .double => 11 | .discreteDouble => 12
    | .char => 13 | .date => 14 | .dateTime => 15 | .decimal => 16
    | .varchar => 17 | .struct => 18 | .list => 19 | .map => 20
    | .unknown => 21 | .none => 22 | .hll => 23

/-- Aggregation applied to value columns when rows with equal keys merge. -/
inductive ColumnAggregation
  | none | sum | min | max | replace | hllUnion | unknown
  deriving DecidableEq, Repr

instance : Coded ColumnAggregation where
  members := [.none, .sum, .min, .max, .replace, .hllUnion, .unknown]
  name
    | .none => "None" | .sum => "Sum" | .min => "Min" | .max => "Max"
    | .replace => "Replace" | .hllUnion => "HllUnion" | .unknown => "Unknown"
  code
    | .none => 0 | .sum => 1 | .min => 2 | .max => 3
    | .replace => 4 | .hllUnion => 5 | .unknown => 6

inductive Compression
  | transport | storage | lz4
  deriving DecidableEq, Repr

instance : Coded Compression where
  members := [.transport, .storage, .lz4]
  name
    | .transport => "Transport" | .storage => "Storage" | .lz4 => "Lz4"
  code
    | .transport => 1 | .storage => 2 | .lz4 => 3

/-- Layout of a distinct-count sketch. -/
inductive SketchKind
  | empty | explicit | sparse | full | none
  deriving DecidableEq, Repr

instance : Coded SketchKind where
  members := [.empty, .explicit, .sparse, .full, .none]
  name
    | .empty => "Empty" | .explicit => "Explicit" | .sparse => "Sparse"
    | .full => "Full" | .none => "None"
  code
    | .empty => 0 | .explicit => 1 | .sparse => 2 | .full => 3 | .none => 4

/-- Why a tablet is rewritten. -/
inductive AlterationKind
  | schemaChange | createRollupTable
  deriving DecidableEq, Repr

instance : Coded AlterationKind where
  members := [.schemaChange, .createRollupTable]
  name
    | .schemaChange => "SchemaChange" | .createRollupTable => "CreateRollupTable"
  code
    | .schemaChange => 1 | .createRollupTable => 2

inductive AlterationStatus
  | waiting | running | finished | failed
  deriving DecidableEq, Repr

instance : Coded AlterationStatus where
  members := [.waiting, .running, .finished, .failed]
  name
    | .waiting => "Waiting" | .running => "Running"
    | .finished => "Finished" | .failed => "Failed"
  code
    | .waiting => 0 | .running => 1 | .finished => 2 | .failed => 3

/-- What a batch pushed into a tablet is for. -/
inductive PushKind
  | normal | forDelete | forLoadDelete
  deriving DecidableEq, Repr

instance : Coded PushKind where
  members := [.normal, .forDelete, .forLoadDelete]
  name
    | .normal => "Normal" | .forDelete => "ForDelete" | .forLoadDelete => "ForLoadDelete"
  code
    | .normal => 1 | .forDelete => 2 | .forLoadDelete => 3

/-- What a tablet reader is opened for. -/
inductive ReaderPurpose
  | query | alterTable | baseCompaction | cumulativeCompaction | checksum
  deriving DecidableEq, Repr

instance : Coded ReaderPurpose where
  members := [.query, .alterTable, .baseCompaction, .cumulativeCompaction, .checksum]
  name
    | .query => "Query" | .alterTable => "AlterTable" | .baseCompaction => "BaseCompaction"
    | .cumulativeCompaction => "CumulativeCompaction" | .checksum => "Checksum"
  code
    | .query => 0 | .alterTable => 1 | .baseCompaction => 2
    | .cumulativeCompaction => 3 | .checksum => 4

end TabletUpkeep
