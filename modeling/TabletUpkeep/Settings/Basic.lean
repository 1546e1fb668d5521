/-! Settings of a storage node, with the value each has when nothing is said about it. Intervals
are in seconds and signed: a zero or negative one is replaced when the schedule is drawn up and
is no error before that. -/
namespace TabletUpkeep

structure NodeSettings where
  nodeId : String := "node-1"
  dataDirs : List String := ["./data/storage"]
  deriving DecidableEq, Repr

structure UpkeepSettings where
  baseThreads : UInt32 := 1
  cumulativeThreads : UInt32 := 1
  baseInterval : Int64 := 60
  cumulativeInterval : Int64 := 10
  sweepMax : Int64 := 86400
  sweepMin : Int64 := 180
  diskStatInterval : Int64 := 5
  unusedIndexInterval : Int64 := 30
  fdCacheInterval : Int64 := 3600
  deriving DecidableEq, Repr

structure LoggingSettings where
  level : String := "info"
  withTarget : Bool := true
  withFileLine : Bool := false
  deriving DecidableEq, Repr

structure Settings where
  node : NodeSettings := {}
  maintenance : UpkeepSettings := {}
  logging : LoggingSettings := {}
  deriving DecidableEq, Repr

namespace UpkeepSettings

/-- The workers a node starts: four single ones and the two pools. -/
def workerTotal (c : UpkeepSettings) : Nat :=
  4 + c.baseThreads.toNat + c.cumulativeThreads.toNat

end UpkeepSettings

end TabletUpkeep
