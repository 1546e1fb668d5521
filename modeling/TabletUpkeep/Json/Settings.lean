import TabletUpkeep.Settings.Reading
import TabletUpkeep.Json.Value

/-! Settings written as JSON, every field in its place. -/
namespace TabletUpkeep

def NodeSettings.toJson (c : NodeSettings) : Json :=
  .object (fieldNames.zip [.text c.nodeId, .array (c.dataDirs.map .text)])

def UpkeepSettings.toJson (c : UpkeepSettings) : Json :=
  .object (fieldNames.zip
    [.integer c.baseThreads.toNat, .integer c.cumulativeThreads.toNat,
     .integer c.baseInterval.toInt, .integer c.cumulativeInterval.toInt,
     .integer c.sweepMax.toInt, .integer c.sweepMin.toInt, .integer c.diskStatInterval.toInt,
     .integer c.unusedIndexInterval.toInt, .integer c.fdCacheInterval.toInt])

def LoggingSettings.toJson (c : LoggingSettings) : Json :=
  .object (fieldNames.zip [.text c.level, .boolean c.withTarget, .boolean c.withFileLine])

def Settings.toJson (c : Settings) : Json :=
  .object (fieldNames.zip [c.node.toJson, c.maintenance.toJson, c.logging.toJson])

end TabletUpkeep
