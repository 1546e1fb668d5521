/-! The six kinds of maintenance loop, each with the name its worker goes by and the key it has in
records. -/
namespace TabletUpkeep

inductive DutyKind
  | trashSweep
  | diskStatMonitor
  | unusedIndex
  | baseCompaction
  | cumulativeCompaction
  | fdCacheClean
  deriving DecidableEq, Repr

namespace DutyKind

def text : DutyKind → String
  | trashSweep => "trash-sweeper"
  | diskStatMonitor => "disk-stat-monitor"
  | unusedIndex => "unused-index"
  | baseCompaction => "base-compaction"
  | cumulativeCompaction => "cumulative-compaction"
  | fdCacheClean => "fd-cache-clean"

def key : DutyKind → String
  | trashSweep => "trash_sweep"
  | diskStatMonitor => "disk_stat_monitor"
  | unusedIndex => "unused_index"
  | baseCompaction => "base_compaction"
  | cumulativeCompaction => "cumulative_compaction"
  | fdCacheClean => "fd_cache_clean"

def all : List DutyKind :=
  [trashSweep, diskStatMonitor, unusedIndex, baseCompaction, cumulativeCompaction, fdCacheClean]

def ofKey? (key : String) : Option DutyKind := all.find? fun k => k.key == key

end DutyKind

end TabletUpkeep
