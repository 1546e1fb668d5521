import TabletUpkeep.Settings.Basic
import TabletUpkeep.Schedule.Correction

/-! The schedule of a node: every interval its workers wait, checked once, with the list of what
had to be replaced. -/
namespace TabletUpkeep

structure Schedule where
  baseThreads : Nat
  cumulativeThreads : Nat
  baseInterval : UInt64
  cumulativeInterval : UInt64
  sweep : SweepRange
  diskStatInterval : UInt64
  unusedIndexInterval : UInt64
  fdCacheInterval : UInt64
  corrections : List Correction
  deriving DecidableEq, Repr

namespace Schedule

/-- The schedule of a configuration, with the warnings logged while it is drawn up. Settings are
checked in the order base, cumulative, disk stat, unused index, descriptor cache, sweep. -/
def draw (c : UpkeepSettings) : Schedule × List Event :=
  let base := checkInterval "base_compaction_check_interval_seconds" c.baseInterval 1
  let cumulative :=
    checkInterval "cumulative_compaction_check_interval_seconds" c.cumulativeInterval 1
  let diskStat := checkInterval "disk_stat_monitor_interval" c.diskStatInterval 1
  let unusedIndex := checkInterval "unused_index_monitor_interval" c.unusedIndexInterval 1
  let fdCache := checkInterval "file_descriptor_cache_clean_interval" c.fdCacheInterval 3600
  let sweep := SweepRange.check c.sweepMin c.sweepMax
  ({ baseThreads := c.baseThreads.toNat
     cumulativeThreads := c.cumulativeThreads.toNat
     baseInterval := base.applied
     cumulativeInterval := cumulative.applied
     sweep := sweep.applied
     diskStatInterval := diskStat.applied
     unusedIndexInterval := unusedIndex.applied
     fdCacheInterval := fdCache.applied
     corrections :=
       [base.correction, cumulative.correction, diskStat.correction, unusedIndex.correction,
        fdCache.correction, sweep.correction].reduceOption },
   [base.warning, cumulative.warning, diskStat.warning, unusedIndex.warning, fdCache.warning,
    sweep.warning].reduceOption)

def ofSettings (c : UpkeepSettings) : Schedule := (draw c).1

/-- The warnings that the corrections of a schedule call for: one for each. -/
def warnings (s : Schedule) : List Event := s.corrections.map (·.event)

/-- What is logged is what the corrections call for. -/
theorem draw_warnings (c : UpkeepSettings) : (draw c).2 = (ofSettings c).warnings := by
  have mapped (l : List (Option Correction)) :
      (l.map (Option.map Correction.event)).reduceOption = l.reduceOption.map (·.event) := by
    change (l.map (Option.map Correction.event)).filterMap id = (l.filterMap id).map (·.event)
    rw [List.filterMap_map, List.map_filterMap]
    rfl
  simp only [ofSettings, draw, warnings, checkInterval_warning, SweepRange.check_warning]
  refine Eq.trans ?_ (mapped _)
  rfl

end Schedule

end TabletUpkeep
