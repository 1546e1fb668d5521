import TabletUpkeep.Settings.Basic
import TabletUpkeep.Record

/-! Reading the settings of a node. Every section and every field may be missing and then has its
default; names that mean nothing here are passed over. -/
namespace TabletUpkeep

open Described

variable {V : Type} [Described V]

namespace NodeSettings

def fieldNames : List String := ["node_id", "data_dirs"]

def read? (v : V) : Option NodeSettings := do
  let usual : NodeSettings := {}
  match ← fields? fieldNames v with
  | [nodeId, dataDirs] =>
    return { nodeId := ← orElse text? usual.nodeId nodeId
             dataDirs := ← orElse (list? text?) usual.dataDirs dataDirs }
  | _ => none

end NodeSettings

namespace UpkeepSettings

def fieldNames : List String :=
  ["base_compaction_num_threads", "cumulative_compaction_num_threads",
   "base_compaction_check_interval_seconds", "cumulative_compaction_check_interval_seconds",
   "max_garbage_sweep_interval", "min_garbage_sweep_interval", "disk_stat_monitor_interval",
   "unused_index_monitor_interval", "file_descriptor_cache_clean_interval"]

def read? (v : V) : Option UpkeepSettings := do
  let usual : UpkeepSettings := {}
  match ← fields? fieldNames v with
  | [baseThreads, cumulativeThreads, baseInterval, cumulativeInterval, sweepMax, sweepMin,
      diskStatInterval, unusedIndexInterval, fdCacheInterval] =>
    return {
      baseThreads := ← orElse word? usual.baseThreads baseThreads
      cumulativeThreads := ← orElse word? usual.cumulativeThreads cumulativeThreads
      baseInterval := ← orElse word? usual.baseInterval baseInterval
      cumulativeInterval := ← orElse word? usual.cumulativeInterval cumulativeInterval
      sweepMax := ← orElse word? usual.sweepMax sweepMax
      sweepMin := ← orElse word? usual.sweepMin sweepMin
      diskStatInterval := ← orElse word? usual.diskStatInterval diskStatInterval
      unusedIndexInterval := ← orElse word? usual.unusedIndexInterval unusedIndexInterval
      fdCacheInterval := ← orElse word? usual.fdCacheInterval fdCacheInterval }
  | _ => none

end UpkeepSettings

namespace LoggingSettings

def fieldNames : List String := ["level", "with_target", "with_file_line"]

def read? (v : V) : Option LoggingSettings := do
  let usual : LoggingSettings := {}
  match ← fields? fieldNames v with
  | [level, withTarget, withFileLine] =>
    return { level := ← orElse text? usual.level level
             withTarget := ← orElse boolean? usual.withTarget withTarget
             withFileLine := ← orElse boolean? usual.withFileLine withFileLine }
  | _ => none

end LoggingSettings

namespace Settings

def fieldNames : List String := ["node", "maintenance", "logging"]

def read? (v : V) : Option Settings := do
  match ← fields? fieldNames v with
  | [node, maintenance, logging] =>
    return { node := ← orElse NodeSettings.read? {} node
             maintenance := ← orElse UpkeepSettings.read? {} maintenance
             logging := ← orElse LoggingSettings.read? {} logging }
  | _ => none

end Settings

end TabletUpkeep
