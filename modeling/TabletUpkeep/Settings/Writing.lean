import TabletUpkeep.Settings.Basic

/-! Upkeep settings as text: the header of their section, and under it a line for each of them, with
its name and its value in plain decimal. -/
namespace TabletUpkeep

namespace UpkeepSettings

/-- The settings by name, each as an integer. -/
def entries (c : UpkeepSettings) : List (String × Int) :=
  [("base_compaction_num_threads", c.baseThreads.toNat),
   ("cumulative_compaction_num_threads", c.cumulativeThreads.toNat),
   ("base_compaction_check_interval_seconds", c.baseInterval.toInt),
   ("cumulative_compaction_check_interval_seconds", c.cumulativeInterval.toInt),
   ("max_garbage_sweep_interval", c.sweepMax.toInt),
   ("min_garbage_sweep_interval", c.sweepMin.toInt),
   ("disk_stat_monitor_interval", c.diskStatInterval.toInt),
   ("unused_index_monitor_interval", c.unusedIndexInterval.toInt),
   ("file_descriptor_cache_clean_interval", c.fdCacheInterval.toInt)]

theorem eq_of_entries {c d : UpkeepSettings} (same : c.entries = d.entries) : c = d := by
  obtain ⟨⟩ := c
  obtain ⟨⟩ := d
  simpa [entries, Int.natCast_inj, UInt32.toNat_inj, Int64.toInt_inj] using same

end UpkeepSettings

namespace Settings

def lineText (line : String × Int) : String := line.1 ++ " = " ++ toString line.2

def sectionText (lines : List (String × Int)) : String :=
  "\n".intercalate ("[maintenance]" :: lines.map lineText)

example : sectionText [("min_garbage_sweep_interval", -4), ("colour", 0)] =
    "[maintenance]\nmin_garbage_sweep_interval = -4\ncolour = 0" := by decide +kernel

end Settings

end TabletUpkeep
