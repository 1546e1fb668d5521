import TabletUpkeep.Proofs.SettingLines
import TabletUpkeep.Settings.Loading

/-! A section of integer settings laid over the defaults. Whatever subset of the settings its lines
name, in whatever order and among whatever other names, each setting that is named has the written
value, and all else is as if nothing had been written. -/
namespace TabletUpkeep

open Described Toml

/-- The number of workers as a checked sum of words. -/
def UpkeepSettings.checkedTotal (c : UpkeepSettings) : Option UInt64 :=
  Word.sumFrom? 4 [c.baseThreads.toUInt64, c.cumulativeThreads.toUInt64]

namespace Settings

/-- The settings that are counts of threads. The others are intervals. -/
def threadCounts : List String :=
  ["base_compaction_num_threads", "cumulative_compaction_num_threads"]

/-- Lines with distinct names, none of which needs quotes. Not every name has to be one of a
setting. -/
structure IsSection (lines : List (String × Int)) : Prop where
  distinct : (lines.map Prod.fst).Nodup
  bare : ∀ line ∈ lines, IsBareKey line.1

/-- Every integer fits a signed word, and a count of threads also its own word. -/
structure Admissible (lines : List (String × Int)) : Prop where
  words : ∀ line ∈ lines, Word.Fits Int64 line.2
  threads : ∀ line ∈ lines, line.1 ∈ threadCounts → Word.Fits UInt32 line.2

/-- A setting as it is written, or else as usual. -/
def chosen (lines : List (String × Int)) (name : String) (usual : Int) : Int :=
  (lines.lookup name).getD usual

/-- The default settings, each replaced by the line that names it. -/
def overlaid (lines : List (String × Int)) : List (String × Int) :=
  ({} : UpkeepSettings).entries.map fun (name, usual) => (name, chosen lines name usual)

/-- The settings are those of the lines over the defaults, and the other sections are as usual. -/
structure Overlays (lines : List (String × Int)) (config : Settings) : Prop where
  maintenance : config.maintenance.entries = overlaid lines
  node : config.node = {}
  logging : config.logging = {}

variable {lines shuffled : List (String × Int)} {α : Type} [Word α] {name : String}

theorem integerItem?_isSome {n : Int} :
    (integerItem? n).isSome = true ↔ Word.Fits Int64 n := by
  rw [integerItem?, Option.isSome_map]
  exact Word.ofInt?_isSome n

theorem word?_of_integerItem? {n : Int} {item : Item} (read : integerItem? n = some item) :
    word? item = (Word.ofInt? n : Option α) := by
  obtain ⟨value, found, rfl⟩ := Option.map_eq_some_iff.mp read
  have exact_value : Word.toInt value = n := (Word.ofInt?_eq_some _ _).mp found
  rw [← exact_value]
  rfl

/-- A field of the table of a section, as a word of its own width. -/
theorem orElse_eq_some_iff (words : ∀ line ∈ lines, Word.Fits Int64 line.2) {usual a : α} :
    orElse word? usual ((lines.lookup name).bind integerItem?) = some a ↔
      Word.toInt a = chosen lines name (Word.toInt usual) := by
  cases found : lines.lookup name with
  | none => simp [orElse, chosen, found, Word.toInt_injective.eq_iff, eq_comm]
  | some n =>
    have fits := integerItem?_isSome.mpr (words _ (mem_of_lookup found))
    obtain ⟨item, read⟩ := Option.isSome_iff_exists.mp fits
    simp [orElse, chosen, found, read, word?_of_integerItem? read, Word.ofInt?_eq_some]

theorem exists_chosen (fits : ∀ n, lines.lookup name = some n → Word.Fits α n) (usual : α) :
    ∃ a : α, Word.toInt a = chosen lines name (Word.toInt usual) := by
  cases found : lines.lookup name with
  | none => exact ⟨usual, by simp [chosen, found]⟩
  | some n =>
    obtain ⟨a, read⟩ := Option.isSome_iff_exists.mp ((Word.ofInt?_isSome n).mpr (fits n found))
    exact ⟨a, by simp [chosen, found, (Word.ofInt?_eq_some n a).mp read]⟩

section

variable (words : ∀ line ∈ lines, Word.Fits Int64 line.2) {entries : Entries}
  (read : readValues? integerItem? lines = some entries)

include words read

theorem read?_table_iff {c : UpkeepSettings} :
    UpkeepSettings.read? (Item.table .header entries) = some c ↔ c.entries = overlaid lines := by
  have field (name : String) : entries.lookup name = (lines.lookup name).bind integerItem? :=
    lookup_of_readValues? read name
  have laid : fields? UpkeepSettings.fieldNames (Item.table .header entries) =
      some (UpkeepSettings.fieldNames.map (entries.lookup ·)) := rfl
  obtain ⟨⟩ := c
  -- both sides come down to one equation for each setting, between integers
  unfold UpkeepSettings.read?
  rw [laid]
  simp only [UpkeepSettings.fieldNames, List.map_cons, List.map_nil, field, Option.bind_eq_bind,
    Option.bind_some, Option.bind_eq_some_iff, orElse_eq_some_iff words]
  simp only [UpkeepSettings.entries, overlaid, List.map_cons, List.map_nil, List.cons.injEq,
    Prod.mk.injEq, true_and, and_true]
  constructor
  · rintro ⟨_, base, _, cumulative, _, baseEvery, _, cumulativeEvery, _, most, _, least,
      _, diskStat, _, unusedIndex, _, fdCache, same⟩
    cases same
    exact ⟨base, cumulative, baseEvery, cumulativeEvery, most, least,
      diskStat, unusedIndex, fdCache⟩
  · rintro ⟨base, cumulative, baseEvery, cumulativeEvery, most, least,
      diskStat, unusedIndex, fdCache⟩
    exact ⟨_, base, _, cumulative, _, baseEvery, _, cumulativeEvery, _, most, _, least,
      _, diskStat, _, unusedIndex, _, fdCache, rfl⟩

theorem read?_section_iff {config : Settings} :
    Settings.read? (Item.table .header [("maintenance", .table .header entries)]) = some config ↔
      Overlays lines config := by
  have sections : fields? Settings.fieldNames
      (Item.table .header [("maintenance", .table .header entries)]) =
      some [none, some (.table .header entries), none] := rfl
  unfold Settings.read?
  rw [sections]
  simp only [orElse, Option.bind_eq_bind, Option.bind_some, Option.bind_eq_some_iff,
    read?_table_iff words read]
  constructor
  · rintro ⟨c, values, same⟩
    cases same
    exact ⟨values, rfl, rfl⟩
  · rintro ⟨values, node, logging⟩
    obtain ⟨_, c, _⟩ := config
    obtain rfl := node
    obtain rfl := logging
    exact ⟨c, values, rfl⟩

end

theorem threads_chosen {c : UpkeepSettings} (same : c.entries = overlaid lines) :
    (c.baseThreads.toNat : Int) = chosen lines "base_compaction_num_threads" 1 ∧
      (c.cumulativeThreads.toNat : Int) = chosen lines "cumulative_compaction_num_threads" 1 := by
  simp only [UpkeepSettings.entries, overlaid, List.map_cons, List.cons.injEq, Prod.mk.injEq,
    true_and] at same
  exact ⟨same.1, same.2.1⟩

theorem exists_overlaid_iff (distinct : (lines.map Prod.fst).Nodup)
    (words : ∀ line ∈ lines, Word.Fits Int64 line.2) :
    (∃ c : UpkeepSettings, c.entries = overlaid lines) ↔
      ∀ line ∈ lines, line.1 ∈ threadCounts → Word.Fits UInt32 line.2 := by
  constructor
  · rintro ⟨c, same⟩ ⟨name, n⟩ among listed
    obtain ⟨base, cumulative⟩ := threads_chosen same
    have written (usual : Int) : chosen lines name usual = n := by
      rw [chosen, (lookup_eq_some_iff_mem distinct).mpr among, Option.getD_some]
    simp only [threadCounts, List.mem_cons, List.not_mem_nil, or_false] at listed
    rcases listed with rfl | rfl
    · exact (base.trans (written 1)) ▸ Word.fits_toInt c.baseThreads
    · exact (cumulative.trans (written 1)) ▸ Word.fits_toInt c.cumulativeThreads
  · intro threads
    -- the words are chosen for all names at once, and the settings are put together from them
    have count (name : String) (listed : name ∈ threadCounts) (usual : UInt32) :=
      exists_chosen (fun n found => threads (name, n) (mem_of_lookup found) listed) usual
    have interval (name : String) (usual : Int64) :=
      exists_chosen (fun n found => words (name, n) (mem_of_lookup found)) usual
    choose count count_chosen using count
    choose interval interval_chosen using interval
    let usual : UpkeepSettings := {}
    refine ⟨{
      baseThreads := count "base_compaction_num_threads" (by decide) usual.baseThreads
      cumulativeThreads :=
        count "cumulative_compaction_num_threads" (by decide) usual.cumulativeThreads
      baseInterval := interval "base_compaction_check_interval_seconds" usual.baseInterval
      cumulativeInterval :=
        interval "cumulative_compaction_check_interval_seconds" usual.cumulativeInterval
      sweepMax := interval "max_garbage_sweep_interval" usual.sweepMax
      sweepMin := interval "min_garbage_sweep_interval" usual.sweepMin
      diskStatInterval := interval "disk_stat_monitor_interval" usual.diskStatInterval
      unusedIndexInterval := interval "unused_index_monitor_interval" usual.unusedIndexInterval
      fdCacheInterval :=
        interval "file_descriptor_cache_clean_interval" usual.fdCacheInterval }, ?_⟩
    simp only [UpkeepSettings.entries, overlaid, List.map_cons, List.map_nil, List.cons.injEq,
      Prod.mk.injEq, true_and, and_true]
    exact ⟨count_chosen _ _ _, count_chosen _ _ _, interval_chosen _ _, interval_chosen _ _,
      interval_chosen _ _, interval_chosen _ _, interval_chosen _ _, interval_chosen _ _,
      interval_chosen _ _⟩

theorem ofText_eq_ok_iff {text : String} {config : Settings} :
    ofText text = .ok config ↔ (Toml.read? text).bind Settings.read? = some config := by
  unfold ofText
  cases (Toml.read? text).bind Settings.read? <;> simp

theorem ofText_eq_error {text : String} (unread : ¬ ∃ config, ofText text = .ok config) :
    ofText text = .error .configParse := by
  simp only [ofText_eq_ok_iff, ← Option.isSome_iff_exists, Option.not_isSome_iff_eq_none] at unread
  rw [ofText, unread]

theorem ofText_congr {text other : String}
    (same : ∀ config, ofText text = .ok config ↔ ofText other = .ok config) :
    ofText text = ofText other := by
  have read : (Toml.read? text).bind Settings.read? = (Toml.read? other).bind Settings.read? :=
    Option.ext fun config => by rw [← ofText_eq_ok_iff, same, ofText_eq_ok_iff]
  rw [ofText, ofText, read]

/-- A section is read exactly when its integers are words and something overlays the defaults. -/
theorem ofText_section_iff (valid : IsSection lines) {ending : String}
    (ending_ok : EndsText ending.toList) {config : Settings} :
    ofText (sectionText lines ++ ending) = .ok config ↔
      (∀ line ∈ lines, Word.Fits Int64 line.2) ∧ Overlays lines config := by
  have complete : (readValues? integerItem? lines).isSome = true ↔
      ∀ line ∈ lines, Word.Fits Int64 line.2 := by
    rw [readValues?_isSome_iff]
    exact forall₂_congr fun line _ => integerItem?_isSome
  rw [ofText_eq_ok_iff, read?_sectionText ending_ok valid.bare valid.distinct]
  cases read : readValues? integerItem? lines with
  | none =>
    have unfit : ¬ ∀ line ∈ lines, Word.Fits Int64 line.2 := by
      rw [← complete, read]
      exact Bool.false_ne_true
    exact iff_of_false (Option.some_ne_none config).symm fun both => unfit both.1
  | some entries =>
    have words := complete.mp (by rw [read]; rfl)
    rw [Option.map_some, Option.bind_some, read?_section_iff words read]
    exact (and_iff_right words).symm

theorem exists_ofText_iff (valid : IsSection lines) {ending : String}
    (ending_ok : EndsText ending.toList) :
    (∃ config, ofText (sectionText lines ++ ending) = .ok config) ↔ Admissible lines := by
  simp only [ofText_section_iff valid ending_ok]
  constructor
  · rintro ⟨config, words, overlays⟩
    exact ⟨words, (exists_overlaid_iff valid.distinct words).mp ⟨_, overlays.maintenance⟩⟩
  · rintro ⟨words, threads⟩
    obtain ⟨c, values⟩ := (exists_overlaid_iff valid.distinct words).mpr threads
    exact ⟨{ maintenance := c }, words, values, rfl, rfl⟩

theorem IsSection.perm (valid : IsSection lines) (same : lines.Perm shuffled) :
    IsSection shuffled :=
  ⟨(same.map Prod.fst).nodup_iff.mp valid.distinct,
    fun line among => valid.bare line (same.mem_iff.mpr among)⟩

theorem overlaid_perm (valid : IsSection lines) (same : lines.Perm shuffled) :
    overlaid shuffled = overlaid lines := by
  simp only [overlaid, chosen, lookup_perm valid.distinct same]

theorem overlays_perm (valid : IsSection lines) (same : lines.Perm shuffled) {config : Settings} :
    Overlays shuffled config ↔ Overlays lines config := by
  have values := overlaid_perm valid same
  constructor
  · rintro ⟨maintenance, node, logging⟩
    exact ⟨values ▸ maintenance, node, logging⟩
  · rintro ⟨maintenance, node, logging⟩
    exact ⟨values.symm ▸ maintenance, node, logging⟩

theorem entries_isSection (c : UpkeepSettings) : IsSection c.entries := by
  have names : c.entries.map Prod.fst = UpkeepSettings.fieldNames := rfl
  have bare : ∀ name ∈ UpkeepSettings.fieldNames, IsBareKey name := by
    decide +kernel
  constructor
  · rw [names]
    decide
  · intro line among
    exact bare line.1 (names ▸ List.mem_map_of_mem among)

theorem entries_words (c : UpkeepSettings) : ∀ line ∈ c.entries, Word.Fits Int64 line.2 := by
  have count (a : UInt32) : Word.Fits Int64 a.toNat := by
    have small := a.toNat_lt
    constructor <;> simp only [Word.least, Word.greatest] <;> omega
  have interval (a : Int64) : Word.Fits Int64 a.toInt := Word.fits_toInt a
  simp [UpkeepSettings.entries, count, interval]

/-- Settings laid over the defaults are themselves again. -/
theorem overlaid_entries (c : UpkeepSettings) : overlaid c.entries = c.entries := by
  simp [overlaid, chosen, UpkeepSettings.entries, lookup_cons_of]

end Settings

/-- Two counts of 32 bits and four more stay far below a word of 64. -/
theorem UpkeepSettings.checkedTotal_eq (c : UpkeepSettings) :
    c.checkedTotal.map UInt64.toNat = some c.workerTotal := by
  have base_small := c.baseThreads.toNat_lt
  have cumulative_small := c.cumulativeThreads.toNat_lt
  have positive : ∀ a ∈ [c.baseThreads.toUInt64, c.cumulativeThreads.toUInt64],
      0 ≤ Word.toInt a := fun a _ => Int.natCast_nonneg a.toNat
  cases found : c.checkedTotal with
  | none =>
    have beyond : (18446744073709551615 : Int) <
        4 + (c.baseThreads.toNat + c.cumulativeThreads.toNat) := by
      simpa [Word.greatest, Word.toInt] using
        (Word.sumFrom?_eq_none_iff_of_nonneg positive 4).mp found
    omega
  | some total =>
    have value : (total.toNat : Int) =
        4 + (c.baseThreads.toNat + c.cumulativeThreads.toNat) := by
      simpa [Word.toInt] using Word.toInt_of_sumFrom? found
    rw [Option.map_some, Option.some.injEq, workerTotal]
    omega

namespace Settings

/-- Lines in any order, known and unknown names among them, over the default settings: they are read
exactly when each integer fits its place, and then each setting is the written one or the usual one,
the other sections are as usual, the order of the lines does not matter, and the workers can be
counted. All settings written out give themselves back. -/
theorem section_overlays_defaults {lines : List (String × Int)} (valid : IsSection lines)
    {ending : String} (ending_ok : EndsText ending.toList) :
    ((∃ config, ofText (sectionText lines ++ ending) = .ok config) ↔ Admissible lines) ∧
    (¬ Admissible lines → ofText (sectionText lines ++ ending) = .error .configParse) ∧
    (∀ config, ofText (sectionText lines ++ ending) = .ok config →
      Overlays lines config ∧
      (config.maintenance.workerTotal : Int) =
        4 + chosen lines "base_compaction_num_threads" 1 +
          chosen lines "cumulative_compaction_num_threads" 1 ∧
      config.maintenance.checkedTotal.map UInt64.toNat = some config.maintenance.workerTotal) ∧
    (∀ shuffled, lines.Perm shuffled →
      ofText (sectionText shuffled ++ ending) = ofText (sectionText lines ++ ending)) ∧
    ∀ c : UpkeepSettings, ofText (sectionText c.entries ++ ending) = .ok { maintenance := c } := by
  have reads := exists_ofText_iff valid ending_ok
  refine ⟨reads, fun unfit => ofText_eq_error (reads.not.mpr unfit), ?_, ?_, ?_⟩
  · intro config read
    obtain ⟨-, overlays⟩ := (ofText_section_iff valid ending_ok).mp read
    obtain ⟨base, cumulative⟩ := threads_chosen overlays.maintenance
    refine ⟨overlays, ?_, config.maintenance.checkedTotal_eq⟩
    rw [UpkeepSettings.workerTotal, ← base, ← cumulative]
    push_cast
    rfl
  · intro shuffled same
    refine ofText_congr fun config => ?_
    rw [ofText_section_iff (valid.perm same) ending_ok, ofText_section_iff valid ending_ok,
      overlays_perm valid same]
    simp only [same.mem_iff]
  · intro c
    rw [ofText_section_iff (entries_isSection c) ending_ok]
    exact ⟨entries_words c, (overlaid_entries c).symm, rfl, rfl⟩

theorem limits_read_among_unknown :
    ofText (sectionText [("colour", 9223372036854775807),
        ("base_compaction_num_threads", 4294967295),
        ("min_garbage_sweep_interval", -9223372036854775808),
        ("disk_stat_monitor_interval", 0)] ++ "\n") =
      .ok { maintenance := {
        baseThreads := 4294967295, sweepMin := -9223372036854775808, diskStatInterval := 0 } } ∧
    ofText (sectionText [("base_compaction_num_threads", -1)]) = .error .configParse := by
  constructor
  · have valid : IsSection [("colour", 9223372036854775807),
        ("base_compaction_num_threads", 4294967295),
        ("min_garbage_sweep_interval", -9223372036854775808),
        ("disk_stat_monitor_interval", 0)] := ⟨by decide, by decide⟩
    have newline : EndsText "\n".toList := .inr rfl
    obtain ⟨reads, -, values, -⟩ := section_overlays_defaults valid newline
    obtain ⟨config, read⟩ := reads.mpr ⟨by decide, by decide⟩
    obtain ⟨⟨maintenance, node, logging⟩, -⟩ := values config read
    have same : config.maintenance = {
        baseThreads := 4294967295, sweepMin := -9223372036854775808, diskStatInterval := 0 } := by
      apply UpkeepSettings.eq_of_entries
      rw [maintenance]
      rfl
    rw [read, ← same, ← node, ← logging]
  · have valid : IsSection [("base_compaction_num_threads", -1)] := ⟨by decide, by decide⟩
    have nothing : EndsText "".toList := .inl rfl
    obtain ⟨-, refused, -⟩ := section_overlays_defaults valid nothing
    rw [String.append_empty] at refused
    apply refused
    intro fits
    exact absurd (fits.threads _ (List.mem_singleton.mpr rfl) (by decide)).1 (by decide)

end Settings

end TabletUpkeep
