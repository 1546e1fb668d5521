import TabletUpkeep.Proofs.SupervisorEnd

/-! Drawing up a schedule is a projection that says what it changed. A setting that will do is kept,
any other is replaced, and the corrections are those replacements and nothing else. A schedule
written back as settings gives itself once more, with nothing left to correct; and no loop takes up
the matter again. -/
namespace TabletUpkeep

/-- A setting of one interval: its name, what it is configured to, and the seconds that stand in for
it when that will not do. -/
structure FixedSetting where
  name : String
  configured : Int64
  fallback : UInt64

namespace UpkeepSettings

/-- The settings of one interval in the order in which they are checked. -/
def fixedSettings (c : UpkeepSettings) : List FixedSetting :=
  [⟨"base_compaction_check_interval_seconds", c.baseInterval, 1⟩,
   ⟨"cumulative_compaction_check_interval_seconds", c.cumulativeInterval, 1⟩,
   ⟨"disk_stat_monitor_interval", c.diskStatInterval, 1⟩,
   ⟨"unused_index_monitor_interval", c.unusedIndexInterval, 1⟩,
   ⟨"file_descriptor_cache_clean_interval", c.fdCacheInterval, 3600⟩]

def SweepValid (c : UpkeepSettings) : Prop :=
  0 < c.sweepMin.toInt ∧ c.sweepMin.toInt ≤ c.sweepMax.toInt

instance (c : UpkeepSettings) : Decidable c.SweepValid := inferInstanceAs (Decidable (_ ∧ _))

end UpkeepSettings

namespace FixedSetting

def Valid (f : FixedSetting) : Prop := 0 < f.configured.toInt

instance (f : FixedSetting) : Decidable f.Valid := inferInstanceAs (Decidable (_ < _))

/-- The interval that a node goes by, as a number of seconds. -/
def seconds (f : FixedSetting) : ℤ := if f.Valid then f.configured.toInt else f.fallback.toNat

def check (f : FixedSetting) : UInt64 × Option Correction :=
  checkedInterval f.name f.configured f.fallback

/-- The correction of a setting that was replaced by `applied`. -/
def correction (f : FixedSetting) (applied : UInt64) : Correction :=
  .fixed f.name f.configured applied

/-- The fallback is itself a setting that will do. -/
def Sound (f : FixedSetting) : Prop := 0 < f.fallback.toInt64

variable {f : FixedSetting}

theorem valid_iff : f.Valid ↔ 0 < f.configured := by
  rw [Valid, Int64.lt_iff_toInt_lt, Int64.toInt_zero]

theorem check_valid (valid : f.Valid) : f.check = (f.configured.toUInt64, none) := by
  rw [check, checkedInterval, checkInterval, if_pos (valid_iff.mp valid)]
  rfl

theorem check_invalid (invalid : ¬ f.Valid) :
    f.check = (f.fallback, some (f.correction f.fallback)) := by
  rw [check, checkedInterval, checkInterval,
    if_neg (fun positive => invalid (valid_iff.mpr positive))]
  rfl

theorem check_seconds (f : FixedSetting) : (f.check.1.toNat : ℤ) = f.seconds := by
  by_cases valid : f.Valid
  · rw [check_valid valid, seconds, if_pos valid]
    exact SweepRange.toNat_toUInt64 (valid_iff.mp valid)
  · rw [check_invalid valid, seconds, if_neg valid]

/-- Either the setting stands, or the correction names what stands in its place. -/
theorem check_correction (f : FixedSetting) :
    f.check.2 = if f.Valid then none else some (f.correction f.check.1) := by
  split_ifs with valid
  · rw [check_valid valid]
  · rw [check_invalid valid]

/-- The checked interval is positive as a signed number too, so it would pass the same check. -/
theorem check_positive (sound : f.Sound) : 0 < f.check.1.toInt64 := by
  by_cases valid : f.Valid
  · rw [check_valid valid, Int64.toInt64_toUInt64]
    exact valid_iff.mp valid
  · rw [check_invalid valid]
    exact sound

theorem check_again (sound : f.Sound) :
    checkInterval f.name f.check.1.toInt64 f.fallback = { applied := f.check.1 } := by
  rw [checkInterval, if_pos (check_positive sound), UInt64.toUInt64_toInt64]

end FixedSetting

theorem UpkeepSettings.fixedSettings_sound (c : UpkeepSettings) :
    ∀ f ∈ c.fixedSettings, f.Sound := by
  simp only [fixedSettings, List.forall_mem_cons, FixedSetting.Sound]
  decide

namespace SweepRange

theorem valid_iff {c : UpkeepSettings} :
    c.SweepValid ↔ 0 < c.sweepMin ∧ c.sweepMin ≤ c.sweepMax := by
  rw [UpkeepSettings.SweepValid, Int64.lt_iff_toInt_lt, Int64.le_iff_toInt_le, Int64.toInt_zero]

/-- The upper bound that stands in for one that will not do. -/
theorem raised_seconds (high : Int64) :
    ((if 1 ≤ high then high.toUInt64 else 1 : UInt64).toNat : ℤ) = Max.max high.toInt 1 := by
  have one : (1 : Int64).toInt = 1 := by decide
  split_ifs with above
  · rw [toNat_toUInt64 (Int64.lt_of_lt_of_le (by decide) above), max_eq_left]
    rwa [Int64.le_iff_toInt_le, one] at above
  · rw [Int64.le_iff_toInt_le, one, not_le] at above
    rw [max_eq_right above.le]
    rfl

theorem checked_kept {low high : Int64} (valid : 0 < low ∧ low ≤ high) :
    ((checked low high).1.min.toNat : ℤ) = low.toInt ∧
    ((checked low high).1.max.toNat : ℤ) = high.toInt := by
  rw [checked_valid valid.1 valid.2]
  exact ⟨toNat_toUInt64 valid.1, toNat_toUInt64 (Int64.lt_of_lt_of_le valid.1 valid.2)⟩

theorem checked_replaced {low high : Int64} (invalid : ¬ (0 < low ∧ low ≤ high)) :
    ((checked low high).1.min.toNat : ℤ) = 1 ∧
    ((checked low high).1.max.toNat : ℤ) = Max.max high.toInt 1 := by
  rw [checked_invalid invalid]
  exact ⟨rfl, raised_seconds high⟩

theorem checked_correction (low high : Int64) :
    (checked low high).2 =
      if 0 < low ∧ low ≤ high then none else some (.sweep low high (checked low high).1) := by
  split_ifs with valid
  · rw [checked_valid valid.1 valid.2]
  · rw [checked_invalid valid]

theorem check_again (low high : Int64) :
    check (checked low high).1.min.toInt64 (checked low high).1.max.toInt64 =
      { applied := (checked low high).1 } := by
  obtain ⟨least, greatest, positive, order, standing⟩ := checked_standing low high
  rw [standing, Int64.toInt64_toUInt64, Int64.toInt64_toUInt64, check_valid positive order]

end SweepRange

namespace Schedule

/-- The intervals of the settings of one interval, in the same order. -/
def fixedIntervals (s : Schedule) : List UInt64 :=
  [s.baseInterval, s.cumulativeInterval, s.diskStatInterval, s.unusedIndexInterval,
   s.fdCacheInterval]

/-- The settings that ask for what a schedule has. -/
def settings (s : Schedule) : UpkeepSettings where
  baseThreads := .ofNat s.baseThreads
  cumulativeThreads := .ofNat s.cumulativeThreads
  baseInterval := s.baseInterval.toInt64
  cumulativeInterval := s.cumulativeInterval.toInt64
  sweepMax := s.sweep.max.toInt64
  sweepMin := s.sweep.min.toInt64
  diskStatInterval := s.diskStatInterval.toInt64
  unusedIndexInterval := s.unusedIndexInterval.toInt64
  fdCacheInterval := s.fdCacheInterval.toInt64

theorem fixedIntervals_ofSettings (c : UpkeepSettings) :
    (ofSettings c).fixedIntervals = c.fixedSettings.map fun f => f.check.1 := rfl

/-- The settings that were replaced, each with what it was replaced by. -/
def replaced (c : UpkeepSettings) : List (FixedSetting × UInt64) :=
  (c.fixedSettings.zip (ofSettings c).fixedIntervals).filter fun kept => ¬ kept.1.Valid

theorem reduceOption_checks (settings : List FixedSetting) :
    (settings.map fun f => f.check.2).reduceOption =
      ((settings.zip (settings.map fun f => f.check.1)).filter fun kept => ¬ kept.1.Valid).map
        fun kept => kept.1.correction kept.2 := by
  induction settings with
  | nil => rfl
  | cons f rest ih =>
    rw [List.map_cons, f.check_correction, List.map_cons, List.zip_cons_cons]
    by_cases valid : f.Valid
    · rw [if_pos valid, List.reduceOption_cons_of_none, ih, List.filter_cons_of_neg (by simpa)]
    · rw [if_neg valid, List.reduceOption_cons_of_some, ih, List.filter_cons_of_pos (by simpa),
        List.map_cons]

theorem corrections_ofSettings (c : UpkeepSettings) :
    (ofSettings c).corrections =
      (replaced c).map (fun kept => kept.1.correction kept.2) ++
      if c.SweepValid then [] else [.sweep c.sweepMin c.sweepMax (ofSettings c).sweep] := by
  have listed : (ofSettings c).corrections =
      ((c.fixedSettings.map fun f => f.check.2) ++
        [(SweepRange.checked c.sweepMin c.sweepMax).2]).reduceOption := rfl
  rw [listed, List.reduceOption_append, reduceOption_checks, SweepRange.checked_correction]
  by_cases valid : c.SweepValid
  · rw [if_pos valid, if_pos (SweepRange.valid_iff.mp valid)]
    rfl
  · rw [if_neg valid, if_neg (valid ∘ SweepRange.valid_iff.mpr)]
    rfl

theorem warnings_ofSettings (c : UpkeepSettings) :
    (ofSettings c).warnings =
      (replaced c).map
        (fun kept => .intervalReplaced kept.1.name kept.1.configured kept.2) ++
      if c.SweepValid then []
      else [.sweepRangeReplaced c.sweepMin c.sweepMax (ofSettings c).sweep.min
        (ofSettings c).sweep.max] := by
  rw [warnings, corrections_ofSettings, List.map_append, List.map_map]
  split_ifs <;> rfl

theorem fixedIntervals_seconds (c : UpkeepSettings) :
    (ofSettings c).fixedIntervals.map (fun secs => (secs.toNat : ℤ)) =
      c.fixedSettings.map FixedSetting.seconds := by
  rw [fixedIntervals_ofSettings, List.map_map]
  exact List.map_congr_left fun f _ => f.check_seconds

theorem fixedIntervals_pos (c : UpkeepSettings) :
    ∀ secs ∈ (ofSettings c).fixedIntervals, 1 ≤ secs := by
  intro secs member
  rw [fixedIntervals_ofSettings] at member
  obtain ⟨f, listed, rfl⟩ := List.mem_map.mp member
  have signed := FixedSetting.check_positive (c.fixedSettings_sound f listed)
  have positive := (SweepRange.toUInt64_mono signed (Int64.le_refl _)).1
  rw [UInt64.toUInt64_toInt64] at positive
  exact UInt64.le_iff_toNat_le.mpr (UInt64.lt_iff_toNat_lt.mp positive)

theorem sweep_seconds (c : UpkeepSettings) :
    (((ofSettings c).sweep.min.toNat : ℤ), ((ofSettings c).sweep.max.toNat : ℤ)) =
      if c.SweepValid then (c.sweepMin.toInt, c.sweepMax.toInt)
      else (1, max c.sweepMax.toInt 1) := by
  by_cases valid : c.SweepValid
  · obtain ⟨low, high⟩ := SweepRange.checked_kept (SweepRange.valid_iff.mp valid)
    rw [if_pos valid, ← low, ← high]
    rfl
  · obtain ⟨low, high⟩ := SweepRange.checked_replaced (valid ∘ SweepRange.valid_iff.mpr)
    rw [if_neg valid, ← high, ← low]
    rfl

/-- Written back as settings, a schedule is drawn up as it was, with nothing to correct and nothing
to warn of. -/
theorem draw_settings (c : UpkeepSettings) :
    draw (ofSettings c).settings = ({ ofSettings c with corrections := [] }, []) := by
  have fixed : ∀ f ∈ c.fixedSettings,
      checkInterval f.name f.check.1.toInt64 f.fallback = { applied := f.check.1 } :=
    fun f listed => FixedSetting.check_again (c.fixedSettings_sound f listed)
  simp only [UpkeepSettings.fixedSettings, List.forall_mem_cons, FixedSetting.check,
    checkedInterval, Checked.returned] at fixed
  obtain ⟨base, cumulative, diskStat, unusedIndex, fdCache, -⟩ := fixed
  have sweep := SweepRange.check_again c.sweepMin c.sweepMax
  simp only [SweepRange.checked, Checked.returned] at sweep
  simp only [ofSettings, draw, settings, base, cumulative, diskStat, unusedIndex, fdCache, sweep,
    UInt32.ofNat_toNat]
  rfl

end Schedule

/-- A warning that a setting was replaced. -/
def Event.isReplacement : Event → Bool
  | intervalReplaced _ _ _ | sweepRangeReplaced _ _ _ _ => true
  | _ => false

/-- Each correction has a warning of its own: nothing of it is lost in the event. -/
theorem Correction.event_injective : Function.Injective event := by
  rintro (⟨setting, configured, applied⟩ | ⟨low, high, least, greatest⟩)
    (⟨setting', configured', applied'⟩ | ⟨low', high', least', greatest'⟩) same
  all_goals cases same
  all_goals rfl

theorem Correction.event_isReplacement (k : Correction) : k.event.isReplacement = true := by
  cases k <;> rfl

theorem Correction.event_level (k : Correction) : k.event.level = .warn := by
  cases k <;> rfl

theorem Duty.respond_events (d : Duty) (answer : Outcome Float) :
    ∀ e ∈ (d.respond answer).events, e.isReplacement = false := by
  cases d with
  | trashSweep work =>
    cases answer with
    | ok reported =>
      simp only [respond, Reply.map, TrashSweep.respond]
      split_ifs <;> simp [Event.isReplacement]
    | error cause => simp [respond, Reply.map, TrashSweep.respond]
    | panic payload => simp [respond, Reply.map, TrashSweep.respond]
  | routine work => cases answer <;> simp [respond, Reply.map, RoutineWork.respond]
  | compaction work =>
    simp only [respond, Reply.map, CompactionWork.respond]
    split_ifs
    · cases answer <;> simp [CompactionWork.respondToBinding, Event.isReplacement]
    · simp [CompactionWork.respondToCompaction]

namespace Worker

variable {κ : Type} {C : Collaborators κ}

theorem advance_events {state : SharedState} {w : Worker κ} {step : PassStep (Worker κ)}
    (advanced : (task C).advance state w = some step) :
    ∀ e ∈ step.events, e.isReplacement = false := by
  obtain ⟨called, -, rfl⟩ := Option.map_eq_some_iff.mp advanced
  cases called.answer with
  | none => exact fun e listed => (List.not_mem_nil listed).elim
  | some answer => exact w.duty.respond_events answer

end Worker

namespace UpkeepLoop

variable {κ : Type} {C : Collaborators κ}

theorem failureEvents_passFailed {σ : Type} (l : UpkeepLoop σ) (outcome : Outcome Unit) :
    ∀ e ∈ l.failureEvents outcome, e.isReplacement = false := by
  unfold failureEvents
  cases outcome.failure? <;> simp [Event.isReplacement]

theorem continuePass_events {σ : Type} (l : UpkeepLoop σ) (step : PassStep σ) :
    (l.continuePass step).events =
      l.events ++ step.events ++ (step.outcome.map l.failureEvents).getD [] := by
  cases ended : step.outcome with
  | none =>
    rw [continuePass_going l ended]
    exact (List.append_nil _).symm
  | some outcome =>
    rw [continuePass_ended l ended]
    rfl

/-- No step of a worker's loop warns of a replaced setting, and so no run of it does. -/
theorem Path.no_replacement {name : String} {w : Worker κ} {l : UpkeepLoop (Worker κ)}
    (path : Path (Worker.task C) (.ofTask (Worker.task C) name w) l) :
    ∀ e ∈ l.events, e.isReplacement = false := by
  refine path.keeps (P := fun l => ∀ e ∈ l.events, e.isReplacement = false) ?_
    fun e listed => (List.not_mem_nil listed).elim
  intro stopping state l after next step quiet
  cases step with
  | @passing step _ advanced =>
    intro e listed
    rw [continuePass_events, List.mem_append, List.mem_append] at listed
    rcases listed with (before | now) | failing
    · exact quiet e before
    · exact Worker.advance_events advanced e now
    · cases ended : step.outcome with
      | none => rw [ended] at failing; exact (List.not_mem_nil failing).elim
      | some outcome =>
        rw [ended] at failing
        exact l.failureEvents_passFailed outcome e failing
  | firstWait _ _ => exact quiet
  | firstPass _ _ => exact quiet
  | nextPass _ => exact quiet
  | laterWait _ => exact quiet
  | waitEnd _ => exact quiet
  | halt _ => exact quiet

end UpkeepLoop

namespace Supervisor

theorem warnings_replacements (s : Schedule) :
    s.warnings.filter Event.isReplacement = s.warnings := by
  rw [List.filter_eq_self]
  intro e listed
  obtain ⟨k, -, rfl⟩ := List.mem_map.mp listed
  exact k.event_isReplacement

/-- Of all that a start logs, the warnings of the schedule are the only replacements. -/
theorem start_replacements (c : UpkeepSettings) (p : Premises) (threads : Threads) :
    (start c p threads).events.filter Event.isReplacement =
      if p.unit.isZero then [] else (Schedule.draw c).2 := by
  rw [Schedule.draw_warnings]
  unfold start
  split_ifs
  · rfl
  · dsimp only
    rw [Schedule.draw_warnings]
    split
    next => exact warnings_replacements _
    next cause =>
      have joins : ∀ errors : List NodeError,
          (errors.map Event.joinFailed).filter Event.isReplacement = [] := by
        intro errors
        rw [List.filter_eq_nil_iff]
        simp [Event.isReplacement]
      rw [List.filter_append, warnings_replacements,
        List.filter_cons_of_neg (by simp [Event.isReplacement]), joins, List.append_nil]

theorem end_replacements (s : Supervisor) (threads : Threads) :
    ∀ e ∈ (s.shutdown threads).events ++ s.drop.events, e.isReplacement = false := by
  simp only [shutdown, drop, List.isEmpty_nil, if_true, List.append_nil, List.mem_append,
    List.mem_map]
  rintro e (⟨cause, -, rfl⟩ | listed)
  · rfl
  · split at listed
    · cases listed
    · rw [List.mem_singleton.mp listed]
      rfl

end Supervisor

namespace Schedule

/-- For any settings: every interval is positive and the bounds are in order; what will do is kept
and the rest replaced; the corrections are the replaced settings in their order, each with what was
configured and what is applied; the warnings logged are theirs, one for each. A start logs these
warnings once, or none where it is refused for its unit, and neither the loops of any workers nor
the end of them logs one again. Written back, the schedule is drawn up as it was, without a
correction and without a warning. -/
theorem ofSettings_projection {κ : Type} (c : UpkeepSettings) (p : Premises) (threads : Threads)
    (running : Supervisor) (C : Collaborators κ) (state : SharedState) (own : String → κ)
    (moves : List Move) :
    let s := ofSettings c
    let logged := (draw c).2
    (s.baseThreads = c.baseThreads.toNat ∧ s.cumulativeThreads = c.cumulativeThreads.toNat) ∧
    ((∀ secs ∈ s.fixedIntervals, 1 ≤ secs) ∧
      s.fixedIntervals.map (fun secs => (secs.toNat : ℤ)) =
        c.fixedSettings.map FixedSetting.seconds) ∧
    ((1 ≤ s.sweep.min ∧ s.sweep.min ≤ s.sweep.max) ∧
      ((s.sweep.min.toNat : ℤ), (s.sweep.max.toNat : ℤ)) =
        if c.SweepValid then (c.sweepMin.toInt, c.sweepMax.toInt)
        else (1, max c.sweepMax.toInt 1)) ∧
    s.corrections =
      (replaced c).map (fun kept => .fixed kept.1.name kept.1.configured kept.2) ++
      (if c.SweepValid then [] else [.sweep c.sweepMin c.sweepMax s.sweep]) ∧
    (logged =
      (replaced c).map (fun kept => .intervalReplaced kept.1.name kept.1.configured kept.2) ++
      (if c.SweepValid then []
        else [.sweepRangeReplaced c.sweepMin c.sweepMax s.sweep.min s.sweep.max]) ∧
      logged = s.corrections.map Correction.event ∧ logged = s.warnings ∧
      Function.Injective Correction.event ∧
      ∀ e ∈ logged, e.level = .warn) ∧
    ((Supervisor.start c p threads).events.filter Event.isReplacement =
        (if p.unit.isZero then [] else logged) ∧
      (∀ l ∈ ((running.fleet C state own).run (Worker.task C) moves).loops,
        ∀ e ∈ l.events, e.isReplacement = false) ∧
      ∀ e ∈ (running.shutdown threads).events ++ running.drop.events, e.isReplacement = false) ∧
    ofSettings s.settings = { s with corrections := [] } ∧
    (draw s.settings).2 = [] := by
  intro s logged
  have order : 0 < s.sweep.min ∧ s.sweep.min ≤ s.sweep.max :=
    SweepRange.checked_order c.sweepMin c.sweepMax
  refine ⟨⟨rfl, rfl⟩, ⟨fixedIntervals_pos c, fixedIntervals_seconds c⟩,
    ⟨⟨?_, order.2⟩, sweep_seconds c⟩, corrections_ofSettings c,
    ⟨(draw_warnings c).trans (warnings_ofSettings c), draw_warnings c, draw_warnings c,
      Correction.event_injective, ?_⟩,
    ⟨Supervisor.start_replacements c p threads, ?_, running.end_replacements threads⟩,
    congrArg Prod.fst (draw_settings c), congrArg Prod.snd (draw_settings c)⟩
  · exact UInt64.le_iff_toNat_le.mpr (UInt64.lt_iff_toNat_lt.mp order.1)
  · intro e warned
    rw [show logged = s.warnings from draw_warnings c] at warned
    obtain ⟨k, -, rfl⟩ := List.mem_map.mp warned
    exact k.event_level
  · intro l reached
    obtain ⟨post, -, path⟩ := Supervisor.fleet_path reached
    exact path.no_replacement

/-- Bounds the wrong way round, and two intervals that will not do. -/
example :
    (ofSettings { baseInterval := 0, fdCacheInterval := Int64.minValue,
                  sweepMin := 600, sweepMax := 5 }).corrections =
      [.fixed "base_compaction_check_interval_seconds" 0 1,
       .fixed "file_descriptor_cache_clean_interval" Int64.minValue 3600,
       .sweep 600 5 ⟨1, 5⟩] := by
  decide

end Schedule

end TabletUpkeep
