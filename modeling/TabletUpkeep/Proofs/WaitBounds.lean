import TabletUpkeep.Proofs.DurationScaling
import TabletUpkeep.Proofs.FleetRuns
import TabletUpkeep.Proofs.Startup
import TabletUpkeep.Proofs.SweepFeedback
import TabletUpkeep.Proofs.SweepInterval

/-! How long workers wait. A worker of fixed interval waits that interval and no other; the sweeper
waits as its usage has it, and that stays a ratio whatever is reported. So every wait of a launched
worker is positive and within what was configured. The collaborators may answer anything, or never;
of the curve it is taken for granted that it stays below one. -/
namespace TabletUpkeep

namespace UpkeepLoop

variable {σ : Type}

/-- A loop whose task is as it must be, and all of whose waits fit. -/
structure WaitsFit (Good : σ → Prop) (Fits : Duration → Prop) (l : UpkeepLoop σ) : Prop where
  task : Good l.task
  waits : ∀ length, .waitEntered length ∈ l.trace → Fits length

section

variable {T : Task σ} {Good : σ → Prop} {Fits : Duration → Prop}

theorem WaitsFit.enterWait {l : UpkeepLoop σ} {length : Duration} (fit : l.WaitsFit Good Fits)
    (fits : Fits length) : (l.enterWait length).WaitsFit Good Fits := by
  refine ⟨fit.task, ?_⟩
  intro other waited
  rw [enterWait_trace, List.mem_append, List.mem_singleton] at waited
  rcases waited with before | now
  · exact fit.waits other before
  · cases now
    exact fits

theorem WaitsFit.enter {l : UpkeepLoop σ} (phase : Phase) {label : Label}
    (other : ∀ length, label ≠ .waitEntered length) (fit : l.WaitsFit Good Fits) :
    (l.enter phase label).WaitsFit Good Fits := by
  refine ⟨fit.task, ?_⟩
  intro length waited
  rw [enter_trace, List.mem_append, List.mem_singleton] at waited
  exact fit.waits length (waited.resolve_right (other length).symm)

theorem WaitsFit.continuePass {l : UpkeepLoop σ} {step : PassStep σ} (good : Good step.task)
    (fit : l.WaitsFit Good Fits) : (l.continuePass step).WaitsFit Good Fits := by
  cases ended : step.outcome with
  | none =>
    rw [continuePass_going l ended]
    exact ⟨good, fit.waits⟩
  | some outcome =>
    rw [continuePass_ended l ended]
    exact WaitsFit.enter _ (fun _ => Label.noConfusion) ⟨good, fit.waits⟩

/-- Passes keep the task as it must be, and then every wait it asks for fits. -/
theorem Path.waits_fit
    (kept : ∀ state task step, T.advance state task = some step → Good task → Good step.task)
    (first : ∀ task length, Good task → T.firstWait task = some length → Fits length)
    (later : ∀ task, Good task → Fits (T.laterWait task)) {name : String} {task : σ}
    (good : Good task) {l : UpkeepLoop σ} (path : Path T (.ofTask T name task) l) :
    l.WaitsFit Good Fits := by
  refine path.keeps ?_ ⟨good, fun length waited => (List.not_mem_nil waited).elim⟩
  intro stopping state l after next step fit
  cases step with
  | firstWait _ asked => exact fit.enterWait (first _ _ fit.task asked)
  | laterWait _ => exact fit.enterWait (later _ fit.task)
  | passing _ advanced => exact fit.continuePass (kept _ _ _ advanced fit.task)
  | firstPass _ _ => exact fit.enter _ fun _ => Label.noConfusion
  | nextPass _ => exact fit.enter _ fun _ => Label.noConfusion
  | waitEnd _ => exact fit.enter _ fun _ => Label.noConfusion
  | halt _ => exact fit.enter _ fun _ => Label.noConfusion

end

end UpkeepLoop

namespace Duty

/-- The one interval of a duty, unless it adapts its waits. -/
def interval? : Duty → Option Duration
  | trashSweep _ => none
  | routine work => some work.interval
  | compaction work => some work.interval

theorem respond_interval? (d : Duty) (answer : Outcome Float) :
    (d.respond answer).worker.interval? = d.interval? := by
  cases d with
  | trashSweep work => rfl
  | routine work => cases answer <;> rfl
  | compaction work =>
    simp only [respond, CompactionWork.respond]
    split
    · cases answer <;> rfl
    · rfl

theorem firstWait_of_interval? {d : Duty} {interval length : Duration}
    (fixed : d.interval? = some interval) (asked : d.firstWait = some length) :
    length = interval := by
  cases d with
  | trashSweep work => cases fixed
  | compaction work => cases asked
  | routine work =>
    cases fixed
    simp only [firstWait, RoutineWork.firstWait] at asked
    split at asked <;> cases asked
    rfl

theorem laterWait_of_interval? {d : Duty} {interval : Duration}
    (fixed : d.interval? = some interval) : d.laterWait = interval := by
  cases d with
  | trashSweep work => cases fixed
  | routine work => exact Option.some.inj fixed
  | compaction work => exact Option.some.inj fixed

end Duty

namespace TrashSweep

theorem worth_inUnit {report : Outcome Float} {usage : Float} (good : worth report = some usage) :
    InUnit usage := by
  cases report with
  | error cause => cases good
  | panic payload => cases good
  | ok reported =>
    cases number : reported.isNaN with
    | true =>
      rw [worth, number] at good
      cases good
    | false =>
      rw [worth_number number] at good
      cases good
      exact clampUnit_inUnit number

/-- The sweeper `t` with some usage ratio of its own. -/
def Adapted (t : TrashSweep) (d : Duty) : Prop :=
  ∃ usage, InUnit usage ∧ d = .trashSweep { t with usage }

/-- Lengths between those of the sweeper's two bounds. -/
def Allows (t : TrashSweep) (length : Duration) : Prop :=
  (Duration.ofUnits t.bounds.min t.unit).toNanos ≤ length.toNanos ∧
  length.toNanos ≤ (Duration.ofUnits t.bounds.max t.unit).toNanos

theorem Adapted.respond {t : TrashSweep} {d : Duty} (adapted : t.Adapted d)
    (answer : Outcome Float) : t.Adapted (d.respond answer).worker := by
  obtain ⟨usage, ratio, rfl⟩ := adapted
  refine ⟨(worth answer).getD usage, ?_, ?_⟩
  · cases good : worth answer with
    | none => exact ratio
    | some reported => exact worth_inUnit good
  · simp only [Duty.respond, respond_eq, Reply.map]

/-- Whatever the usage, the wait is one of the seconds between the bounds. -/
theorem wait_range {t : TrashSweep} (order : t.bounds.min ≤ t.bounds.max) (tame : Tame t.curve)
    (ratio : InUnit t.usage) : t.Allows t.wait := by
  obtain ⟨low, high⟩ := tame t.usage ratio
  obtain ⟨above, below⟩ := SweepRange.sweepSecs_range order low high
  exact ⟨Duration.ofUnits_mono above t.unit, Duration.ofUnits_mono below t.unit⟩

end TrashSweep

namespace Worker

variable {κ : Type}

/-- A step of a pass leaves the duty alone or is its response to an answer. -/
theorem advance_duty {C : Collaborators κ} {state : SharedState} {w : Worker κ}
    {step : PassStep (Worker κ)} (advanced : (task C).advance state w = some step) :
    step.task.duty = w.duty ∨ ∃ answer, step.task.duty = (w.duty.respond answer).worker := by
  obtain ⟨called, -, rfl⟩ := Option.map_eq_some_iff.mp advanced
  cases called.answer with
  | none => exact .inl rfl
  | some answer => exact .inr ⟨answer, rfl⟩

section

variable {C : Collaborators κ} {name : String} {duty : Duty} {own : κ}
variable {l : UpkeepLoop (Worker κ)} {length : Duration}

/-- A worker that waits for one length only. -/
def Fixed (interval : Duration) (w : Worker κ) : Prop := w.duty.interval? = some interval

/-- A duty of one interval makes no other wait. -/
theorem fixed_waits {interval : Duration} (fixed : Fixed interval (⟨duty, own⟩ : Worker κ))
    (path : UpkeepLoop.Path (task C) (.ofTask (task C) name ⟨duty, own⟩) l)
    (waited : .waitEntered length ∈ l.trace) : length = interval := by
  have fit : l.WaitsFit (Fixed interval) (· = interval) := by
    refine UpkeepLoop.Path.waits_fit ?_ ?_ ?_ fixed path
    · intro state w step advanced fixed
      unfold Fixed at fixed ⊢
      rcases advance_duty advanced with same | ⟨answer, followed⟩
      · rw [same, fixed]
      · rw [followed, Duty.respond_interval?, fixed]
    · intro w length fixed asked
      exact Duty.firstWait_of_interval? fixed asked
    · intro w fixed
      exact Duty.laterWait_of_interval? fixed
  exact fit.waits length waited

/-- The sweeper waits between its bounds, whatever it is told of the disks. -/
theorem sweep_waits {t : TrashSweep} (order : t.bounds.min ≤ t.bounds.max) (tame : Tame t.curve)
    (ratio : InUnit t.usage)
    (path : UpkeepLoop.Path (task C) (.ofTask (task C) name ⟨.trashSweep t, own⟩) l)
    (waited : .waitEntered length ∈ l.trace) : t.Allows length := by
  have fit : l.WaitsFit (fun w => t.Adapted w.duty) t.Allows := by
    refine UpkeepLoop.Path.waits_fit ?_ ?_ ?_ ⟨t.usage, ratio, rfl⟩ path
    · intro state w step advanced adapted
      rcases advance_duty advanced with same | ⟨answer, followed⟩
      · rw [same]
        exact adapted
      · rw [followed]
        exact adapted.respond answer
    -- The waits asked for are those of the same sweeper with another ratio.
    · rintro ⟨_, own⟩ length ⟨usage, ratio, rfl⟩ asked
      cases asked
      exact TrashSweep.wait_range (t := { t with usage }) order tame ratio
    · rintro ⟨_, own⟩ ⟨usage, ratio, rfl⟩
      exact TrashSweep.wait_range (t := { t with usage }) order tame ratio
  exact fit.waits length waited

end

end Worker

namespace UpkeepSettings

/-- The setting behind the one interval of a kind, and the seconds that stand in for it when it is
not positive. The sweeper has bounds instead. -/
def fixedInterval? (c : UpkeepSettings) : DutyKind → Option (Int64 × UInt64)
  | .trashSweep => none
  | .diskStatMonitor => some (c.diskStatInterval, 1)
  | .unusedIndex => some (c.unusedIndexInterval, 1)
  | .baseCompaction => some (c.baseInterval, 1)
  | .cumulativeCompaction => some (c.cumulativeInterval, 1)
  | .fdCacheClean => some (c.fdCacheInterval, 3600)

end UpkeepSettings

theorem checkInterval_applied (name : String) (setting : Int64) (fallback : UInt64) :
    (checkInterval name setting fallback).applied =
      if 0 < setting then setting.toUInt64 else fallback := by
  unfold checkInterval
  split_ifs <;> rfl

/-- What a post is given to wait: the sweeper the bounds of the sweep, every other one the interval
of its kind. -/
theorem Schedule.posts_timing (c : UpkeepSettings) (p : Premises) {post : Post}
    (member : post ∈ (ofSettings c).posts p) :
    post.duty = .trashSweep { bounds := (ofSettings c).sweep, unit := p.unit, curve := p.curve } ∨
    ∃ setting fallback, c.fixedInterval? post.kind = some (setting, fallback) ∧ 0 < fallback ∧
      post.duty.interval? =
        some (.ofUnits (if 0 < setting then setting.toUInt64 else fallback) p.unit) := by
  simp only [mem_posts, mem_pool, ofSettings, draw, checkInterval_applied] at member
  rcases member with rfl | rfl | rfl | ⟨i, -, rfl⟩ | ⟨i, -, rfl⟩ | rfl
  · exact .inl rfl
  all_goals exact .inr ⟨_, _, rfl, by decide, rfl⟩

theorem applied_pos (setting : Int64) {fallback : UInt64} (positive : 0 < fallback) :
    0 < if 0 < setting then setting.toUInt64 else fallback := by
  split_ifs with accepted
  · exact (SweepRange.toUInt64_mono accepted (Int64.le_refl setting)).1
  · exact positive

namespace Supervisor

variable {κ : Type}

/-- Every wait of every launched worker is positive. A worker of fixed interval waits its own
setting, or what stands in for it; the sweeper waits between its bounds. This holds for any settings
and any unit, after passes of any number that go in any way. -/
theorem waits_in_range (c : UpkeepSettings) (p : Premises) (threads : Threads)
    (C : Collaborators κ) (own : κ) (positive : 0 < p.unit.toNanos) (tame : Tame p.curve)
    {post : Post}
    (launched : post ∈ (launchFrom threads 0 ((Schedule.ofSettings c).posts p)).workers)
    {l : UpkeepLoop (Worker κ)}
    (path : UpkeepLoop.Path (Worker.task C)
      (.ofTask (Worker.task C) post.name ⟨post.duty, own⟩) l)
    {length : Duration} (waited : .waitEntered length ∈ l.trace) :
    0 < length.toNanos ∧
    (∀ setting fallback, c.fixedInterval? post.kind = some (setting, fallback) →
      length = .ofUnits (if 0 < setting then setting.toUInt64 else fallback) p.unit) ∧
    (post.kind = .trashSweep →
      (Duration.ofUnits (Schedule.ofSettings c).sweep.min p.unit).toNanos ≤ length.toNanos ∧
      length.toNanos ≤ (Duration.ofUnits (Schedule.ofSettings c).sweep.max p.unit).toNanos) := by
  have member := (launchFrom_workers threads 0 _).1.subset launched
  rcases Schedule.posts_timing c p member with duty | ⟨setting, fallback, timing, counted, fixed⟩
  · obtain ⟨counted, order⟩ := SweepRange.checked_order c.sweepMin c.sweepMax
    have kind : post.kind = .trashSweep := by
      rw [Post.kind, duty]
      rfl
    rw [duty] at path
    let sweeper : TrashSweep :=
      { bounds := (Schedule.ofSettings c).sweep, unit := p.unit, curve := p.curve }
    obtain ⟨low, high⟩ : sweeper.Allows length :=
      Worker.sweep_waits order tame inUnit_initial path waited
    have shortest := Duration.ofUnits_pos counted positive
    refine ⟨shortest.trans_le low, ?_, fun _ => ⟨low, high⟩⟩
    intro setting fallback timing
    rw [kind] at timing
    cases timing
  · have same := Worker.fixed_waits fixed path waited
    refine ⟨?_, ?_, ?_⟩
    · rw [same]
      exact Duration.ofUnits_pos (applied_pos setting counted) positive
    · intro setting' fallback' timing'
      cases timing.symm.trans timing'
      exact same
    · intro sweeping
      rw [sweeping] at timing
      cases timing

/-- The arctangent at the arguments that usages zero and one lead to, and constant about each. -/
def arctanAtEnds (x : Float) : Float :=
  if x < 0.0 then -1.4994888620096063 else 1.4056476493802699

theorem tame_atEnds : Tame (sweepCurve arctanAtEnds) := by
  intro usage _
  dsimp only [sweepCurve, unclampedCurve, arctanAtEnds]
  split_ifs
  · decide +kernel
  · decide +kernel

/-- A sweeper waits five units at first and 591 once it has seen empty disks. A cleaner whose
setting is the least there is waits for an hour. -/
theorem sweeper_and_cleaner_wait :
    let c : UpkeepSettings := { sweepMin := 5, sweepMax := 600, fdCacheInterval := Int64.minValue }
    let p : Premises := { curve := sweepCurve arctanAtEnds }
    let threads : Threads := ⟨fun _ => none, fun _ => false⟩
    let script : Script := ⟨[.ok 0.0], [], .succeeds⟩
    let posts := (launchFrom threads 0 ((Schedule.ofSettings c).posts p)).workers
    let T := scriptedWorker
    0 < p.unit.toNanos ∧ Tame p.curve ∧ ∃ sweeper ∈ posts, ∃ cleaner ∈ posts, ∃ l k,
      UpkeepLoop.Path T (.ofTask T sweeper.name ⟨sweeper.duty, script⟩) l ∧
      UpkeepLoop.Path T (.ofTask T cleaner.name ⟨cleaner.duty, script⟩) k ∧
      .waitEntered (.ofSecs 591) ∈ l.trace ∧ .waitEntered (.ofSecs 3600) ∈ k.trace ∧
      (Duration.ofUnits 5 p.unit).toNanos ≤ (Duration.ofSecs 591).toNanos ∧
      (Duration.ofSecs 591).toNanos ≤ (Duration.ofUnits 600 p.unit).toNanos ∧
      .ofSecs 3600 = Duration.ofUnits 3600 p.unit := by
  intro c p threads script posts T
  have positive : 0 < p.unit.toNanos := by decide
  let sweeper : Post :=
    .single (.trashSweep { bounds := ⟨5, 600⟩, unit := p.unit, curve := p.curve })
  let cleaner : Post := .single (.routine ⟨.fdCacheClean, .ofUnits 3600 p.unit⟩)
  have sweeping : sweeper ∈ posts := List.mem_of_getElem? (i := 0) rfl
  have cleaning : cleaner ∈ posts := List.mem_of_getElem? (i := 5) rfl
  let crew : Fleet (Worker Script) :=
    .ofTeam T {} [sweeper.worker fun _ => script, cleaner.worker fun _ => script]
  let untilSecondWait : List Move := .replicate 5 (.step 0)
  obtain ⟨l, reached, path⟩ := Fleet.run_path T (f := crew) untilSecondWait (i := 0) rfl
  obtain ⟨k, begun, way⟩ := Fleet.run_path T (f := crew) [.step 1] (i := 1) rfl
  have sweeps : (crew.run T untilSecondWait).loops[0]?.map UpkeepLoop.trace =
      some [.waitEntered (.ofSecs 5), .waitEnded false, .passStarted, .passEnded (.ok ()),
        .waitEntered (.ofSecs 591)] := by decide +kernel
  have cleans : (crew.run T [.step 1]).loops[1]?.map UpkeepLoop.trace =
      some [.waitEntered (.ofSecs 3600)] := by decide +kernel
  rw [reached] at sweeps
  rw [begun] at cleans
  have far : .waitEntered (.ofSecs 591) ∈ l.trace := by simp [Option.some.inj sweeps]
  have hour : .waitEntered (.ofSecs 3600) ∈ k.trace := by simp [Option.some.inj cleans]
  obtain ⟨-, -, range⟩ := waits_in_range c p threads Script.collaborators script positive
    tame_atEnds sweeping path far
  obtain ⟨-, same, -⟩ := waits_in_range c p threads Script.collaborators script positive
    tame_atEnds cleaning way hour
  obtain ⟨low, high⟩ := range rfl
  exact ⟨positive, tame_atEnds, sweeper, sweeping, cleaner, cleaning, l, k, path, way, far, hour,
    low, high, same Int64.minValue 3600 rfl⟩

end Supervisor

end TabletUpkeep
