import TabletUpkeep.Duty.Script
import TabletUpkeep.Proofs.FloatBits

/-! What the trash sweeper makes of its reports, over passes of any number. The last good report
decides its usage, the gauge and the wait; a report that is not a number, an error and a panic
leave all three alone. The sweeper is driven pass by pass, with nobody else at the shared state. -/
namespace TabletUpkeep

/-- Passes one after the other, each in at most `fuel` steps. -/
def Task.passes? {σ : Type} (T : Task σ) (fuel : Nat) :
    SharedState → σ → Nat → Option (List (PassStep σ))
  | _, _, 0 => some []
  | state, task, count + 1 =>
    (T.pass? state task fuel).bind fun pass =>
      (T.passes? fuel pass.state pass.task count).map (pass :: ·)

namespace TrashSweep

/-- The usage a report is good for: the number reported, moved to the nearer end of the unit range
if it lies outside. -/
def worth : Outcome Float → Option Float
  | .ok reported =>
    if reported.isNaN then none
    else if reported < 0.0 then some 0.0
    else if 1.0 < reported then some 1.0
    else some reported
  | .error _ | .panic _ => none

def lastWorth (reports : List (Outcome Float)) : Option Float :=
  (reports.filterMap worth).getLast?

def verdict : Outcome Float → Outcome Unit
  | .ok reported => if reported.isNaN then .error (.invalidUsage reported) else .ok ()
  | .error cause => .error cause
  | .panic payload => .panic payload

def rangeWarning : Outcome Float → List Event
  | .ok reported =>
    if reported < 0.0 then [.usageOutOfRange reported 0.0]
    else if 1.0 < reported then [.usageOutOfRange reported 1.0]
    else []
  | .error _ | .panic _ => []

def publishWorth (state : SharedState) : Option Float → SharedState
  | some usage => state.publishUsage usage
  | none => state

/-- The end of a pass of `t` that got the given report. -/
def passAfter (t : TrashSweep) (state : SharedState) (report : Outcome Float)
    (script : Script) : PassStep (Worker Script) where
  task := ⟨.trashSweep { t with usage := (worth report).getD t.usage }, script⟩
  state := publishWorth state (worth report)
  calls := [.sweepTrash]
  events := rangeWarning report
  outcome := some (verdict report)

theorem lastWorth_cons (report : Outcome Float) (reports : List (Outcome Float)) :
    lastWorth (report :: reports) = (lastWorth reports).or (worth report) := by
  unfold lastWorth
  cases good : worth report with
  | none => simp [good]
  | some usage =>
    rw [List.filterMap_cons_some good, List.getLast?_cons]
    cases (reports.filterMap worth).getLast? <;> rfl

/-- Only the later of two publications shows. -/
theorem publishWorth_twice (state : SharedState) (first second : Option Float) :
    publishWorth (publishWorth state first) second = publishWorth state (second.or first) := by
  cases second <;> cases first <;> rfl

theorem publishWorth_read (state : SharedState) (usage : Option Float) :
    (publishWorth state usage).usage.read = usage.or state.usage.read := by
  cases usage with
  | none => rfl
  | some usage => exact UsageGauge.read_set state.usage usage

/-- A report that is not a number compares with nothing, so there is no warning about it. -/
theorem rangeWarning_nan {reported : Float} (nan : reported.isNaN = true) :
    rangeWarning (.ok reported) = [] := by
  have low := (not_lt_of_isNaN nan 0.0).1
  have high := (not_lt_of_isNaN nan 1.0).2
  simp [rangeWarning, low, high]

theorem worth_number {reported : Float} (number : reported.isNaN = false) :
    worth (.ok reported) = some (clampUnit reported) := by
  simp only [worth, number, Bool.false_eq_true, ↓reduceIte, clampUnit, gt_iff_lt]
  by_cases low : reported < 0.0
  · simp [low]
  by_cases high : 1.0 < reported
  · simp [low, high]
  · simp [low, high]

theorem rangeWarning_number {reported : Float} (number : reported.isNaN = false) :
    rangeWarning (.ok reported) =
      if clampUnit reported != reported then [.usageOutOfRange reported (clampUnit reported)]
      else [] := by
  have outside := clampUnit_bne_iff number
  by_cases low : reported < 0.0
  · rw [if_pos (outside.mpr (.inl low))]
    simp [rangeWarning, clampUnit, low]
  by_cases high : 1.0 < reported
  · rw [if_pos (outside.mpr (.inr high))]
    simp [rangeWarning, clampUnit, low, high]
  · rw [if_neg fun other => (outside.mp other).elim low high]
    simp [rangeWarning, low, high]

theorem respond_eq (t : TrashSweep) (report : Outcome Float) :
    t.respond report =
      { worker := { t with usage := (worth report).getD t.usage }
        events := rangeWarning report
        published := worth report
        outcome := some (verdict report) } := by
  cases report with
  | error cause => rfl
  | panic payload => rfl
  | ok reported =>
    cases number : reported.isNaN with
    | true =>
      simp only [respond, worth, verdict, number, ↓reduceIte, rangeWarning_nan number,
        Option.getD_none]
    | false =>
      simp only [respond, verdict, number, Bool.false_eq_true, ↓reduceIte, worth_number number,
        rangeWarning_number number, Option.getD_some]

/-- A pass of a scripted sweeper takes one report off the script. -/
theorem sweep_pass (t : TrashSweep) (state : SharedState) (report : Outcome Float)
    (rest bindings : List (Outcome Float)) (afterwards : Afterwards) (fuel : Nat) :
    scriptedWorker.pass? state ⟨.trashSweep t, ⟨report :: rest, bindings, afterwards⟩⟩ (fuel + 1) =
      some (passAfter t state report ⟨rest, bindings, afterwards⟩) := by
  have answered : scriptedWorker.advance state
      ⟨.trashSweep t, ⟨report :: rest, bindings, afterwards⟩⟩ = some (Worker.receive
        ⟨.trashSweep t, ⟨report :: rest, bindings, afterwards⟩⟩
        ⟨⟨rest, bindings, afterwards⟩, state, some report⟩ report) := rfl
  simp only [Task.pass?, answered, Option.bind_some, Worker.receive, Duty.respond, respond_eq,
    Reply.map, passAfter]
  cases worth report <;> rfl

/-- What a pass leaves behind, when `reports` are those of all passes up to this one and `report`
is the last of them. The usage and the state are followed from those before the first pass. -/
structure Follows (t : TrashSweep) (state : SharedState) (reports : List (Outcome Float))
    (report : Outcome Float) (pass : PassStep (Worker Script)) : Prop where
  duty : pass.task.duty = .trashSweep { t with usage := (lastWorth reports).getD t.usage }
  shared : pass.state = publishWorth state (lastWorth reports)
  gauge : pass.state.usage.read = (lastWorth reports).or state.usage.read
  outcome : pass.outcome = some (verdict report)
  wait : scriptedWorker.laterWait pass.task =
    .ofUnits (t.bounds.sweepSecs t.curve ((lastWorth reports).getD t.usage)) t.unit
  events : pass.events = rangeWarning report
  calls : pass.calls = [.sweepTrash]

theorem follows_first (t : TrashSweep) (state : SharedState) (report : Outcome Float)
    (script : Script) : Follows t state [report] report (passAfter t state report script) := by
  have last : lastWorth [report] = worth report := by
    rw [lastWorth_cons]
    exact Option.none_or
  refine ⟨?_, ?_, ?_, rfl, ?_, rfl, rfl⟩
  · rw [last, passAfter]
  · rw [last, passAfter]
  · rw [last, passAfter, publishWorth_read]
  · rw [last]
    rfl

/-- A report before all others counts where none of them is good. -/
theorem follows_later (t : TrashSweep) (state : SharedState) (first : Outcome Float)
    (reports : List (Outcome Float)) (report : Outcome Float) (pass : PassStep (Worker Script))
    (follows : Follows { t with usage := (worth first).getD t.usage }
      (publishWorth state (worth first)) reports report pass) :
    Follows t state (first :: reports) report pass := by
  have usage : (lastWorth (first :: reports)).getD t.usage =
      (lastWorth reports).getD ((worth first).getD t.usage) := by
    rw [lastWorth_cons]
    cases lastWorth reports <;> rfl
  have shared : pass.state = publishWorth state (lastWorth (first :: reports)) := by
    rw [follows.shared, publishWorth_twice, lastWorth_cons]
  refine ⟨?_, shared, ?_, follows.outcome, ?_, follows.events, follows.calls⟩
  · rw [follows.duty, usage]
  · rw [shared, publishWorth_read]
  · rw [follows.wait, usage]

theorem passes_follow (t : TrashSweep) (state : SharedState)
    (reports bindings : List (Outcome Float)) (afterwards : Afterwards) (fuel : Nat) :
    ∃ passes, scriptedWorker.passes? (fuel + 1) state
        ⟨.trashSweep t, ⟨reports, bindings, afterwards⟩⟩ reports.length = some passes ∧
      passes.length = reports.length ∧
      ∀ n report pass, reports[n]? = some report → passes[n]? = some pass →
        Follows t state (reports.take (n + 1)) report pass := by
  induction reports generalizing t state with
  | nil =>
    refine ⟨[], rfl, rfl, ?_⟩
    intro n report pass reported
    simp at reported
  | cons first reports ih =>
    obtain ⟨passes, run, count, follow⟩ :=
      ih { t with usage := (worth first).getD t.usage } (publishWorth state (worth first))
    refine ⟨passAfter t state first ⟨reports, bindings, afterwards⟩ :: passes, ?_, ?_, ?_⟩
    · simp only [List.length_cons, Task.passes?, sweep_pass, Option.bind_some]
      rw [passAfter, run]
      rfl
    · rw [List.length_cons, count, List.length_cons]
    · intro n report pass reported passed
      cases n with
      | zero =>
        cases reported
        cases passed
        exact follows_first t state first _
      | succ n =>
        have later := follow n report pass reported passed
        exact follows_later t state first _ report pass later

/-- The sweeper follows its last good report, whatever reports there are between. -/
theorem follows_last_good_report (bounds : SweepRange) (unit : Duration) (curve : Float → Float)
    (state : SharedState) (script : Script) (fuel : Nat) :
    let sweeper : TrashSweep := { bounds, unit, curve }
    let start : Worker Script := ⟨.trashSweep sweeper, script⟩
    sweeper.usage = 1.0 ∧
    scriptedWorker.firstWait start = some (.ofUnits (bounds.sweepSecs curve 1.0) unit) ∧
    ∃ passes, scriptedWorker.passes? (fuel + 1) state start script.engine.length = some passes ∧
      passes.length = script.engine.length ∧
      ∀ n report pass, script.engine[n]? = some report → passes[n]? = some pass →
        Follows sweeper state (script.engine.take (n + 1)) report pass := by
  intro sweeper start
  obtain ⟨reports, bindings, afterwards⟩ := script
  exact ⟨rfl, rfl, passes_follow sweeper state reports bindings afterwards fuel⟩

/-- A usage above the unit range is cut to it and kept through an error. -/
theorem usage_kept_after_error :
    let reports : List (Outcome Float) := [.ok (0.0 / 0.0), .ok 1.7, .error .noCandidate]
    ∃ passes pass, scriptedWorker.passes? 1 {}
        ⟨.trashSweep { bounds := ⟨1, 10⟩, unit := .ofSecs 1 }, ⟨reports, [], .succeeds⟩⟩ 3 =
          some passes ∧
      reports[2]? = some (.error .noCandidate) ∧ passes[2]? = some pass ∧
      pass.outcome = some (.error .noCandidate) ∧ pass.state.usage.read = some 1.0 := by
  intro reports
  obtain ⟨-, -, passes, run, count, follow⟩ := follows_last_good_report ⟨1, 10⟩ (.ofSecs 1)
    usualCurve {} ⟨reports, [], .succeeds⟩ 0
  have bound : 2 < passes.length := by
    rw [count]
    decide
  have third := List.getElem?_eq_getElem bound
  have follows := follow 2 _ _ rfl third
  have last : lastWorth (reports.take 3) = some 1.0 := by decide
  refine ⟨passes, _, run, rfl, third, follows.outcome, ?_⟩
  rw [follows.gauge, last]
  rfl

end TrashSweep

end TabletUpkeep
