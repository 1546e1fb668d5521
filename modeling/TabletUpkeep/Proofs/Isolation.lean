import TabletUpkeep.Duty.Script
import TabletUpkeep.Proofs.SoloRuns
import TabletUpkeep.Proofs.Startup
import TabletUpkeep.Proofs.SweepFeedback

/-! Workers of one node do not reach each other. They share the stop signal, which none of them
moves, and the usage gauge, which one of them writes and none reads. So each has the history that it
has by itself, and the gauge is read off the history of the sweeper. The collaborators are those
whose answers to a worker depend on its own calls alone. -/
namespace TabletUpkeep

variable {κ : Type}

/-- Collaborators that answer each worker out of what they keep for it. A call without a next step
hangs, and one without an answer has one later. -/
def Collaborators.detached (answer : Call → κ → Option (κ × Option (Outcome Float))) :
    Collaborators κ where
  step call state own := (answer call own).map fun next => ⟨next.1, state, next.2⟩

namespace Script

/-- What a script makes of a call, which is the same in every shared state. -/
def reply (call : Call) (script : Script) : Option (Script × Option (Outcome Float)) :=
  (step call {} script).map fun next => (next.own, next.answer)

/-- A script is kept for one worker, so scripted collaborators are of this sort. -/
theorem collaborators_detached : collaborators = .detached reply := by
  unfold collaborators Collaborators.detached reply
  congr
  funext call state script
  obtain ⟨engine, bindings, afterwards⟩ := script
  cases call <;> cases engine <;> cases bindings <;> cases afterwards <;> rfl

end Script

namespace Worker

section

variable {answer : Call → κ → Option (κ × Option (Outcome Float))}

theorem advance_detached (state : SharedState) (w : Worker κ) :
    advance (.detached answer) state w =
      (answer w.duty.call w.own).map fun next =>
        match next.2 with
        | none => { task := { w with own := next.1 }, state }
        | some reply => w.receive ⟨next.1, state, some reply⟩ reply := by
  simp only [advance, Collaborators.detached, Option.map_map]
  rfl

theorem task_blind : (task (.detached answer)).Blind := by
  intro state other w
  simp only [task, advance_detached, Option.map_map]
  refine congrArg (fun inward => Option.map inward _) (funext fun next => ?_)
  obtain ⟨own, _ | reply⟩ := next <;> rfl

/-- A worker that is no sweeper leaves the shared state alone, and never becomes one. -/
theorem advance_quiet {state : SharedState} {w : Worker κ} {step : PassStep (Worker κ)}
    (other : ∀ work, w.duty ≠ .trashSweep work)
    (advanced : (task (.detached answer)).advance state w = some step) :
    step.state = state ∧ ∀ work, step.task.duty ≠ .trashSweep work := by
  simp only [task, advance_detached] at advanced
  obtain ⟨⟨own, reply⟩, -, rfl⟩ := Option.map_eq_some_iff.mp advanced
  cases reply with
  | none => exact ⟨rfl, other⟩
  | some reply =>
    obtain ⟨duty, kept⟩ := w
    cases duty with
    | trashSweep work => exact absurd rfl (other work)
    | routine work => cases reply <;> exact ⟨rfl, by simp [receive, Duty.respond, Reply.map]⟩
    | compaction work =>
      have unpublished : (work.respond reply).published = none := by
        unfold CompactionWork.respond CompactionWork.respondToBinding
        split
        · split <;> rfl
        · rfl
      simp [receive, Duty.respond, Reply.map, unpublished]

/-- A sweeper publishes its usage at the end of a good pass, and at no other time. -/
theorem advance_sweep {state : SharedState} {w : Worker κ} {work : TrashSweep}
    {step : PassStep (Worker κ)} (duty : w.duty = .trashSweep work)
    (advanced : (task (.detached answer)).advance state w = some step) :
    (∃ usage, step.task.duty = .trashSweep { work with usage } ∧
      step.outcome = some (.ok ()) ∧ step.state = state.publishUsage usage) ∨
    (step.task.duty = .trashSweep work ∧ step.outcome ≠ some (.ok ()) ∧ step.state = state) := by
  simp only [task, advance_detached] at advanced
  obtain ⟨⟨own, reply⟩, -, rfl⟩ := Option.map_eq_some_iff.mp advanced
  cases reply with
  | none => exact .inr ⟨duty, by simp, rfl⟩
  | some report =>
    simp only [receive, duty, Duty.respond, TrashSweep.respond_eq, Reply.map]
    cases report with
    | error cause => exact .inr ⟨rfl, by simp [TrashSweep.verdict], rfl⟩
    | panic payload => exact .inr ⟨rfl, by simp [TrashSweep.verdict], rfl⟩
    | ok reported =>
      cases number : reported.isNaN with
      | true =>
        have bad : TrashSweep.verdict (.ok reported) ≠ .ok () := by
          simp only [TrashSweep.verdict, number, if_true]
          simp
        have worthless : TrashSweep.worth (.ok reported) = none := by
          simp only [TrashSweep.worth, number, if_true]
        rw [worthless]
        exact .inr ⟨rfl, fun same => bad (Option.some.inj same), rfl⟩
      | false =>
        have good : TrashSweep.verdict (.ok reported) = .ok () := by
          simp only [TrashSweep.verdict, number, Bool.false_eq_true, if_false]
        rw [TrashSweep.worth_number number, good]
        exact .inl ⟨clampUnit reported, rfl, rfl, rfl⟩

end

end Worker

namespace UpkeepLoop

/-- A state that was shared before the sweeper began, as the sweeper has left it. -/
def published (start : SharedState) (l : UpkeepLoop (Worker κ)) : SharedState :=
  match l.task.duty with
  | .trashSweep work =>
    if .passEnded (.ok ()) ∈ l.trace then start.publishUsage work.usage else start
  | _ => start

section

variable {answer : Call → κ → Option (κ × Option (Outcome Float))}
variable {stopping : Bool} {start state after : SharedState} {l next : UpkeepLoop (Worker κ)}

theorem published_eq {work : TrashSweep} (duty : l.task.duty = .trashSweep work) :
    l.published start =
      if .passEnded (.ok ()) ∈ l.trace then start.publishUsage work.usage else start := by
  simp only [published, duty]

/-- Only the end of a good pass changes what is published. -/
theorem published_enter (l : UpkeepLoop (Worker κ)) (phase : Phase) {label : Label}
    (other : label ≠ .passEnded (.ok ())) : (l.enter phase label).published start =
      l.published start := by
  have same :
      .passEnded (.ok ()) ∈ (l.enter phase label).trace ↔ .passEnded (.ok ()) ∈ l.trace := by
    simp [other.symm]
  simp only [published, same]
  rfl

/-- Each step of the sweeper leaves the shared state as its history says. -/
theorem Stepped.published {work : TrashSweep} (duty : l.task.duty = .trashSweep work)
    (step : Stepped (Worker.task (.detached answer)) stopping (l.published start) l after next) :
    (∃ work, next.task.duty = .trashSweep work) ∧ after = next.published start := by
  cases step with
  | @passing pass _ advanced =>
    obtain ⟨usage, followed, good, shared⟩ | ⟨followed, bad, shared⟩ :=
      Worker.advance_sweep duty advanced
    · have later : (l.continuePass pass).task.duty = .trashSweep { work with usage } := by
        rw [continuePass_task, followed]
      have trace : (l.continuePass pass).trace = l.trace ++ [.passEnded (.ok ())] := by
        rw [continuePass_ended l good]
        rfl
      refine ⟨⟨_, later⟩, ?_⟩
      rw [published_eq later, trace, if_pos (by simp), shared, published_eq duty]
      split <;> rfl
    · have later : (l.continuePass pass).task.duty = .trashSweep work := by
        rw [continuePass_task, followed]
      refine ⟨⟨work, later⟩, ?_⟩
      rw [shared, published_eq duty, published_eq later]
      cases ended : pass.outcome with
      | none => rw [continuePass_going l ended]
      | some outcome =>
        have other : outcome ≠ .ok () := fun good => bad (good ▸ ended)
        rw [continuePass_ended l ended]
        simp [other.symm]
  | firstWait _ _ =>
    exact ⟨⟨work, duty⟩, (published_enter l _ Label.noConfusion).symm⟩
  | firstPass _ _ => exact ⟨⟨work, duty⟩, (published_enter l _ Label.noConfusion).symm⟩
  | nextPass _ => exact ⟨⟨work, duty⟩, (published_enter l _ Label.noConfusion).symm⟩
  | laterWait _ => exact ⟨⟨work, duty⟩, (published_enter l _ Label.noConfusion).symm⟩
  | waitEnd _ => exact ⟨⟨work, duty⟩, (published_enter l _ Label.noConfusion).symm⟩
  | halt _ => exact ⟨⟨work, duty⟩, (published_enter l _ Label.noConfusion).symm⟩

theorem Stepped.quiet (other : ∀ work, l.task.duty ≠ .trashSweep work)
    (step : Stepped (Worker.task (.detached answer)) stopping state l after next) :
    after = state ∧ ∀ work, next.task.duty ≠ .trashSweep work := by
  cases step with
  | passing _ advanced =>
    rw [continuePass_task]
    exact Worker.advance_quiet other advanced
  | firstWait _ _ => exact ⟨rfl, other⟩
  | firstPass _ _ => exact ⟨rfl, other⟩
  | nextPass _ => exact ⟨rfl, other⟩
  | laterWait _ => exact ⟨rfl, other⟩
  | waitEnd _ => exact ⟨rfl, other⟩
  | halt _ => exact ⟨rfl, other⟩

end

end UpkeepLoop

namespace Fleet

/-- The first loop is the sweeper, and the shared state is as it has left it. -/
structure Gauged (start : SharedState) (f : Fleet (Worker κ)) : Prop where
  sweeper : ∃ l work, f.loops[0]? = some l ∧ l.task.duty = .trashSweep work ∧
    f.state = l.published start
  others : ∀ i l, f.loops[i + 1]? = some l → ∀ work, l.task.duty ≠ .trashSweep work

theorem Gauged.move {answer : Call → κ → Option (κ × Option (Outcome Float))}
    {start : SharedState} {f : Fleet (Worker κ)} (m : Move) (gauged : f.Gauged start) :
    (f.move (Worker.task (.detached answer)) m).Gauged start := by
  have possible := moved (Worker.task (.detached answer)) f m
  generalize f.move (Worker.task (.detached answer)) m = g at possible ⊢
  cases possible with
  | idle _ => exact gauged
  | fired => exact ⟨gauged.sweeper, gauged.others⟩
  | dropped => exact ⟨gauged.sweeper, gauged.others⟩
  | @stepped j l next after stepping stepped =>
    have step := UpkeepLoop.stepped_of_step stepped
    obtain ⟨sweeper, work, first, duty, shared⟩ := gauged.sweeper
    cases j with
    | zero =>
      obtain rfl := Option.some.inj (first.symm.trans stepping)
      rw [shared] at step
      obtain ⟨⟨later, followed⟩, left⟩ := step.published duty
      refine ⟨⟨next, later, ?_, followed, left⟩, ?_⟩
      · have bound := (List.getElem?_eq_some_iff.mp stepping).1
        simp [bound]
      · intro i l at_i
        rw [List.getElem?_set_ne (Nat.succ_ne_zero i).symm] at at_i
        exact gauged.others i l at_i
    | succ j =>
      obtain ⟨unmoved, quiet⟩ := step.quiet (gauged.others j l stepping)
      refine ⟨⟨sweeper, work, ?_, duty, unmoved.trans shared⟩, ?_⟩
      · rwa [List.getElem?_set_ne (Nat.succ_ne_zero j)]
      · intro i found at_i
        obtain ⟨-, rfl⟩ | ⟨-, before⟩ := getElem?_set_cases stepping at_i
        · exact quiet
        · exact gauged.others i found before

theorem Gauged.run {answer : Call → κ → Option (κ × Option (Outcome Float))}
    {start : SharedState} {f : Fleet (Worker κ)} (schedule : List Move)
    (gauged : f.Gauged start) : (f.run (Worker.task (.detached answer)) schedule).Gauged start :=
  run_keeps (P := Gauged start) (fun _ m _ gauged => gauged.move m) gauged

end Fleet

/-- The sweeper has the first post, and no other post is a sweeper's. -/
theorem Schedule.posts_sweeper (s : Schedule) (p : Premises) :
    ∃ work others, s.posts p = .single (.trashSweep work) :: others ∧
      ∀ post ∈ others, ∀ work, post.duty ≠ .trashSweep work := by
  refine ⟨_, [routinePost p.unit .diskStatMonitor s.diskStatInterval,
    routinePost p.unit .unusedIndex s.unusedIndexInterval] ++
    pool p .base s.baseThreads s.baseInterval ++
    pool p .cumulative s.cumulativeThreads s.cumulativeInterval ++
    [routinePost p.unit .fdCacheClean s.fdCacheInterval], rfl, ?_⟩
  intro post member work
  simp only [List.cons_append, List.mem_append, List.mem_cons, mem_pool, List.nil_append,
    List.not_mem_nil, or_false] at member
  rcases member with rfl | rfl | (⟨i, -, rfl⟩ | ⟨i, -, rfl⟩) | rfl <;> exact Duty.noConfusion

namespace Supervisor

/-- The loops of a node before their first steps. -/
def crew (s : Supervisor) (answer : Call → κ → Option (κ × Option (Outcome Float)))
    (state : SharedState) (own : String → κ) : Fleet (Worker κ) :=
  .ofTeam (Worker.task (.detached answer)) state (s.workers.map (·.worker own))

section

variable {s : Supervisor} {answer : Call → κ → Option (κ × Option (Outcome Float))}
variable {state : SharedState} {own : String → κ} {i : Nat} {post : Post}

theorem crew_loops (at_i : s.workers[i]? = some post) :
    (s.crew answer state own).loops[i]? = some
      (.ofTask (Worker.task (.detached answer)) post.name ⟨post.duty, own post.name⟩) := by
  have manned : (s.workers.map (·.worker own))[i]? = some (post.worker own) := by
    rw [List.getElem?_map, at_i]
    rfl
  exact Fleet.ofTeam_loops manned

theorem crew_gauged {c : UpkeepSettings} {p : Premises} {threads : Threads}
    (started : (start c p threads).outcome = .ok s) :
    (s.crew answer state own).Gauged state := by
  obtain ⟨work, others, posts, quiet⟩ := (Schedule.ofSettings c).posts_sweeper p
  rw [← start_workers started] at posts
  refine ⟨⟨_, work, crew_loops (by rw [posts]; rfl), rfl, rfl⟩, ?_⟩
  intro i l found
  obtain ⟨post, at_i⟩ : ∃ post, others[i]? = some post := by
    have bound := (List.getElem?_eq_some_iff.mp found).1
    simp only [crew, Fleet.ofTeam, Fleet.ofLoops, List.length_map, posts, List.length_cons,
      Nat.add_lt_add_iff_right] at bound
    exact ⟨_, List.getElem?_eq_getElem bound⟩
  have at_next : s.workers[i + 1]? = some post := by rw [posts, List.getElem?_cons_succ, at_i]
  obtain rfl := Option.some.inj ((crew_loops at_next).symm.trans found)
  exact quiet post (List.mem_of_getElem? at_i)

/-- Beside others a worker does what it does with its own moves alone. -/
theorem crew_aside (elsewhere : SharedState) (schedule : List Move)
    (at_i : s.workers[i]? = some post) :
    ((s.crew answer state own).run (Worker.task (.detached answer)) schedule).loops[i]? =
      ((Fleet.ofTeam (Worker.task (.detached answer)) elsewhere [post.worker own]).run
        (Worker.task (.detached answer)) (Fleet.aside i schedule)).loops[0]? :=
  Fleet.run_aside Worker.task_blind schedule
    ⟨rfl, rfl, Fleet.ofTeam_armed.signals, Fleet.ofTeam_armed.signals⟩ (crew_loops at_i) rfl

end

/-- Whatever the other workers do, each worker has the history that it has alone: the one that as
many steps make of it, or all steps that it can take, when as many of its waits have timed out.
What the others' collaborators do makes no difference to it, and the shared state is as the
sweeper's own history says. -/
theorem loops_isolated (c : UpkeepSettings) (p : Premises) (threads : Threads) (s : Supervisor)
    (started : (start c p threads).outcome = .ok s)
    (answer : Call → κ → Option (κ × Option (Outcome Float))) (own : String → κ)
    (state elsewhere : SharedState) (schedule : List Move) :
    let T := Worker.task (.detached answer)
    let beside := (s.crew answer state own).run T schedule
    (∀ (i : Nat) (post : Post), s.workers[i]? = some post →
      let solo := Fleet.ofTeam T elsewhere [post.worker own]
      ∃ l, beside.loops[i]? = some l ∧
        (solo.run T (Fleet.aside i schedule)).loops[0]? = some l ∧
        (∀ mine alone, (solo.run T mine).loops[0]? = some alone → alone.timeouts = l.timeouts →
          (mine.count (.step 0) = schedule.count (.step i) ∨
            alone.next? T false = none ∧ l.next? T false = none) → alone = l) ∧
        ∀ others : String → κ, others post.name = own post.name →
          ((s.crew answer state others).run T schedule).loops[i]? = some l) ∧
    ∃ sweeper, beside.loops[0]? = some sweeper ∧ beside.state = sweeper.published state := by
  intro T beside
  constructor
  · intro i post at_i solo
    obtain ⟨l, reached, -⟩ := Fleet.run_path T schedule (crew_loops at_i)
    refine ⟨l, reached, (crew_aside elsewhere schedule at_i).symm.trans reached, ?_, ?_⟩
    · intro mine alone reached_alone timeouts same
      exact Fleet.runs_agree Worker.task_blind (crew_loops at_i) rfl reached reached_alone timeouts
        same
    · intro others kept
      have manned : post.worker others = post.worker own := by rw [Post.worker, kept]; rfl
      rw [← reached, crew_aside elsewhere schedule at_i, crew_aside elsewhere schedule at_i, manned]
  · obtain ⟨sweeper, -, first, -, shared⟩ := ((crew_gauged started).run schedule).sweeper
    exact ⟨sweeper, first, shared⟩

/-- A monitor that fails once and then succeeds has the same history when every other worker hangs
as when every other worker panics, and it is the one that it has alone: it runs both its passes,
waits after each, and stops when it is told to. -/
theorem monitor_beside_hanging :
    let monitored : Script := { engine := [.error .noCandidate, .ok 0.5], bindings := [] }
    let panicking : Script := { engine := [.panic .other], bindings := [] }
    let hanging : Script := { engine := [], bindings := [], afterwards := .blocks }
    let own (others : Script) (name : String) :=
      if name = "disk-stat-monitor" then monitored else others
    let schedule : List Move :=
      [.step 1, .step 3, .step 1, .step 3, .step 1, .step 0, .step 1, .step 0, .step 1, .step 0,
       .step 1, .step 0, .step 1, .fire, .step 1, .step 1]
    ∃ (s : Supervisor) (l : UpkeepLoop (Worker Script)),
      (start {} {} ⟨fun _ => none, fun _ => false⟩).outcome = .ok s ∧
      ((s.crew Script.reply {} (own panicking)).run scriptedWorker schedule).loops[1]? = some l ∧
      ((s.crew Script.reply {} (own hanging)).run scriptedWorker schedule).loops[1]? = some l ∧
      l.phase = .stopped ∧ l.timeouts = 1 ∧
      l.tally =
        { worker := "disk-stat-monitor", kind := .diskStatMonitor, passes := 2, failures := 1
          waits := 2, lastWaitMillis := 5000, passStamps := 2, stopped := true
          lastError := some "No candidate tablet for compaction" } ∧
      l.calls = [.surveyDisks, .surveyDisks] ∧
      l.events = [.passFailed "disk-stat-monitor" .noCandidate] ∧
      ∀ (mine : List Move) (alone : UpkeepLoop (Worker Script)),
        ((Fleet.ofTeam scriptedWorker {} [("disk-stat-monitor",
          ⟨.routine ⟨.diskStatMonitor, .ofSecs 5⟩, monitored⟩)]).run scriptedWorker
            mine).loops[0]? = some alone →
        alone.timeouts = l.timeouts → mine.count (.step 0) = 9 → alone = l := by
  rw [scriptedWorker, Script.collaborators_detached]
  intro monitored panicking hanging own schedule
  obtain ⟨s, started⟩ : ∃ s, (start {} {} ⟨fun _ => none, fun _ => false⟩).outcome = .ok s := by
    rw [start_accepted {} {} _ (by decide) fun _ _ => rfl]
    exact ⟨_, rfl⟩
  obtain ⟨each, -⟩ := loops_isolated {} {} _ s started Script.reply (own panicking) {} {} schedule
  have second : s.workers[1]? = some
      ⟨"disk-stat-monitor", .routine ⟨.diskStatMonitor, .ofSecs 5⟩⟩ := by
    rw [start_workers started]
    rfl
  obtain ⟨l, here, alone, unique, unmoved⟩ := each 1 _ second
  -- the other workers take no part in the run of the monitor alone, so it can be worked out
  have computed : (some l).map (fun l => (l.phase, l.timeouts, l.tally, l.calls, l.events)) =
      some (.stopped, 1,
        { worker := "disk-stat-monitor", kind := .diskStatMonitor, passes := 2, failures := 1
          waits := 2, lastWaitMillis := 5000, passStamps := 2, stopped := true
          lastError := some "No candidate tablet for compaction" },
        [.surveyDisks, .surveyDisks], [.passFailed "disk-stat-monitor" .noCandidate]) :=
    (congrArg _ alone).symm.trans (by decide +kernel)
  simp only [Option.map_some, Option.some.injEq, Prod.mk.injEq] at computed
  obtain ⟨phase, timeouts, tally, calls, events⟩ := computed
  refine ⟨s, l, started, here, unmoved (own hanging) rfl, phase, timeouts, tally, calls, events, ?_⟩
  intro mine alone reached timeouts steps
  exact unique mine alone reached timeouts (.inl steps)

end Supervisor

end TabletUpkeep
