import TabletUpkeep.Proofs.LoopRounds
import TabletUpkeep.Proofs.SupervisorEnd

/-! The passes of a compaction worker, over a run of any length. The resource group and the engine
have their answers laid down beforehand, and each call takes the next answer of its own side. A
binding that panics ends its pass before the engine is called, so the two sides move on at
different rates; what each pass makes of its two answers is the same everywhere. -/
namespace TabletUpkeep

namespace Outcome

def isPanic {α : Type} : Outcome α → Bool
  | panic _ => true
  | ok _ | error _ => false

theorem panic_or_not {α : Type} (o : Outcome α) :
    (∃ payload, o = .panic payload) ∨ o.isPanic = false := by
  cases o with
  | panic payload => exact .inl ⟨payload, rfl⟩
  | ok value => exact .inr rfl
  | error cause => exact .inr rfl

end Outcome

namespace Script

/-- The answer to the binding after `n` others. -/
def binding (s : Script) (n : Nat) : Outcome Float := s.bindings.getD n (.ok usualUsage)

/-- The answer to the engine call after `n` others, of a script that goes on succeeding. -/
def answer (s : Script) (n : Nat) : Outcome Float := s.engine.getD n (.ok usualUsage)

/-- The engine calls in the first `n` compaction passes: one in each that its binding does not
end. -/
def engineCalls (s : Script) (n : Nat) : Nat :=
  (List.range n).countP fun pass => !(s.binding pass).isPanic

/-- What `n` compaction passes leave of a script. -/
def afterPasses (s : Script) (n : Nat) : Script :=
  { s with bindings := s.bindings.drop n, engine := s.engine.drop (s.engineCalls n) }

theorem step_bindToGroup (s : Script) (state : SharedState) :
    step .bindToGroup state s =
      some ⟨{ s with bindings := s.bindings.drop 1 }, state, some (s.binding 0)⟩ := by
  obtain ⟨engine, bindings, afterwards⟩ := s
  cases bindings <;> rfl

theorem step_compact {s : Script} (succeeds : s.afterwards = .succeeds) (tier : Tier)
    (state : SharedState) :
    step (.compact tier) state s =
      some ⟨{ s with engine := s.engine.drop 1 }, state, some (s.answer 0)⟩ := by
  obtain ⟨engine, bindings, afterwards⟩ := s
  cases succeeds
  cases tier <;> cases engine <;> rfl

theorem engineCalls_succ (s : Script) (n : Nat) :
    s.engineCalls (n + 1) = s.engineCalls n + if (s.binding n).isPanic then 0 else 1 := by
  unfold engineCalls
  rw [List.range_succ, List.countP_append]
  cases panicked : (s.binding n).isPanic <;> simp [panicked]

/-- Pass by pass, a script is used up as it is by all passes at once. -/
theorem afterPasses_succ (s : Script) (n : Nat) :
    (s.afterPasses n).afterPasses 1 = s.afterPasses (n + 1) := by
  have next : (s.afterPasses n).engineCalls 1 = if (s.binding n).isPanic then 0 else 1 := by
    rw [engineCalls_succ]
    simp [engineCalls, afterPasses, binding]
  unfold afterPasses at next ⊢
  rw [next, engineCalls_succ]
  simp

theorem afterPasses_binding (s : Script) (n : Nat) : (s.afterPasses n).binding 0 = s.binding n := by
  simp [afterPasses, binding]

theorem afterPasses_answer (s : Script) (n : Nat) :
    (s.afterPasses n).answer 0 = s.answer (s.engineCalls n) := by
  simp [afterPasses, answer]

end Script

theorem Worker.advance_answered {κ : Type} {C : Collaborators κ} {w : Worker κ}
    {state : SharedState} {step : CallStep κ} {answer : Outcome Float}
    (called : C.step w.duty.call state w.own = some step) (answered : step.answer = some answer) :
    (task C).advance state w = some (w.receive step answer) := by
  simp only [task, advance, called, Option.map_some, answered]

namespace CompactionWork

/-- What is logged about a binding. -/
def bindingEvents (c : CompactionWork) : Outcome Float → List Event
  | .error cause => [.bindFailed c.tier c.worker cause]
  | .ok _ | .panic _ => []

/-- The outcome of a pass whose compaction got this answer. -/
def verdict : Outcome Float → Outcome Unit
  | .ok _ | .error .noCandidate => .ok ()
  | .error cause => .error cause
  | .panic payload => .panic payload

/-- A whole pass, with the two answers at the front of the script. -/
def passOf (c : CompactionWork) (s : Script) : Round (Worker Script) where
  task := ⟨.compaction c, s.afterPasses 1⟩
  calls := if (s.binding 0).isPanic then [.bindToGroup] else [.bindToGroup, .compact c.tier]
  events := c.bindingEvents (s.binding 0)
  outcome :=
    match s.binding 0 with
    | .panic payload => .panic payload
    | .ok _ | .error _ => verdict (s.answer 0)

/-- A worker that has its binding behind it, with what that leaves of the script. -/
def bindingDone (c : CompactionWork) (s : Script) : Worker Script :=
  ⟨.compaction { c with bound := true }, { s with bindings := s.bindings.drop 1 }⟩

variable {c : CompactionWork} {s : Script}

theorem passOf_panicked {payload : Payload} (panicked : s.binding 0 = .panic payload) :
    c.passOf s = ⟨⟨.compaction c, s.afterPasses 1⟩, [.bindToGroup], [], .panic payload⟩ := by
  simp only [passOf, panicked, bindingEvents, Outcome.isPanic, if_true]

theorem passOf_going (going : (s.binding 0).isPanic = false) :
    c.passOf s = ⟨⟨.compaction c, s.afterPasses 1⟩, [.bindToGroup, .compact c.tier],
      c.bindingEvents (s.binding 0), verdict (s.answer 0)⟩ := by
  cases bound : s.binding 0 with
  | panic payload => simp [bound, Outcome.isPanic] at going
  | ok usage => simp [passOf, bound, Outcome.isPanic]
  | error cause => simp [passOf, bound, Outcome.isPanic]

theorem respondToCompaction_eq (c : CompactionWork) (answer : Outcome Float) :
    c.respondToCompaction answer =
      { worker := { c with bound := false }, outcome := some (verdict answer) } := by
  cases answer with
  | ok usage => rfl
  | error cause => cases cause <;> rfl
  | panic payload => rfl

theorem advance_binding (state : SharedState) (begun : c.isBinding = true) :
    scriptedWorker.advance state ⟨.compaction c, s⟩ =
      some (Worker.receive ⟨.compaction c, s⟩
        ⟨{ s with bindings := s.bindings.drop 1 }, state, some (s.binding 0)⟩ (s.binding 0)) := by
  refine Worker.advance_answered (C := Script.collaborators) ?_ rfl
  have called : (Duty.compaction c).call = .bindToGroup := if_pos begun
  rw [called]
  exact s.step_bindToGroup state

/-- A panic in the binding is the end of the pass. -/
theorem advance_panicked (state : SharedState) (begun : c.isBinding = true) {payload : Payload}
    (panicked : s.binding 0 = .panic payload) :
    scriptedWorker.advance state ⟨.compaction c, s⟩ = some
      { task := ⟨.compaction c, s.afterPasses 1⟩, state, calls := [.bindToGroup]
        outcome := some (.panic payload) } := by
  have used : s.afterPasses 1 = { s with bindings := s.bindings.drop 1 } := by
    simp [Script.afterPasses, Script.engineCalls, panicked, Outcome.isPanic]
  rw [advance_binding state begun, panicked, used]
  simp [Worker.receive, Duty.call, call, Duty.respond, respond, begun, respondToBinding, Reply.map]

/-- After any other binding the pass goes on. -/
theorem advance_going (state : SharedState) (begun : c.isBinding = true)
    (going : (s.binding 0).isPanic = false) :
    scriptedWorker.advance state ⟨.compaction c, s⟩ = some
      { task := c.bindingDone s, state, calls := [.bindToGroup]
        events := c.bindingEvents (s.binding 0) } := by
  rw [advance_binding state begun]
  cases bound : s.binding 0 with
  | panic payload => simp [bound, Outcome.isPanic] at going
  | ok usage =>
    simp [Worker.receive, Duty.call, call, Duty.respond, respond, begun, respondToBinding,
      Reply.map, bindingDone, bindingEvents]
  | error cause =>
    simp [Worker.receive, Duty.call, call, Duty.respond, respond, begun, respondToBinding,
      Reply.map, bindingDone, bindingEvents]

/-- The compaction is the end of the pass, whatever its answer. -/
theorem advance_bindingDone (state : SharedState) (succeeds : s.afterwards = .succeeds)
    (begun : c.isBinding = true) (going : (s.binding 0).isPanic = false) :
    scriptedWorker.advance state (c.bindingDone s) = some
      { task := ⟨.compaction c, s.afterPasses 1⟩, state, calls := [.compact c.tier]
        outcome := some (verdict (s.answer 0)) } := by
  have unbound : ({ c with bound := true } : CompactionWork).isBinding = false := by
    simp [isBinding]
  have anew : ({ c with bound := false } : CompactionWork) = c := by
    obtain ⟨tier, worker, interval, grouped, bound⟩ := c
    simp_all [isBinding]
  have used : s.afterPasses 1 =
      { s with bindings := s.bindings.drop 1, engine := s.engine.drop 1 } := by
    simp [Script.afterPasses, Script.engineCalls, going]
  have called : (c.bindingDone s).duty.call = .compact c.tier := by
    simp [bindingDone, Duty.call, call, unbound]
  have answered : scriptedWorker.advance state (c.bindingDone s) =
      some ((c.bindingDone s).receive
        ⟨{ s with bindings := s.bindings.drop 1, engine := s.engine.drop 1 }, state,
          some (s.answer 0)⟩ (s.answer 0)) := by
    refine Worker.advance_answered (C := Script.collaborators) ?_ rfl
    rw [called]
    exact Script.step_compact (s := (c.bindingDone s).own) succeeds c.tier state
  rw [answered, used, Worker.receive, called]
  simp [bindingDone, Duty.respond, respond, unbound, respondToCompaction_eq, Reply.map, anew]

/-- A pass that has not ended is at its start, or it has a binding behind it that did not panic. -/
theorem passing_cases (succeeds : s.afterwards = .succeeds) (begun : c.isBinding = true)
    {task : Worker Script} {calls : List Call} {events : List Event}
    (steps : scriptedWorker.Passing ⟨.compaction c, s⟩ task calls events) :
    (task = ⟨.compaction c, s⟩ ∧ calls = [] ∧ events = []) ∨
      ((s.binding 0).isPanic = false ∧ task = c.bindingDone s ∧ calls = [.bindToGroup] ∧
        events = c.bindingEvents (s.binding 0)) := by
  induction steps with
  | nil => exact .inl ⟨rfl, rfl, rfl⟩
  | snoc _ advanced unended ih =>
    rcases ih with ⟨rfl, rfl, rfl⟩ | ⟨going, rfl, rfl, rfl⟩
    · rcases (s.binding 0).panic_or_not with ⟨payload, panicked⟩ | going
      · rw [advance_panicked _ begun panicked] at advanced
        cases advanced
        cases unended
      · rw [advance_going _ begun going] at advanced
        cases advanced
        exact .inr ⟨going, rfl, rfl, rfl⟩
    · rw [advance_bindingDone _ succeeds begun going] at advanced
      cases advanced
      cases unended

/-- Whatever the shared state is at its steps, a pass makes the same of the two answers at the
front of the script. -/
theorem passes_iff (succeeds : s.afterwards = .succeeds) (begun : c.isBinding = true)
    (round : Round (Worker Script)) :
    scriptedWorker.Passes ⟨.compaction c, s⟩ round ↔ round = c.passOf s := by
  constructor
  · rintro ⟨steps, advanced, ended⟩
    rcases passing_cases succeeds begun steps with ⟨rfl, rfl, rfl⟩ | ⟨going, rfl, rfl, rfl⟩
    · rcases (s.binding 0).panic_or_not with ⟨payload, panicked⟩ | going
      · rw [advance_panicked _ begun panicked] at advanced
        cases advanced
        cases ended
        rw [passOf_panicked panicked]
        rfl
      · rw [advance_going _ begun going] at advanced
        cases advanced
        cases ended
    · rw [advance_bindingDone _ succeeds begun going] at advanced
      cases advanced
      cases ended
      rw [passOf_going going, List.append_nil]
      rfl
  · rintro rfl
    rcases (s.binding 0).panic_or_not with ⟨payload, panicked⟩ | going
    · rw [passOf_panicked panicked]
      exact .intro .nil (advance_panicked {} begun panicked) rfl
    · have bound := Task.Passing.nil.snoc (advance_going {} begun going) rfl
      have pass := Task.Passes.intro bound (advance_bindingDone {} succeeds begun going) rfl
      rw [passOf_going going]
      simpa using pass

/-- What a pass does, when `binding` is what its binding comes to and `answer` what its compaction
comes to, if there is one. -/
structure Attempts (c : CompactionWork) (binding answer : Outcome Float)
    (round : Round (Worker Script)) : Prop where
  calls : round.calls =
    if binding.isPanic then [.bindToGroup] else [.bindToGroup, .compact c.tier]
  methods : round.calls.map Call.text =
    if binding.isPanic then ["apply_system_cgroup"]
    else ["apply_system_cgroup", "perform_" ++ c.tier.text ++ "_compaction"]
  warned : ∀ cause, binding = .error cause → ∃ warning, round.events = [warning] ∧
    warning.level = .warn ∧
    warning.message =
      "Failed to bind compaction thread to system resource group: " ++ cause.message ∧
    warning.fields = [("tier", .text c.tier.text), ("worker", .integer c.worker),
      ("code", .integer cause.code.toInt)]
  quiet : (∀ cause, binding ≠ .error cause) → round.events = []
  succeeds_iff : round.outcome = .ok () ↔ binding.isPanic = false ∧
    ((∃ usage, answer = .ok usage) ∨ answer = .error .noCandidate)
  failed : ∀ cause, binding.isPanic = false → answer = .error cause → cause ≠ .noCandidate →
    round.outcome = .error cause
  bindingPanicked : ∀ payload, binding = .panic payload → round.outcome = .panic payload
  compactionPanicked : ∀ payload, binding.isPanic = false → answer = .panic payload →
    round.outcome = .panic payload
  wait : scriptedWorker.laterWait round.task = c.interval

theorem verdict_ok_iff (answer : Outcome Float) :
    verdict answer = .ok () ↔ (∃ usage, answer = .ok usage) ∨ answer = .error .noCandidate := by
  cases answer with
  | ok usage => simp [verdict]
  | error cause => cases cause <;> simp [verdict]
  | panic payload => simp [verdict]

theorem verdict_error {cause : UpkeepError} (other : cause ≠ .noCandidate) :
    verdict (.error cause) = .error cause := by
  cases cause with
  | noCandidate => exact absurd rfl other
  | _ => rfl

theorem passOf_attempts (c : CompactionWork) (s : Script) :
    c.Attempts (s.binding 0) (s.answer 0) (c.passOf s) := by
  rcases (s.binding 0).panic_or_not with ⟨payload, panicked⟩ | going
  · rw [panicked, passOf_panicked panicked]
    constructor <;> simp [Outcome.isPanic]
    · rfl
    · rfl
  · rw [passOf_going going]
    refine ⟨?_, ?_, ?_, ?_, ?_, ?_, ?_, ?_, rfl⟩
    · simp [going]
    · simp [going, Call.compact_text]
      rfl
    · intro cause refused
      rw [refused]
      exact ⟨_, rfl, rfl, rfl, rfl⟩
    · intro accepted
      cases bound : s.binding 0 with
      | error cause => exact absurd bound (accepted cause)
      | _ => rfl
    · simp [going, verdict_ok_iff]
    · intro cause _ answered other
      rw [answered]
      exact verdict_error other
    · intro payload panicked
      rw [panicked] at going
      cases going
    · intro payload _ answered
      rw [answered]
      rfl

/-- The passes of a run of the given length. -/
def passesOf (c : CompactionWork) (s : Script) (count : Nat) : List (Round (Worker Script)) :=
  (List.range count).map fun n => c.passOf (s.afterPasses n)

theorem passesOf_succ (c : CompactionWork) (s : Script) (count : Nat) :
    c.passesOf s (count + 1) = c.passesOf s count ++ [c.passOf (s.afterPasses count)] := by
  rw [passesOf, List.range_succ, List.map_append]
  rfl

/-- The worker is after each pass where it began, with the script used up so far. -/
theorem rounds_passesOf (succeeds : s.afterwards = .succeeds) (begun : c.isBinding = true)
    (count : Nat) :
    scriptedWorker.Rounds ⟨.compaction c, s⟩ (c.passesOf s count)
      ⟨.compaction c, s.afterPasses count⟩ := by
  induction count with
  | zero => exact .nil
  | succ count ih =>
    have next := ih.snoc ((passes_iff (s := s.afterPasses count) succeeds begun _).mpr rfl)
    rw [passOf, Script.afterPasses_succ] at next
    rw [passesOf_succ, passOf, Script.afterPasses_succ]
    exact next

theorem eq_passesOf_of_rounds (succeeds : s.afterwards = .succeeds) (begun : c.isBinding = true)
    {rounds : List (Round (Worker Script))} {last : Worker Script}
    (run : scriptedWorker.Rounds ⟨.compaction c, s⟩ rounds last) :
    rounds = c.passesOf s rounds.length ∧
      last = ⟨.compaction c, s.afterPasses rounds.length⟩ := by
  induction run with
  | nil => exact ⟨rfl, rfl⟩
  | snoc _ pass ih =>
    obtain ⟨before, rfl⟩ := ih
    rw [passes_iff (s := s.afterPasses _) succeeds begun] at pass
    rw [List.length_append, List.length_singleton, passesOf_succ, ← before, pass, passOf,
      Script.afterPasses_succ]
    exact ⟨rfl, rfl⟩

/-- Every pass binds once, and every pass whose binding does not panic compacts once. -/
theorem passesOf_calls (c : CompactionWork) (s : Script) (count : Nat) :
    ((c.passesOf s count).flatMap Round.calls).count .bindToGroup = count ∧
      ((c.passesOf s count).flatMap Round.calls).count (.compact c.tier) =
        s.engineCalls count := by
  induction count with
  | zero => exact ⟨rfl, rfl⟩
  | succ count ih =>
    obtain ⟨bindings, compactions⟩ := ih
    have calls : (c.passOf (s.afterPasses count)).calls =
        if (s.binding count).isPanic then [.bindToGroup]
        else [.bindToGroup, .compact c.tier] := by
      rw [passOf, Script.afterPasses_binding]
    rw [passesOf_succ, List.flatMap_append, List.flatMap_singleton, calls, List.count_append,
      List.count_append, bindings, compactions, Script.engineCalls_succ]
    have other : Call.bindToGroup ≠ .compact c.tier := (Call.compact_ne_bindToGroup c.tier).symm
    cases (s.binding count).isPanic <;> simp [other]

/-- A compaction worker and its answers keep in step over any number of passes, and no pass is
left without an end. The pass after `n` others has the binding after `n` others, and the answer
of the engine after as many as were not kept away from it by a panic. -/
theorem compaction_passes (tier : Tier) (worker : Nat) (interval : Duration)
    (engine bindings : List (Outcome Float)) :
    let work : CompactionWork := { tier, worker, interval, grouped := true }
    let script : Script := { engine, bindings }
    let start : Worker Script := ⟨.compaction work, script⟩
    (∀ count, ∃ rounds last, scriptedWorker.Rounds start rounds last ∧ rounds.length = count) ∧
    ∀ rounds last, scriptedWorker.Rounds start rounds last →
      scriptedWorker.PassEnds last ∧
      last = ⟨.compaction work, script.afterPasses rounds.length⟩ ∧
      (rounds.flatMap Round.calls).count .bindToGroup = rounds.length ∧
      (rounds.flatMap Round.calls).count (.compact tier) = script.engineCalls rounds.length ∧
      ∀ n round, rounds[n]? = some round →
        work.Attempts (script.binding n) (script.answer (script.engineCalls n)) round := by
  intro work script start
  have begun : work.isBinding = true := rfl
  have succeeds : script.afterwards = .succeeds := rfl
  refine ⟨fun count => ?_, fun rounds last run => ?_⟩
  · exact ⟨_, _, rounds_passesOf succeeds begun count, by simp [passesOf]⟩
  · obtain ⟨passes, rfl⟩ := eq_passesOf_of_rounds succeeds begun run
    obtain ⟨bound, compacted⟩ := passesOf_calls work script rounds.length
    rw [← passes] at bound compacted
    refine ⟨(Worker.task_ending Script.returning).ends _ succeeds, rfl, bound, compacted, ?_⟩
    intro n round found
    have among : n < rounds.length := (List.getElem?_eq_some_iff.mp found).1
    rw [passes, passesOf, List.getElem?_map, List.getElem?_range among] at found
    cases found
    have attempts := passOf_attempts work (script.afterPasses n)
    rwa [Script.afterPasses_binding, Script.afterPasses_answer] at attempts

/-- A binding that panics leaves the answers of the engine to the later passes. -/
theorem answers_kept_for_later_passes :
    let work : CompactionWork :=
      { tier := .base, worker := 0, interval := .ofSecs 10, grouped := true }
    let merge : UpkeepError := .failed (-20) "merge failed"
    let script : Script :=
      { engine := [.error .noCandidate, .error merge]
        bindings := [.panic .other, .error (.resourceGroup "cgroup missing")] }
    ∃ (rounds : List (Round (Worker Script))) (last : Worker Script)
        (first second third : Round (Worker Script)),
      scriptedWorker.Rounds ⟨.compaction work, script⟩ rounds last ∧
      rounds[0]? = some first ∧ first.calls = [.bindToGroup] ∧ first.outcome = .panic .other ∧
      rounds[1]? = some second ∧ second.calls = [.bindToGroup, .compact .base] ∧
      second.events.length = 1 ∧ second.outcome = .ok () ∧
      rounds[2]? = some third ∧ third.events = [] ∧ third.outcome = .error merge := by
  intro work merge script
  obtain ⟨lengths, passes⟩ :=
    compaction_passes .base 0 (.ofSecs 10) script.engine script.bindings
  obtain ⟨rounds, last, run, three⟩ := lengths 3
  obtain ⟨-, -, -, -, attempts⟩ := passes rounds last run
  have at0 : work.Attempts (.panic .other) (.error .noCandidate) rounds[0] :=
    attempts 0 _ (List.getElem?_eq_getElem (by omega))
  have at1 : work.Attempts (.error (.resourceGroup "cgroup missing")) (.error .noCandidate)
      rounds[1] := attempts 1 _ (List.getElem?_eq_getElem (by omega))
  have at2 : work.Attempts (.ok Script.usualUsage) (.error merge) rounds[2] :=
    attempts 2 _ (List.getElem?_eq_getElem (by omega))
  obtain ⟨warning, warned, -⟩ := at1.warned _ rfl
  refine ⟨rounds, last, rounds[0], rounds[1], rounds[2], run, List.getElem?_eq_getElem _,
    at0.calls, at0.bindingPanicked _ rfl, List.getElem?_eq_getElem _, at1.calls, ?_,
    at1.succeeds_iff.mpr ⟨rfl, .inr rfl⟩, List.getElem?_eq_getElem _, at2.quiet ?_,
    at2.failed _ rfl rfl ?_⟩
  · rw [warned]
    rfl
  · intro cause refused
    cases refused
  · simp [merge]

end CompactionWork

end TabletUpkeep
