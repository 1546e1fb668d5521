import Mathlib
import TabletUpkeep.Duty.Claimant
import TabletUpkeep.Proofs.ExclusiveClaims
import TabletUpkeep.Proofs.FleetRuns
import TabletUpkeep.Supervisor.Plan

/-! Compaction without duplicate work. The claimed pairs are those that workers hold, each held by
one of them, through every interleaving of claims, work and releases. A claim is held within a pass
only, so a worker that has stopped holds none; and each pass ends in the books of its worker as it
ends in the statistics of the loop. -/
namespace TabletUpkeep

namespace Ledger

def passes (b : Ledger) : Nat := b.settled + b.busy + b.failed

def failures (b : Ledger) : Nat := b.busy + b.failed

end Ledger

/-- How the claimed pairs change when what one worker holds changes. -/
inductive Claims.Handed (c : Claims) : Option ClaimKey → Option ClaimKey → Claims → Prop
  | kept (held : Option ClaimKey) : Handed c held held c
  | taken {key : ClaimKey} {after : Claims} : c.claim? key = some after →
      Handed c none (some key) after
  | returned (key : ClaimKey) : Handed c (some key) none (c.release key)

namespace Claimant

theorem compact_handed (tier : Tier) (state : SharedState) (c : Claimant) :
    state.claims.Handed (c.stage.tablet?.map fun tablet => (tier, tablet))
      ((c.compact tier state).own.stage.tablet?.map fun tablet => (tier, tablet))
      (c.compact tier state).state.claims := by
  unfold compact
  split
  next idle =>
    rw [idle]
    split
    · exact .kept none
    · exact .kept none
  next plan searching =>
    rw [searching]
    split
    · exact .kept none
    next tablet others _ =>
      split
      next granted => exact .taken granted
      · exact .kept none
  next tablet left ending working =>
    rw [working]
    exact .kept (some (tier, tablet))
  next tablet ending working =>
    rw [working]
    exact .returned (tier, tablet)
  next ending returning =>
    rw [returning]
    exact .kept none

/-- A step that ends no compaction enters nothing in the books; one that does leaves no claim and
enters one pass, which is a failure unless the answer settles it. -/
theorem compact_ledger (tier : Tier) (state : SharedState) (c : Claimant) :
    ((c.compact tier state).answer = none ∧ (c.compact tier state).own.ledger = c.ledger) ∨
    ∃ answer, (c.compact tier state).answer = some answer ∧
      (c.compact tier state).own.stage = .idle ∧
      (c.compact tier state).own.ledger.passes = c.ledger.passes + 1 ∧
      (c.compact tier state).own.ledger.failures =
        c.ledger.failures + if settles answer then 0 else 1 := by
  unfold compact
  split
  next idle =>
    split
    · refine .inr ⟨_, rfl, idle, ?_, ?_⟩ <;> simp [Ledger.passes, Ledger.failures, settles]; omega
    · exact .inl ⟨rfl, rfl⟩
  next plan searching =>
    split
    · refine .inr ⟨_, rfl, rfl, ?_, ?_⟩ <;> simp [Ledger.passes, Ledger.failures, settles] <;> omega
    next tablet others _ =>
      split
      · exact .inl ⟨rfl, rfl⟩
      · exact .inl ⟨rfl, rfl⟩
  next => exact .inl ⟨rfl, rfl⟩
  next => exact .inl ⟨rfl, rfl⟩
  next ending returning =>
    refine .inr ⟨ending, rfl, rfl, ?_, ?_⟩ <;> cases settled : settles ending <;>
      simp [Ledger.passes, Ledger.failures, conclude, settled] <;> omega

end Claimant

namespace Worker

variable {state : SharedState} {w : Worker Claimant} {work : CompactionWork}
variable {step : PassStep (Worker Claimant)}

theorem holding_eq (duty : w.duty = .compaction work) :
    w.holding = w.own.stage.tablet?.map fun tablet => (work.tier, tablet) := by
  simp only [holding, duty]

/-- A step of a compaction pass binds the worker, which changes nothing that counts here, or it is
a step of the compaction, whose answer ends the pass. -/
theorem advance_claimant (duty : w.duty = .compaction work)
    (advanced : (task Claimant.collaborators).advance state w = some step) :
    ∃ after, step.task.duty = .compaction after ∧ after.tier = work.tier ∧
      ((step.state = state ∧ step.task.own.stage = w.own.stage ∧
          step.task.own.ledger = w.own.ledger ∧ step.outcome = none) ∨
        (step.state = (w.own.compact work.tier state).state ∧
          step.task.own = (w.own.compact work.tier state).own ∧
          step.outcome.map (·.failure?.isSome) =
            (w.own.compact work.tier state).answer.map
              fun answer => !Claimant.settles answer)) := by
  simp only [task, advance, duty, Duty.call, CompactionWork.call] at advanced
  obtain ⟨called, calling, rfl⟩ := Option.map_eq_some_iff.mp advanced
  cases binding : work.isBinding with
  | true =>
    simp only [binding, if_true] at calling
    obtain rfl := Option.some.inj calling
    cases refusal : w.own.refusal w.own.bindings <;>
      simp [Claimant.bind, refusal, receive, duty, Duty.respond, CompactionWork.respond, binding,
        CompactionWork.respondToBinding, Reply.map]
  | false =>
    simp only [binding, Bool.false_eq_true, if_false] at calling
    obtain rfl := Option.some.inj ((Claimant.step_compact _ state w.own).symm.trans calling)
    cases answered : (w.own.compact work.tier state).answer with
    | none => exact ⟨work, rfl, rfl, .inr ⟨rfl, rfl, rfl⟩⟩
    | some answer =>
      simp only [receive, duty, Duty.respond, CompactionWork.respond, binding, Bool.false_eq_true,
        if_false, CompactionWork.respondToCompaction, Reply.map]
      refine ⟨_, rfl, rfl, .inr ⟨trivial, trivial, ?_⟩⟩
      cases answer with
      | ok usage => rfl
      | error cause => cases cause <;> rfl
      | panic payload => rfl

end Worker

theorem LoopTally.notePass_failures (s : LoopTally) (o : Outcome Unit) :
    (s.notePass o).failures = s.failures + if o.failure?.isSome then 1 else 0 := by
  unfold notePass passWrites
  split
  next settled => simp [settled, apply]
  next cause failed => simp [failed, apply]

namespace UpkeepLoop

/-- What is known of the loop of a compaction worker: it compacts within a pass only, and its
statistics agree with the books. -/
structure Kept (l : UpkeepLoop (Worker Claimant)) : Prop where
  duty : ∃ work, l.task.duty = .compaction work
  within : l.task.own.stage ≠ .idle → l.phase = .passing
  passes : l.tally.passes = .ofNat l.task.own.ledger.passes
  failures : l.tally.failures = .ofNat l.task.own.ledger.failures

section

variable {stopping : Bool} {state after : SharedState} {l next : UpkeepLoop (Worker Claimant)}

theorem Kept.enter {phase : Phase} {label : Label} (kept : l.Kept) (outside : l.phase ≠ .passing)
    (passes : (l.tally.observe label).passes = l.tally.passes)
    (failures : (l.tally.observe label).failures = l.tally.failures) :
    (l.enter phase label).Kept where
  duty := kept.duty
  within busy := absurd (kept.within busy) outside
  passes := passes.trans kept.passes
  failures := failures.trans kept.failures

/-- A step within a pass that ends nothing. -/
theorem Kept.going {pass : PassStep (Worker Claimant)} (kept : l.Kept)
    (passing : l.phase = .passing) (duty : ∃ work, pass.task.duty = .compaction work)
    (going : pass.outcome = none)
    (ledger : pass.task.own.ledger = l.task.own.ledger) : (l.continuePass pass).Kept := by
  rw [continuePass_going l going]
  exact ⟨duty, fun _ => passing, ledger ▸ kept.passes, ledger ▸ kept.failures⟩

/-- The end of a pass, as the books and the statistics enter it. -/
theorem Kept.ended {pass : PassStep (Worker Claimant)} {outcome : Outcome Unit} (kept : l.Kept)
    (duty : ∃ work, pass.task.duty = .compaction work) (ended : pass.outcome = some outcome)
    (idle : pass.task.own.stage = .idle)
    (passes : pass.task.own.ledger.passes = l.task.own.ledger.passes + 1)
    (failures : pass.task.own.ledger.failures =
      l.task.own.ledger.failures + if outcome.failure?.isSome then 1 else 0) :
    (l.continuePass pass).Kept := by
  rw [continuePass_ended l ended]
  refine ⟨duty, fun busy => absurd idle busy, ?_, ?_⟩
  · change (l.tally.notePass outcome).passes = .ofNat pass.task.own.ledger.passes
    rw [LoopTally.notePass_passes, kept.passes, passes, UInt64.ofNat_add]
    rfl
  · change (l.tally.notePass outcome).failures = .ofNat pass.task.own.ledger.failures
    rw [LoopTally.notePass_failures, kept.failures, failures, UInt64.ofNat_add]
    split <;> rfl

theorem Stepped.kept (kept : l.Kept)
    (step : Stepped (Worker.task Claimant.collaborators) stopping state l after next) :
    next.Kept ∧ state.claims.Handed l.task.holding next.task.holding after.claims := by
  cases step with
  | @passing pass passing advanced =>
    obtain ⟨work, duty⟩ := kept.duty
    obtain ⟨later, followed, tier, binding | compacting⟩ := Worker.advance_claimant duty advanced
    · obtain ⟨shared, stage, ledger, going⟩ := binding
      refine ⟨kept.going passing ⟨later, followed⟩ going ledger, ?_⟩
      rw [continuePass_task, Worker.holding_eq duty, Worker.holding_eq followed, tier, stage,
        shared]
      exact .kept _
    · obtain ⟨shared, own, outcome⟩ := compacting
      constructor
      · obtain ⟨unanswered, ledger⟩ | ⟨answer, answered, idle, passes, failures⟩ :=
          l.task.own.compact_ledger work.tier state
        · have going : pass.outcome = none := by simpa [unanswered] using outcome
          exact kept.going passing ⟨later, followed⟩ going (own ▸ ledger)
        · rw [answered, Option.map_some, Option.map_eq_some_iff] at outcome
          obtain ⟨result, ended, failed⟩ := outcome
          refine kept.ended ⟨later, followed⟩ ended (own ▸ idle) (own ▸ passes) ?_
          rw [own, failures, failed]
          cases Claimant.settles answer <;> rfl
      · rw [continuePass_task, Worker.holding_eq duty, Worker.holding_eq followed, tier, shared,
          own]
        exact Claimant.compact_handed work.tier state l.task.own
  | firstWait starting _ =>
    exact ⟨kept.enter (by simp [starting]) rfl rfl, .kept _⟩
  | firstPass starting _ => exact ⟨kept.enter (by simp [starting]) rfl rfl, .kept _⟩
  | nextPass due => exact ⟨kept.enter (by simp [due]) rfl rfl, .kept _⟩
  | laterWait passed => exact ⟨kept.enter (by simp [passed]) rfl rfl, .kept _⟩
  | waitEnd waiting => exact ⟨kept.enter (by simp [waiting]) rfl rfl, .kept _⟩
  | halt halting => exact ⟨kept.enter (by simp [halting]) rfl rfl, .kept _⟩

end

end UpkeepLoop

namespace Claims

/-- What is held by one worker changes as the claimed pairs do, beside what others hold. -/
theorem Handed.account {c after : Claims} {before now : Option ClaimKey} {others : List ClaimKey}
    (handed : c.Handed before now after) (distinct : c.held.Nodup)
    (account : c.held.Perm (before.toList ++ others)) :
    after.held.Nodup ∧ after.held.Perm (now.toList ++ others) := by
  cases handed with
  | kept => exact ⟨distinct, account⟩
  | @taken key _ granted =>
    unfold claim? at granted
    split at granted
    · cases granted
    next free =>
      cases granted
      have unheld : key ∉ c.held := by simpa using free
      exact ⟨List.nodup_cons.mpr ⟨unheld, distinct⟩, account.cons key⟩
  | returned key =>
    refine ⟨distinct.erase key, ?_⟩
    have released := account.erase key
    simpa [release] using released

end Claims

/-- Replacing one loop of several leaves what the others amount to. -/
theorem filterMap_set {α β : Type} (f : α → Option β) {xs : List α} {i : Nat} {x : α} (y : α)
    (found : xs[i]? = some x) : ∃ others, (xs.filterMap f).Perm ((f x).toList ++ others) ∧
      ((xs.set i y).filterMap f).Perm ((f y).toList ++ others) := by
  obtain ⟨bound, present⟩ := List.getElem?_eq_some_iff.mp found
  obtain ⟨front, back, split, replaced⟩ : ∃ front back, xs = front ++ x :: back ∧
      xs.set i y = front ++ y :: back := by
    obtain ⟨front, back, split, -, replaced⟩ := List.exists_of_set bound
    rw [present] at split
    exact ⟨front, back, split, replaced⟩
  have account (z : α) : ((front ++ z :: back).filterMap f).Perm
      ((f z).toList ++ (front.filterMap f ++ back.filterMap f)) := by
    have whole : (front ++ z :: back).filterMap f =
        front.filterMap f ++ ((f z).toList ++ back.filterMap f) := by
      cases value : f z <;> simp [value]
    rw [whole, ← List.append_assoc, ← List.append_assoc]
    exact List.perm_append_comm.append_right _
  rw [replaced, split]
  exact ⟨_, account x, account y⟩

namespace Fleet

/-- The claimed pairs are those that workers hold, and no pair is held twice. -/
structure Claimed (f : Fleet (Worker Claimant)) : Prop where
  distinct : f.state.claims.held.Nodup
  account : f.state.claims.held.Perm (f.loops.filterMap fun l => l.task.holding)
  kept : ∀ l ∈ f.loops, l.Kept

theorem Claimed.move {f : Fleet (Worker Claimant)} (m : Move) (claimed : f.Claimed) :
    (f.move (Worker.task Claimant.collaborators) m).Claimed := by
  have possible := moved (Worker.task Claimant.collaborators) f m
  generalize f.move (Worker.task Claimant.collaborators) m = g at possible ⊢
  cases possible with
  | idle _ => exact claimed
  | fired => exact ⟨claimed.distinct, claimed.account, claimed.kept⟩
  | dropped => exact ⟨claimed.distinct, claimed.account, claimed.kept⟩
  | @stepped i l next after stepping stepped =>
    have step := UpkeepLoop.stepped_of_step stepped
    obtain ⟨kept, handed⟩ := step.kept (claimed.kept l (List.mem_of_getElem? stepping))
    obtain ⟨others, before, now⟩ := filterMap_set (fun l => l.task.holding) next stepping
    obtain ⟨distinct, account⟩ :=
      handed.account claimed.distinct (claimed.account.trans before)
    refine ⟨distinct, account.trans now.symm, ?_⟩
    intro other member
    obtain rfl | old := List.mem_or_eq_of_mem_set member |>.symm
    · exact kept
    · exact claimed.kept other old

theorem Claimed.run {f : Fleet (Worker Claimant)} (schedule : List Move) (claimed : f.Claimed) :
    (f.run (Worker.task Claimant.collaborators) schedule).Claimed :=
  run_keeps (P := Claimed) (fun _ m _ claimed => claimed.move m) claimed

section

variable {f : Fleet (Worker Claimant)}

theorem Claimed.isHeld_iff (claimed : f.Claimed) (key : ClaimKey) :
    f.state.claims.isHeld key = true ↔ ∃ l ∈ f.loops, l.task.holding = some key := by
  rw [ClaimDesk.isHeld_iff, claimed.account.mem_iff, List.mem_filterMap]

/-- As no pair is claimed twice, no two workers hold the same one. -/
theorem Claimed.exclusive (claimed : f.Claimed) {i j : Nat} {l m : UpkeepLoop (Worker Claimant)}
    {key : ClaimKey} (at_i : f.loops[i]? = some l) (at_j : f.loops[j]? = some m)
    (held : l.task.holding = some key) (also_held : m.task.holding = some key) : i = j := by
  have distinct := claimed.account.nodup_iff.mp claimed.distinct
  rw [List.nodup_iff_pairwise_ne, List.pairwise_filterMap, List.pairwise_iff_getElem] at distinct
  obtain ⟨bound, rfl⟩ := List.getElem?_eq_some_iff.mp at_i
  obtain ⟨bound', rfl⟩ := List.getElem?_eq_some_iff.mp at_j
  rcases Nat.lt_trichotomy i j with before | same | behind
  · exact absurd rfl (distinct i j bound bound' before key held key also_held)
  · exact same
  · exact absurd rfl (distinct j i bound' bound behind key also_held key held)

/-- Where no work on a granted tablet failed, the failures of all loops are the busy reports. -/
theorem failures_eq_busy {loops : List (UpkeepLoop (Worker Claimant))}
    (kept : ∀ l ∈ loops, l.Kept) (unfailed : ∀ l ∈ loops, l.task.own.ledger.failed = 0) :
    (loops.map fun l => l.tally.failures).sum =
      .ofNat (loops.map fun l => l.task.own.ledger.busy).sum := by
  induction loops with
  | nil => rfl
  | cons l rest ih =>
    have here : l.tally.failures = .ofNat l.task.own.ledger.busy := by
      rw [(kept l (by simp)).failures, Ledger.failures, unfailed l (by simp), Nat.add_zero]
    rw [List.map_cons, List.sum_cons, here, List.map_cons, List.sum_cons, UInt64.ofNat_add,
      ih (fun l later => kept l (by simp [later])) (fun l later => unfailed l (by simp [later]))]

/-- A worker that has stopped holds nothing. -/
theorem Claimed.released (claimed : f.Claimed) (stopped : ∀ l ∈ f.loops, l.phase = .stopped) :
    f.state.claims.held = [] := by
  have unheld : f.loops.filterMap (fun l => l.task.holding) = [] := by
    rw [List.filterMap_eq_nil_iff]
    intro l member
    obtain ⟨work, duty⟩ := (claimed.kept l member).duty
    have idle : l.task.own.stage = .idle := by
      by_contra busy
      have passing := (claimed.kept l member).within busy
      rw [stopped l member] at passing
      cases passing
    rw [Worker.holding_eq duty, idle]
    rfl
  exact List.perm_nil.mp (unheld ▸ claimed.account)

end

theorem ofTeam_claimed {team : List (String × Worker Claimant)} (state : SharedState)
    (fresh : ∀ worker ∈ team, (∃ work, worker.2.duty = .compaction work) ∧
      worker.2.own.stage = .idle ∧ worker.2.own.ledger = {}) :
    (ofTeam (Worker.task Claimant.collaborators) { state with claims := {} } team).Claimed := by
  have begins : ∀ l ∈ (ofTeam (Worker.task Claimant.collaborators) { state with claims := {} }
      team).loops, l.Kept ∧ l.task.holding = none := by
    intro l member
    obtain ⟨worker, present, rfl⟩ := List.mem_map.mp member
    obtain ⟨⟨work, duty⟩, idle, ledger⟩ := fresh worker present
    refine ⟨⟨⟨work, duty⟩, fun busy => absurd idle busy, ?_, ?_⟩, ?_⟩
    · exact (congrArg (fun b => UInt64.ofNat b.passes) ledger).symm
    · exact (congrArg (fun b => UInt64.ofNat b.failures) ledger).symm
    · exact (Worker.holding_eq duty).trans (by rw [idle]; rfl)
  have unheld := List.filterMap_eq_nil_iff.mpr fun l member => (begins l member).2
  exact ⟨List.nodup_nil, by rw [unheld]; exact .nil, fun l member => (begins l member).1⟩

/-- The two compaction pools of a node before their first steps, with no tablet claimed. -/
def claimingPools (p : Premises) (bases cumulatives : Nat) (baseSecs cumulativeSecs : UInt64)
    (errand : String → Nat → Errand) (refusal : String → Nat → Option UpkeepError)
    (state : SharedState) : Fleet (Worker Claimant) :=
  .ofTeam (Worker.task Claimant.collaborators) { state with claims := {} }
    ((Schedule.pool p .base bases baseSecs ++
      Schedule.pool p .cumulative cumulatives cumulativeSecs).map
        (·.worker fun name => { errand := errand name, refusal := refusal name }))

theorem claimingPools_claimed (p : Premises) (bases cumulatives : Nat)
    (baseSecs cumulativeSecs : UInt64) (errand : String → Nat → Errand)
    (refusal : String → Nat → Option UpkeepError) (state : SharedState) :
    (claimingPools p bases cumulatives baseSecs cumulativeSecs errand refusal state).Claimed := by
  refine ofTeam_claimed state fun worker member => ?_
  obtain ⟨post, present, rfl⟩ := List.mem_map.mp member
  obtain ⟨work, duty⟩ : ∃ work, post.duty = .compaction work := by
    simp only [Schedule.pool, List.mem_append, List.mem_map] at present
    obtain ⟨i, -, rfl⟩ | ⟨i, -, rfl⟩ := present <;> exact ⟨_, rfl⟩
  exact ⟨⟨work, duty⟩, rfl, rfl⟩

/-- No two workers hold a claim on the same pair, at any time and under any schedule. The passes
of a loop are the compactions in the books of its worker and its failures those that were not
settled, so that they are the busy reports where no work failed. When all workers have stopped,
no pair is claimed. -/
theorem compaction_exclusive (p : Premises) (bases cumulatives : Nat)
    (baseSecs cumulativeSecs : UInt64) (errand : String → Nat → Errand)
    (refusal : String → Nat → Option UpkeepError) (state : SharedState) (schedule : List Move) :
    let f := (claimingPools p bases cumulatives baseSecs cumulativeSecs errand refusal state).run
      (Worker.task Claimant.collaborators) schedule
    f.loops.length = bases + cumulatives ∧
    (∀ key, f.state.claims.isHeld key = true ↔ ∃ l ∈ f.loops, l.task.holding = some key) ∧
    (∀ (i j : Nat) (l m : UpkeepLoop (Worker Claimant)) (key : ClaimKey),
      f.loops[i]? = some l → f.loops[j]? = some m →
      l.task.holding = some key → m.task.holding = some key → i = j) ∧
    (∀ l ∈ f.loops,
      let books := l.task.own.ledger
      l.tally.passes = .ofNat (books.settled + books.busy + books.failed) ∧
      l.tally.failures = .ofNat (books.busy + books.failed)) ∧
    ((∀ l ∈ f.loops, l.task.own.ledger.failed = 0) →
      (f.loops.map fun l => l.tally.failures).sum =
        .ofNat (f.loops.map fun l => l.task.own.ledger.busy).sum) ∧
    ((∀ l ∈ f.loops, l.phase = .stopped) → f.state.claims.held = []) := by
  intro f
  have claimed : f.Claimed :=
    (claimingPools_claimed p bases cumulatives baseSecs cumulativeSecs errand refusal state).run
      schedule
  refine ⟨?_, claimed.isHeld_iff, ?_, ?_, ?_, claimed.released⟩
  · rw [run_length]
    simp [claimingPools, ofTeam, ofLoops, Schedule.pool]
  · intro i j l m key at_i at_j held also_held
    exact claimed.exclusive at_i at_j held also_held
  · intro l member
    exact ⟨(claimed.kept l member).passes, (claimed.kept l member).failures⟩
  · intro unfailed
    exact failures_eq_busy claimed.kept unfailed

/-- Two workers of the base pool, both after one tablet. -/
def rivals : Fleet (Worker Claimant) :=
  claimingPools {} 2 0 60 10
    (fun _ _ => .search ⟨[⟨10001, 7⟩], ".10001.7", 1, .ok 0.5⟩) (fun _ _ => none) {}

/-- The first of them is granted the claim, the second finds it taken, and the trigger fires during
the work of the first. -/
def rivalMoves : List Move :=
  [.step 0, .step 0, .step 0, .step 1, .step 1, .step 1, .step 1, .fire, .step 0, .step 0,
   .step 0, .step 0, .step 0, .step 0, .step 1, .step 1, .step 1]

/-- The second reports the tablet busy; both stop, and the claim has been given back. -/
theorem rivals_stopped :
    let f := rivals.run (Worker.task Claimant.collaborators) rivalMoves
    (∀ l ∈ f.loops, l.phase = .stopped) ∧ (∀ l ∈ f.loops, l.task.own.ledger.failed = 0) ∧
    f.state.claims.held = [] ∧ (f.loops.map fun l => l.tally.failures).sum = 1 := by
  have stopped : ∀ l ∈ (rivals.run (Worker.task Claimant.collaborators) rivalMoves).loops,
      l.phase = .stopped := by decide +kernel
  have unfailed : ∀ l ∈ (rivals.run (Worker.task Claimant.collaborators) rivalMoves).loops,
      l.task.own.ledger.failed = 0 := by decide +kernel
  obtain ⟨-, -, -, -, failures, empty⟩ := compaction_exclusive {} 2 0 60 10
    (fun _ _ => .search ⟨[⟨10001, 7⟩], ".10001.7", 1, .ok 0.5⟩) (fun _ _ => none) {} rivalMoves
  have busy : UInt64.ofNat ((rivals.run (Worker.task Claimant.collaborators) rivalMoves).loops.map
      fun l => l.task.own.ledger.busy).sum = 1 := by decide +kernel
  exact ⟨stopped, unfailed, empty stopped, (failures unfailed).trans busy⟩

end Fleet

end TabletUpkeep
