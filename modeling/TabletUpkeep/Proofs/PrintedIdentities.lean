import TabletUpkeep.Proofs.ExclusiveClaims
import TabletUpkeep.Proofs.PrintedForms
import TabletUpkeep.Proofs.SupervisorEnd

/-! Whom a printed identity means. A name of a compaction worker is that of one tier and one number.
The statistics of a loop keep the name they began with, its duty keeps its tier and its number, and
the two belong together: a name in the statistics of a node is that of one worker, the one that has
been at work under it. -/
namespace TabletUpkeep

namespace LoopTally

theorem observe_worker (s : LoopTally) (label : Label) : (s.observe label).worker = s.worker := by
  cases label with
  | passEnded outcome =>
    simp only [observe, notePass, passWrites]
    split <;> rfl
  | _ => rfl

theorem foldl_observe_worker (s : LoopTally) (labels : List Label) :
    (labels.foldl observe s).worker = s.worker := by
  induction labels generalizing s with
  | nil => rfl
  | cons label rest ih => rw [List.foldl_cons, ih, observe_worker]

end LoopTally

namespace UpkeepLoop

variable {σ : Type} {T : Task σ}

theorem Stepped.worker {stopping : Bool} {state after : SharedState} {l next : UpkeepLoop σ}
    (step : Stepped T stopping state l after next) : next.tally.worker = l.tally.worker := by
  obtain ⟨labels, -, -, tally⟩ := step.turn
  rw [tally, LoopTally.foldl_observe_worker]

theorem Path.worker {start l : UpkeepLoop σ} (path : Path T start l) :
    l.tally.worker = start.tally.worker := by
  refine path.keeps (P := fun l => l.tally.worker = start.tally.worker) ?_ rfl
  intro stopping state l after next step same
  rw [step.worker, same]

end UpkeepLoop

namespace Duty

/-- What a worker with this duty goes by. -/
def title : Duty → String
  | trashSweep _ => DutyKind.text .trashSweep
  | routine work => work.routine.kind.text
  | compaction work => Post.compactionName work.tier work.worker

theorem respond_title (d : Duty) (answer : Outcome Float) :
    (d.respond answer).worker.title = d.title := by
  cases d with
  | trashSweep work => rfl
  | routine work => cases answer <;> rfl
  | compaction work =>
    simp only [respond, CompactionWork.respond]
    split
    · cases answer <;> rfl
    · rfl

/-- Only a compaction worker goes by such a name, and by its own. -/
theorem title_eq_compactionName_iff {d : Duty} {tier : Tier} {i : Nat} :
    d.title = Post.compactionName tier i ↔
      ∃ work, d = .compaction work ∧ work.tier = tier ∧ work.worker = i := by
  cases d with
  | trashSweep work => simp [title, (Post.compactionName_ne_text tier i _).symm]
  | routine work => simp [title, (Post.compactionName_ne_text tier i _).symm]
  | compaction work => simp [title, Post.compactionName_inj]

end Duty

theorem Schedule.posts_titled (s : Schedule) (p : Premises) :
    ∀ post ∈ s.posts p, post.name = post.duty.title := by
  intro post member
  simp only [mem_posts, mem_pool] at member
  rcases member with rfl | rfl | rfl | ⟨i, -, rfl⟩ | ⟨i, -, rfl⟩ | rfl <;> rfl

theorem Worker.advance_title {κ : Type} {C : Collaborators κ} {state : SharedState} {w : Worker κ}
    {step : PassStep (Worker κ)} (advanced : (task C).advance state w = some step) :
    step.task.duty.title = w.duty.title := by
  rcases advance_duty advanced with same | ⟨answer, followed⟩
  · rw [same]
  · rw [followed, Duty.respond_title]

namespace Supervisor

variable {κ : Type} {s : Supervisor} {C : Collaborators κ} {state : SharedState}
variable {own : String → κ} {l : UpkeepLoop (Worker κ)}

/-- The loop of a worker before its first step. -/
theorem fleet_loops {i : Nat} {post : Post} (at_i : s.workers[i]? = some post) :
    (s.fleet C state own).loops[i]? =
      some (.ofTask (Worker.task C) post.name ⟨post.duty, own post.name⟩) := by
  have manned : (s.workers.map (·.worker own))[i]? = some (post.worker own) := by
    rw [List.getElem?_map, at_i]
    rfl
  exact Fleet.ofTeam_loops manned

/-- Whatever its loops have done, the statistics of a node are those of its workers, in order. -/
theorem fleet_workers (s : Supervisor) (C : Collaborators κ) (state : SharedState)
    (own : String → κ) (schedule : List Move) :
    ((s.fleet C state own).run (Worker.task C) schedule).loops.map (·.tally.worker) =
      s.workers.map Post.name := by
  apply List.ext_getElem?
  intro i
  rw [List.getElem?_map, List.getElem?_map]
  cases at_i : s.workers[i]? with
  | none =>
    rw [List.getElem?_eq_none_iff, ← s.fleet_length C state own schedule] at at_i
    rw [List.getElem?_eq_none at_i]
    rfl
  | some post =>
    obtain ⟨l, found, path⟩ := Fleet.run_path (Worker.task C) schedule (fleet_loops at_i)
    rw [found, Option.map_some, Option.map_some, path.worker]
    rfl

/-- The statistics of a loop bear the name of the worker whose duty it does. -/
theorem fleet_titled {schedule : List Move}
    (titled : ∀ post ∈ s.workers, post.name = post.duty.title)
    (reached : l ∈ ((s.fleet C state own).run (Worker.task C) schedule).loops) :
    l.tally.worker = l.task.duty.title := by
  obtain ⟨post, manned, path⟩ := fleet_path reached
  have kept : ∀ (w : Worker κ) (state : SharedState) (step : PassStep (Worker κ)),
      w.duty.title = post.duty.title → (Worker.task C).advance state w = some step →
      step.task.duty.title = post.duty.title := by
    intro w state step same advanced
    rw [Worker.advance_title advanced, same]
  calc l.tally.worker
    _ = post.name := path.worker
    _ = post.duty.title := titled post manned
    _ = l.task.duty.title := (path.keeps_task kept rfl).symm

end Supervisor

namespace ClaimDesk

/-- Each line in a list of the claims is that of one live claim. -/
theorem listed_claim {actions : List Action} {entry : String × String}
    (shown : entry ∈ (run {} actions).claims.held.map ClaimKey.listed) :
    ∃! claim : Nat × ClaimKey, Live actions claim.1 claim.2 ∧ claim.2.listed = entry := by
  obtain ⟨key, held, rfl⟩ := List.mem_map.mp shown
  obtain ⟨slot, live⟩ := (held_iff_live actions key).mp held
  refine ⟨(slot, key), ⟨live, rfl⟩, ?_⟩
  rintro ⟨other, otherKey⟩ ⟨otherLive, same⟩
  obtain rfl := ClaimKey.listed_inj.mp same
  rw [live_unique actions other slot otherKey otherLive live]

end ClaimDesk

open Supervisor (start)

/-- What is printed of tablets, versions and workers tells them apart, whatever their numbers and
signs, and no compaction worker goes by the name of a kind. So the report of a busy tablet means one
tablet, a line in a list of claims means one live claim, and in the statistics of a node every name
means one worker, a compaction name the worker of that tier and number. -/
theorem printed_identities_unambiguous :
    (∀ t u : Tablet, t.text = u.text ↔ t = u) ∧
    (∀ v w : Version, v.text = w.text ↔ v = w) ∧
    (∀ (a b : Tier) (i j : Nat),
      Post.compactionName a i = Post.compactionName b j ↔ a = b ∧ i = j) ∧
    (∀ (tier : Tier) (i : Nat) (kind : DutyKind), Post.compactionName tier i ≠ kind.text) ∧
    (∀ (t : Tablet) (cause : UpkeepError),
      cause.message = (UpkeepError.tabletBusy t.text).message ↔ cause = .tabletBusy t.text) ∧
    (∀ t u : Tablet, (UpkeepError.tabletBusy t.text).message =
      (UpkeepError.tabletBusy u.text).message ↔ t = u) ∧
    (∀ (actions : List ClaimDesk.Action),
      ∀ entry ∈ (ClaimDesk.run {} actions).claims.held.map ClaimKey.listed,
        ∃! claim : Nat × ClaimKey,
          ClaimDesk.Live actions claim.1 claim.2 ∧ claim.2.listed = entry) ∧
    ∀ (c : UpkeepSettings) (p : Premises) (threads : Threads) (s : Supervisor),
      (start c p threads).outcome = .ok s →
      ∀ (κ : Type) (C : Collaborators κ) (state : SharedState) (own : String → κ)
        (schedule : List Move),
        let loops := ((s.fleet C state own).run (Worker.task C) schedule).loops
        (loops.map (·.tally.snapshot.worker)).Nodup ∧
        ∀ l ∈ loops, ∀ tier i, l.tally.snapshot.worker = Post.compactionName tier i ↔
          ∃ work, l.task.duty = .compaction work ∧ work.tier = tier ∧ work.worker = i := by
  refine ⟨fun _ _ => Tablet.text_inj, fun _ _ => Version.text_inj,
    fun _ _ _ _ => Post.compactionName_inj, Post.compactionName_ne_text,
    fun _ _ => UpkeepError.message_eq_busy_iff, ?_, fun _ _ => ClaimDesk.listed_claim, ?_⟩
  · intro t u
    rw [UpkeepError.message_eq_busy_iff, UpkeepError.tabletBusy.injEq, Tablet.text_inj]
  · intro c p threads s started κ C state own schedule loops
    have posts := Supervisor.start_workers started
    simp only [LoopTally.snapshot_eq]
    constructor
    · rw [s.fleet_workers C state own schedule, posts]
      exact Schedule.posts_names_nodup _ p
    · intro l reached tier i
      have titled : ∀ post ∈ s.workers, post.name = post.duty.title := by
        rw [posts]
        exact Schedule.posts_titled _ p
      rw [Supervisor.fleet_titled titled reached, Duty.title_eq_compactionName_iff]

/-- A tablet with the least schema hash, claimed in both tiers and given back in one, a version with
negative bounds, and a node with so many base workers that some names begin with others. -/
theorem negative_numbers_identified :
    let t : Tablet := ⟨-7, -2147483648⟩
    let actions : List ClaimDesk.Action :=
      [.claim (.base, t), .claim (.cumulative, t), .claim (.base, t), .release 1]
    let entry := ("base", ".-7.-2147483648")
    let script : Script := { engine := [.error (.tabletBusy t.text)], bindings := [] }
    entry ∈ (ClaimDesk.run {} actions).claims.held.map ClaimKey.listed ∧
    (∃! claim : Nat × ClaimKey,
      ClaimDesk.Live actions claim.1 claim.2 ∧ claim.2.listed = entry) ∧
    (∀ u : Tablet, "Tablet .-7.-2147483648 is busy" = (UpkeepError.tabletBusy u.text).message ↔
      t = u) ∧
    (∀ v : Version, v.text = "[-5--3]" ↔ v = ⟨-5, -3⟩) ∧
    ∃ s, (start { baseThreads := 12 } {} ⟨fun _ => none, fun _ => false⟩).outcome = .ok s ∧
      ∀ schedule, ∀ l ∈ ((s.fleet Script.collaborators {} fun _ => script).run scriptedWorker
          schedule).loops,
        l.tally.snapshot.worker = "base-compaction-11" ↔
          ∃ work, l.task.duty = .compaction work ∧ work.tier = .base ∧ work.worker = 11 := by
  intro t actions entry script
  obtain ⟨s, started⟩ :
      ∃ s, (start { baseThreads := 12 } {} ⟨fun _ => none, fun _ => false⟩).outcome = .ok s := by
    rw [Supervisor.start_accepted { baseThreads := 12 } {} _ (by decide) fun _ _ => rfl]
    exact ⟨_, rfl⟩
  have shown : entry ∈ (ClaimDesk.run {} actions).claims.held.map ClaimKey.listed := by decide
  obtain ⟨-, versions, -, -, -, busy, listed, statistics⟩ := printed_identities_unambiguous
  refine ⟨shown, listed actions entry shown, busy t, fun v => versions v ⟨-5, -3⟩, s, started, ?_⟩
  intro schedule l reached
  obtain ⟨-, named⟩ :=
    statistics _ _ _ s started Script Script.collaborators {} (fun _ => script) schedule
  exact named l reached .base 11

end TabletUpkeep
