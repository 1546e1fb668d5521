import TabletUpkeep.Proofs.WorkerNames
import TabletUpkeep.Supervisor.Basic

/-! Startup is all or nothing. Launches go down the roster up to the first refusal, and a refusal
undoes what was done before it: the trigger fires and every worker that runs is joined. -/
namespace TabletUpkeep

/-- The workers of a node by name and kind, in the order of their launch. -/
def roster (c : UpkeepSettings) : List (String × DutyKind) :=
  [("trash-sweeper", .trashSweep), ("disk-stat-monitor", .diskStatMonitor),
   ("unused-index", .unusedIndex)] ++
  (List.range c.baseThreads.toNat).map (fun i => (s!"base-compaction-{i}", .baseCompaction)) ++
  (List.range c.cumulativeThreads.toNat).map
    (fun i => (s!"cumulative-compaction-{i}", .cumulativeCompaction)) ++
  [("fd-cache-clean", .fdCacheClean)]

theorem roster_length (c : UpkeepSettings) : (roster c).length = c.workerTotal := by
  simp only [roster, List.length_append, List.length_cons, List.length_nil, List.length_map,
    List.length_range, UpkeepSettings.workerTotal]
  omega

namespace Schedule

theorem posts_roster (c : UpkeepSettings) (p : Premises) :
    ((ofSettings c).posts p).map (fun post => (post.name, post.kind)) = roster c := by
  simp only [posts, pool, List.map_append, List.map_cons, List.map_nil, List.map_map]
  rfl

end Schedule

theorem roster_names (c : UpkeepSettings) (p : Premises) :
    (roster c).map Prod.fst = ((Schedule.ofSettings c).posts p).map Post.name := by
  rw [← Schedule.posts_roster c p, List.map_map]
  rfl

namespace Supervisor

theorem launchFrom_cons_accepted (threads : Threads) (n : Nat) (post : Post) (rest : List Post)
    (accepted : threads.refusal n = none) :
    launchFrom threads n (post :: rest) =
      let later := launchFrom threads (n + 1) rest
      ⟨.launch post.name :: later.deeds, post :: later.workers, later.error⟩ := by
  simp [launchFrom, accepted]

theorem launchFrom_accepted (threads : Threads) (n : Nat) (posts : List Post)
    (accepted : ∀ i < posts.length, threads.refusal (n + i) = none) :
    launchFrom threads n posts = ⟨posts.map fun post => .launch post.name, posts, none⟩ := by
  induction posts generalizing n with
  | nil => rfl
  | cons post rest ih =>
    have later : ∀ i < rest.length, threads.refusal (n + 1 + i) = none := by
      intro i bound
      rw [Nat.add_right_comm, Nat.add_assoc]
      exact accepted (i + 1) (Nat.succ_lt_succ bound)
    rw [launchFrom_cons_accepted threads n post rest (accepted 0 (Nat.succ_pos _)), ih _ later]
    rfl

/-- Nothing is tried beyond the first refusal, and the workers before it are running. -/
theorem launchFrom_refused (threads : Threads) (n k : Nat) (posts : List Post) (post : Post)
    (reason : String) (accepted : ∀ i < k, threads.refusal (n + i) = none)
    (refused : threads.refusal (n + k) = some reason) (position : posts[k]? = some post) :
    launchFrom threads n posts =
      ⟨(posts.take (k + 1)).map fun post => .launch post.name, posts.take k,
       some (.workerSpawn post.name reason)⟩ := by
  induction k generalizing n posts with
  | zero =>
    cases posts with
    | nil => simp at position
    | cons first rest =>
      obtain rfl : first = post := by simpa using position
      rw [Nat.add_zero] at refused
      simp [launchFrom, refused]
  | succ k ih =>
    cases posts with
    | nil => simp at position
    | cons first rest =>
      have later : ∀ i < k, threads.refusal (n + 1 + i) = none := by
        intro i bound
        rw [Nat.add_right_comm, Nat.add_assoc]
        exact accepted (i + 1) (Nat.succ_lt_succ bound)
      have refusedLater : threads.refusal (n + 1 + k) = some reason := by
        rw [← refused, Nat.add_right_comm, Nat.add_assoc]
      rw [launchFrom_cons_accepted threads n first rest (accepted 0 (Nat.succ_pos _)),
        ih (n + 1) rest later refusedLater (by simpa using position)]
      rfl

/-- The workers that run are those in front of the refusal, and all of them if there is none. -/
theorem launchFrom_workers (threads : Threads) (n : Nat) (posts : List Post) :
    (launchFrom threads n posts).workers <+: posts ∧
    ((launchFrom threads n posts).error = none → (launchFrom threads n posts).workers = posts) := by
  induction posts generalizing n with
  | nil => exact ⟨List.prefix_rfl, fun _ => rfl⟩
  | cons post rest ih =>
    cases refusal : threads.refusal n with
    | some reason => simp [launchFrom, refusal]
    | none =>
      obtain ⟨before, all⟩ := ih (n + 1)
      rw [launchFrom_cons_accepted threads n post rest refusal]
      refine ⟨List.cons_prefix_cons.mpr ⟨rfl, before⟩, ?_⟩
      intro unrefused
      exact congrArg (post :: ·) (all unrefused)

/-- A join that fails stops none of the others: each worker whose thread panics has its error. -/
theorem joinErrors_eq (threads : Threads) (n : Nat) (posts : List Post) :
    joinErrors threads n posts =
      (((posts.map Post.name).zipIdx n).filter fun worker => threads.panics worker.2).map
        fun worker => .workerPanicked worker.1 := by
  induction posts generalizing n with
  | nil => rfl
  | cons post rest ih =>
    simp only [joinErrors, List.map_cons, List.zipIdx_cons, List.filter_cons, ih]
    split <;> rfl

theorem start_zero_unit (c : UpkeepSettings) (p : Premises) (threads : Threads)
    (zero : p.unit.toNanos = 0) :
    start c p threads = ⟨[], [], .error (.config "maintenance time unit must be positive")⟩ := by
  rw [start, if_pos (p.unit.isZero_iff.mpr zero)]

theorem unit_not_zero {unit : Duration} (positive : 0 < unit.toNanos) : unit.isZero = false := by
  rw [← Bool.not_eq_true, unit.isZero_iff]
  exact Nat.ne_of_gt positive

theorem start_accepted (c : UpkeepSettings) (p : Premises) (threads : Threads)
    (positive : 0 < p.unit.toNanos)
    (accepted : ∀ n < (roster c).length, threads.refusal n = none) :
    start c p threads =
      ⟨((roster c).map Prod.fst).map .launch, (Schedule.ofSettings c).warnings,
       .ok ⟨.ofSettings c, (Schedule.ofSettings c).posts p⟩⟩ := by
  have all : ∀ i < ((Schedule.ofSettings c).posts p).length, threads.refusal (0 + i) = none := by
    rw [← Schedule.posts_roster c p, List.length_map] at accepted
    simpa using accepted
  simp only [start, unit_not_zero positive, Bool.false_eq_true, ↓reduceIte,
    launchFrom_accepted threads 0 _ all, roster_names c p, List.map_map, Schedule.draw_warnings]
  rfl

/-- A supervisor that started runs a worker for every post. -/
theorem start_workers {c : UpkeepSettings} {p : Premises} {threads : Threads} {s : Supervisor}
    (started : (start c p threads).outcome = .ok s) :
    s.workers = (Schedule.ofSettings c).posts p := by
  unfold start at started
  split at started
  · cases started
  · dsimp only at started
    split at started
    next unrefused =>
      cases started
      exact (launchFrom_workers threads 0 _).2 unrefused
    next => cases started

theorem start_refused (c : UpkeepSettings) (p : Premises) (threads : Threads) (k : Nat)
    (reason worker : String) (positive : 0 < p.unit.toNanos)
    (accepted : ∀ n < k, threads.refusal n = none) (refused : threads.refusal k = some reason)
    (position : ((roster c).map Prod.fst)[k]? = some worker) :
    let started := ((roster c).map Prod.fst).take k
    start c p threads =
      ⟨(started ++ [worker]).map .launch ++ .fire :: started.map .join,
       (Schedule.ofSettings c).warnings ++ .startFailed k (.workerSpawn worker reason) ::
         (started.zipIdx.filter fun w => threads.panics w.2).map
           fun w => .joinFailed (.workerPanicked w.1),
       .error (.workerSpawn worker reason)⟩ := by
  intro started
  rw [roster_names c p, List.getElem?_map] at position
  obtain ⟨post, atPosition, rfl⟩ := Option.map_eq_some_iff.mp position
  have bound := (List.getElem?_eq_some_iff.mp atPosition).1
  have names : started = (((Schedule.ofSettings c).posts p).take k).map Post.name := by
    rw [List.map_take, ← roster_names c p]
  have launches : launchFrom threads 0 ((Schedule.ofSettings c).posts p) = _ :=
    launchFrom_refused threads 0 k _ post reason (by simpa using accepted) (by simpa using refused)
      atPosition
  have count : (((Schedule.ofSettings c).posts p).take k).length = k := by
    rw [List.length_take, Nat.min_eq_left (Nat.le_of_lt bound)]
  simp only [start, unit_not_zero positive, Bool.false_eq_true, ↓reduceIte, launches, joinErrors_eq,
    Schedule.draw_warnings, joins, names, count, List.take_add_one, atPosition, Option.toList_some, List.map_append,
    List.map_map, List.map_cons, List.map_nil]
  rfl

/-- Startup is all or nothing, whatever the configuration, the time unit and the launches that are
refused. Without a unit nothing is tried. With one, launches follow the roster; if none is refused
all its workers run, and if launch `k` is the first to be refused, the trigger fires and the `k`
workers before it are joined in launch order. Joins that fail are logged after the refusal and
change nothing else. -/
theorem start_all_or_nothing (c : UpkeepSettings) (p : Premises) (threads : Threads) :
    let report := start c p threads
    let names := (roster c).map Prod.fst
    let warnings := (Schedule.ofSettings c).warnings
    names.Nodup ∧ names.length = c.workerTotal ∧
    c.workerTotal = 4 + c.baseThreads.toNat + c.cumulativeThreads.toNat ∧
    (p.unit.toNanos = 0 → report.deeds = [] ∧ report.events = [] ∧
      report.outcome = .error (.config "maintenance time unit must be positive")) ∧
    (0 < p.unit.toNanos → (∀ n < names.length, threads.refusal n = none) →
      report.deeds = names.map .launch ∧ report.events = warnings ∧
      ∃ s, report.outcome = .ok s ∧ s.workers.map (fun w => (w.name, w.kind)) = roster c ∧
        s.workers.length = c.workerTotal) ∧
    (0 < p.unit.toNanos → ∀ k reason worker, (∀ n < k, threads.refusal n = none) →
      threads.refusal k = some reason → names[k]? = some worker →
      report.deeds = (names.take k ++ [worker]).map .launch ++ .fire :: (names.take k).map .join ∧
      report.events = warnings ++ .startFailed k (.workerSpawn worker reason) ::
        ((names.take k).zipIdx.filter fun w => threads.panics w.2).map
          (fun w => .joinFailed (.workerPanicked w.1)) ∧
      report.outcome = .error (.workerSpawn worker reason)) := by
  intro report names warnings
  have length : names.length = c.workerTotal := by rw [List.length_map, roster_length]
  refine ⟨?_, length, rfl, ?_, ?_, ?_⟩
  · rw [show names = _ from roster_names c p]
    exact Schedule.posts_names_nodup _ p
  · intro zero
    rw [show report = _ from start_zero_unit c p threads zero]
    exact ⟨rfl, rfl, rfl⟩
  · intro positive accepted
    rw [show report = _ from start_accepted c p threads positive (by simpa [names] using accepted)]
    refine ⟨rfl, rfl, _, rfl, Schedule.posts_roster c p, ?_⟩
    rw [← length, show names = _ from roster_names c p, List.length_map]
  · intro positive k reason worker accepted refused position
    rw [show report = _ from
      start_refused c p threads k reason worker positive accepted refused position]
    exact ⟨rfl, rfl, rfl⟩

/-- The second worker of the base pool is refused; of those before it, number 1 fails to join.
Beside it a start without a unit, and one that nothing refuses. -/
theorem start_refused_in_pool :
    let threads : Threads := ⟨fun n => if n = 4 then some "no threads" else none, (· == 1)⟩
    let report := start { baseThreads := 2 } {} threads
    let cause := NodeError.workerSpawn "base-compaction-1" "no threads"
    0 < ({} : Premises).unit.toNanos ∧ (∀ n < 4, threads.refusal n = none) ∧
    report.deeds = [.launch "trash-sweeper", .launch "disk-stat-monitor", .launch "unused-index",
      .launch "base-compaction-0", .launch "base-compaction-1", .fire, .join "trash-sweeper",
      .join "disk-stat-monitor", .join "unused-index", .join "base-compaction-0"] ∧
    report.events =
      [.startFailed 4 cause, .joinFailed (.workerPanicked "disk-stat-monitor")] ∧
    report.outcome = .error cause ∧
    (start {} { unit := .zero } threads).deeds = [] ∧
    ∃ s, (start {} {} ⟨fun _ => none, threads.panics⟩).outcome = .ok s ∧ s.workers.length = 6 := by
  intro threads report cause
  have positive : 0 < ({} : Premises).unit.toNanos := by decide
  have accepted : ∀ n < 4, threads.refusal n = none := by decide
  obtain ⟨_, _, _, _, _, refuses⟩ := start_all_or_nothing { baseThreads := 2 } {} threads
  obtain ⟨deeds, events, outcome⟩ :=
    refuses positive 4 "no threads" "base-compaction-1" accepted rfl (by decide)
  obtain ⟨_, _, _, unitless, _⟩ := start_all_or_nothing {} { unit := .zero } threads
  obtain ⟨untried, _⟩ := unitless (by decide)
  obtain ⟨_, _, _, _, accepts, _⟩ := start_all_or_nothing {} {} ⟨fun _ => none, threads.panics⟩
  obtain ⟨_, _, s, running, _, all⟩ := accepts positive fun _ _ => rfl
  exact ⟨positive, accepted, deeds, events, outcome, untried, s, running, all⟩

end Supervisor

end TabletUpkeep
