import TabletUpkeep.Duty.Questions
import TabletUpkeep.Duty.Script
import TabletUpkeep.Proofs.FairTurns
import TabletUpkeep.Proofs.Startup
import TabletUpkeep.Proofs.Stopping
import TabletUpkeep.Proofs.WaitBounds

/-! The two ends of a supervisor. Shut down, it fires the trigger and joins every worker, and a join
that fails stops none of the others; let go, it does nothing to them and they run on. Where all
calls of the collaborators come back, shutting down succeeds: nothing outside the passes panics, and
every loop comes to its end once it is told to stop. -/
namespace TabletUpkeep

namespace Supervisor

section

variable (s : Supervisor) (threads : Threads)

/-- The workers whose threads panicked, in launch order. -/
def panicked : List String :=
  ((s.workers.map Post.name).zipIdx.filter fun worker => threads.panics worker.2).map Prod.fst

theorem joinErrors_panicked :
    joinErrors threads 0 s.workers = (s.panicked threads).map .workerPanicked := by
  rw [joinErrors_eq, panicked, List.map_map]
  rfl

theorem panicked_eq_nil :
    s.panicked threads = [] ↔ ∀ i < s.workers.length, threads.panics i = false := by
  rw [panicked, List.map_eq_nil_iff, List.filter_eq_nil_iff]
  constructor
  · intro none i bound
    have named : i < (s.workers.map Post.name).length := by rwa [List.length_map]
    have member := List.mk_mem_zipIdx_iff_getElem?.mpr (List.getElem?_eq_getElem named)
    exact Bool.eq_false_iff.mpr (none _ member)
  · intro none worker member
    have bound := (List.getElem?_eq_some_iff.mp (List.mem_zipIdx_iff_getElem?.mp member)).1
    rw [List.length_map] at bound
    rw [none worker.2 bound]
    exact Bool.false_ne_true

end

/-- The first error is that of the first worker whose thread panicked. -/
theorem joinErrors_first {threads : Threads} {n i : Nat} {posts : List Post} {post : Post}
    (at_i : posts[i]? = some post) (fails : threads.panics (n + i) = true)
    (before : ∀ j < i, threads.panics (n + j) = false) :
    ∃ later, joinErrors threads n posts = .workerPanicked post.name :: later := by
  induction i generalizing n posts with
  | zero =>
    cases posts with
    | nil => simp at at_i
    | cons first rest =>
      obtain rfl : first = post := by simpa using at_i
      rw [Nat.add_zero] at fails
      exact ⟨joinErrors threads (n + 1) rest, by simp only [joinErrors, fails, if_true]⟩
  | succ i ih =>
    cases posts with
    | nil => simp at at_i
    | cons first rest =>
      have joined : threads.panics n = false := before 0 (Nat.succ_pos i)
      have later : ∀ j < i, threads.panics (n + 1 + j) = false := by
        intro j bound
        rw [Nat.add_right_comm, Nat.add_assoc]
        exact before (j + 1) (Nat.succ_lt_succ bound)
      have fails_later : threads.panics (n + 1 + i) = true := by
        rw [← fails, Nat.add_right_comm, Nat.add_assoc]
      simp only [joinErrors, joined, Bool.false_eq_true, if_false]
      exact ih (by simpa using at_i) fails_later later

/-- Every worker is joined, whether or not joins before it failed; the failed ones are logged in
the order of the joins, and the first of them is what is returned. -/
structure Joined (s : Supervisor) (threads : Threads) (report : Report Unit) : Prop where
  deeds : report.deeds = .fire :: (s.workers.map Post.name).map .join
  events : report.events =
    (s.panicked threads).map fun name => .joinFailed (.workerPanicked name)
  errors : ∀ event ∈ report.events, event.level = .error
  attached : ∀ count, .detached count ∉ report.events
  ok : report.outcome = .ok () ↔ ∀ i < s.workers.length, threads.panics i = false
  first : ∀ i name, (s.workers.map Post.name)[i]? = some name → threads.panics i = true →
    (∀ j < i, threads.panics j = false) → report.outcome = .error (.workerPanicked name)

theorem shutdown_joined (s : Supervisor) (threads : Threads) :
    s.Joined threads (s.shutdown threads) := by
  have events : (s.shutdown threads).events =
      (s.panicked threads).map fun name => .joinFailed (.workerPanicked name) := by
    simp only [shutdown, drop, List.isEmpty_nil, if_true, List.append_nil, joinErrors_panicked,
      List.map_map]
    rfl
  refine ⟨?_, events, ?_, ?_, ?_, ?_⟩
  · simp only [shutdown, drop, List.append_nil, joins, List.map_map]
    rfl
  · intro event member
    rw [events, List.mem_map] at member
    obtain ⟨name, -, rfl⟩ := member
    rfl
  · intro count member
    rw [events, List.mem_map] at member
    obtain ⟨name, -, same⟩ := member
    cases same
  · rw [← s.panicked_eq_nil]
    simp only [shutdown, joinErrors_panicked]
    cases s.panicked threads with
    | nil => exact iff_of_true rfl rfl
    | cons name later => exact iff_of_false (fun same => by cases same) (List.cons_ne_nil _ _)
  · intro i name at_i fails before
    rw [List.getElem?_map] at at_i
    obtain ⟨post, at_post, rfl⟩ := Option.map_eq_some_iff.mp at_i
    obtain ⟨later, errors⟩ := joinErrors_first at_post (n := 0) (by simpa using fails)
      (by simpa using before)
    simp only [shutdown, errors]

/-- Where no thread panics, shutting down reports nothing. -/
theorem Joined.undisturbed {s : Supervisor} {threads : Threads} {report : Report Unit}
    (joined : s.Joined threads report) (calm : ∀ i < s.workers.length, threads.panics i = false) :
    report.outcome = .ok () ∧ report.events = [] := by
  refine ⟨joined.ok.mpr calm, ?_⟩
  rw [joined.events, (s.panicked_eq_nil threads).mpr calm]
  rfl

end Supervisor

namespace Duty

/-- The sweeper goes by the falling curve. -/
def Curved (arctan : Float → Float) (d : Duty) : Prop :=
  ∀ work, d = .trashSweep work → work.curve = sweepCurve arctan

variable {arctan : Float → Float} {d : Duty}

theorem Curved.respond (curved : d.Curved arctan) (answer : Outcome Float) :
    (d.respond answer).worker.Curved arctan := by
  intro work same
  cases d with
  | trashSweep t =>
    simp only [Duty.respond, Reply.map, TrashSweep.respond_eq] at same
    cases same
    exact curved t rfl
  | routine _ => cases same
  | compaction _ => cases same

/-- Of no duty a question for a wait panics. -/
theorem Curved.answers (curved : d.Curved arctan) :
    d.firstWait? arctan = some d.firstWait ∧ d.laterWait? arctan = some d.laterWait := by
  cases d with
  | trashSweep work =>
    have answered := TrashSweep.wait?_eq (curved work rfl)
    exact ⟨by rw [firstWait?, answered]; rfl, answered⟩
  | routine _ => exact ⟨rfl, rfl⟩
  | compaction _ => exact ⟨rfl, rfl⟩

theorem Curved.unwinds {κ : Type} {l : UpkeepLoop (Worker κ)}
    (curved : l.task.duty.Curved arctan) : Worker.unwinds arctan l = false := by
  obtain ⟨first, later⟩ := curved.answers
  rw [Worker.unwinds]
  split
  · rw [first]
    rfl
  · rw [later]
    rfl
  · rfl

end Duty

theorem Schedule.posts_curved (schedule : Schedule) {p : Premises} {arctan : Float → Float}
    (curve : p.curve = sweepCurve arctan) :
    ∀ post ∈ schedule.posts p, post.duty.Curved arctan := by
  intro post member work same
  simp only [mem_posts, mem_pool] at member
  rcases member with rfl | rfl | rfl | ⟨i, -, rfl⟩ | ⟨i, -, rfl⟩ | rfl
  · cases same
    exact curve
  all_goals cases same

namespace Fleet

variable {σ : Type} {T : Task σ} {f : Fleet σ}

theorem move_trigger_gone {m : Move} (gone : f.line.trigger = false) :
    (f.move T m).line.trigger = false := by
  have possible := moved T f m
  generalize f.move T m = g at possible ⊢
  cases possible with
  | stepped _ _ => exact gone
  | idle _ => exact gone
  | fired => simp [StopLine.fire, gone]
  | dropped => rfl

/-- Without a trigger there is nothing left to fire. -/
theorem run_unfired (schedule : List Move) (gone : f.line.trigger = false) :
    f.run T schedule = f.run T (schedule.filter (· ≠ .fire)) := by
  induction schedule generalizing f with
  | nil => rfl
  | cons m rest ih =>
    by_cases fires : m = .fire
    · have still : f.move T .fire = f := by simp [move, StopLine.fire, gone]
      simp only [fires, run_cons, still, ih gone, ne_eq, not_true, decide_false,
        List.filter_cons_of_neg, Bool.false_eq_true, not_false_iff]
    · simp only [fires, run_cons, ih (move_trigger_gone gone), ne_eq, not_false_iff, decide_true,
        List.filter_cons_of_pos]

end Fleet

namespace Supervisor

variable {κ : Type} {s : Supervisor} {C : Collaborators κ} {state : SharedState}
variable {own : String → κ} {l : UpkeepLoop (Worker κ)}

/-- The loops of a node before their first steps. -/
def fleet (s : Supervisor) (C : Collaborators κ) (state : SharedState) (own : String → κ) :
    Fleet (Worker κ) :=
  .ofTeam (Worker.task C) state (s.workers.map (·.worker own))

/-- The threads of a node that follows a schedule, launched as asked. One of them ends in a panic if
its loop is ever about to unwind, whatever its loop would do after that. -/
def threads (arctan : Float → Float) (C : Collaborators κ) (f : Fleet (Worker κ))
    (schedule : List Move) : Threads where
  refusal _ := none
  panics n := schedule.inits.any fun before =>
    ((f.run (Worker.task C) before).loops[n]?).any (Worker.unwinds arctan)

theorem threads_calm {arctan : Float → Float} {f : Fleet (Worker κ)}
    (calm : ∀ before, ∀ l ∈ (f.run (Worker.task C) before).loops,
      Worker.unwinds arctan l = false) (schedule : List Move) (i : Nat) :
    (threads arctan C f schedule).panics i = false := by
  refine List.any_eq_false.mpr fun before _ => ?_
  cases found : (f.run (Worker.task C) before).loops[i]? with
  | none => simp
  | some l => simp [calm before l (List.mem_of_getElem? found)]

/-- Every loop of a run is that of a worker. -/
theorem fleet_path {schedule : List Move}
    (reached : l ∈ ((s.fleet C state own).run (Worker.task C) schedule).loops) :
    ∃ post ∈ s.workers, UpkeepLoop.Path (Worker.task C)
      (.ofTask (Worker.task C) post.name ⟨post.duty, own post.name⟩) l := by
  obtain ⟨i, found⟩ := List.mem_iff_getElem?.mp reached
  obtain ⟨worker, manned, first⟩ := Fleet.ofTeam_first found
  obtain ⟨post, at_i, rfl⟩ := Option.map_eq_some_iff.mp (List.getElem?_map ▸ manned)
  obtain ⟨last, at_end, path⟩ := Fleet.run_path (Worker.task C) schedule first
  obtain rfl := Option.some.inj (found.symm.trans at_end)
  exact ⟨post, List.mem_of_getElem? at_i, path⟩

/-- Letting go of a supervisor lets go of its trigger, which then is gone for good: the loops run
on, whatever becomes of them later. -/
theorem drop_leaves_running (s : Supervisor) (C : Collaborators κ) (state : SharedState)
    (own : String → κ) (before : List Nat) (after : List Move) :
    let g := (s.fleet C state own).run (Worker.task C) (before.map .step ++ .dropTrigger :: after)
    g.line.reportsStop = false ∧ ∀ l ∈ g.loops, l.Running := by
  intro g
  let quiet : List Move := before.map .step ++ .dropTrigger :: after.filter (· ≠ .fire)
  have same : g = (s.fleet C state own).run (Worker.task C) quiet := by
    simp only [g, quiet, Fleet.run_append, Fleet.run_cons]
    exact Fleet.run_unfired after rfl
  have unfired : .fire ∉ quiet := by simp [quiet]
  rw [same]
  constructor
  · refine StopLine.Armed.reportsStop ?_
    refine Fleet.run_keeps (P := fun f => f.line.Armed) ?_ Fleet.ofTeam_armed
    intro f m member armed
    exact Fleet.move_line_armed (fun fires => unfired (fires ▸ member)) armed
  · intro l reached
    obtain ⟨i, found⟩ := List.mem_iff_getElem?.mp reached
    exact Fleet.ofTeam_running unfired found

/-- No thread unwinds, whatever the collaborators do. -/
theorem fleet_unwinds {arctan : Float → Float} {schedule : List Move}
    (curved : ∀ post ∈ s.workers, post.duty.Curved arctan)
    (reached : l ∈ ((s.fleet C state own).run (Worker.task C) schedule).loops) :
    Worker.unwinds arctan l = false := by
  obtain ⟨post, manned, path⟩ := fleet_path reached
  have kept : ∀ (w : Worker κ) (state : SharedState) (step : PassStep (Worker κ)),
      w.duty.Curved arctan → (Worker.task C).advance state w = some step →
      step.task.duty.Curved arctan := by
    intro w state step curved advanced
    rcases Worker.advance_duty advanced with same | ⟨answer, followed⟩
    · rw [same]
      exact curved
    · rw [followed]
      exact curved.respond answer
  exact (path.keeps_task kept (curved post manned)).unwinds

theorem fleet_length (s : Supervisor) (C : Collaborators κ) (state : SharedState)
    (own : String → κ) (schedule : List Move) :
    ((s.fleet C state own).run (Worker.task C) schedule).loops.length = s.workers.length := by
  rw [Fleet.run_length]
  simp [fleet, Fleet.ofTeam, Fleet.ofLoops]

/-- The schedule of a node that is shut down after some turns of its loops, and gives them so many
turns from then on. -/
def shutdownMoves (before : List Nat) (turns : Nat → Nat) (n : Nat) : List Move :=
  before.map .step ++ .fire :: (List.range n).map fun k => .step (turns k)

theorem run_shutdownMoves (f : Fleet (Worker κ)) (before : List Nat) (turns : Nat → Nat) (n : Nat) :
    f.run (Worker.task C) (shutdownMoves before turns n) =
      ((f.run (Worker.task C) (before.map .step)).move (Worker.task C) .fire).afterTurns
        (Worker.task C) turns n := by
  rw [shutdownMoves, Fleet.run_append, Fleet.run_cons]
  rfl

/-- Where every call comes back and every loop gets its turns, all loops have come to their end from
some turn on. -/
theorem all_workers_stop {Good : κ → Prop} (returning : C.Returning Good)
    (good : ∀ name, Good (own name)) (before : List Nat) {turns : Nat → Nat}
    (fair : Fair s.workers.length turns) :
    ∃ n, ∀ m, n ≤ m →
      ∀ l ∈ ((s.fleet C state own).run (Worker.task C) (shutdownMoves before turns m)).loops,
        l.phase = .stopped ∧ l.tally.stopped = true := by
  let T := Worker.task C
  let f := s.fleet C state own
  let told := (f.run T (before.map .step)).move T .fire
  have fired : told.line.sender = false :=
    StopLine.fire_sender (Fleet.run_trigger (by simp) rfl)
  have winds : ∀ i < s.workers.length, ∃ l, told.loops[i]? = some l ∧ l.Winds T := by
    intro i manned
    rw [← s.fleet_length C state own (before.map .step)] at manned
    have found := List.getElem?_eq_getElem manned
    obtain ⟨post, -, path⟩ := fleet_path (List.mem_of_getElem? found)
    have ending := Worker.task_ending returning
    have still := path.keeps_task ending.kept (good post.name)
    exact ⟨_, found, UpkeepLoop.winds_of_passEnds (ending.ends _ still)⟩
  obtain ⟨n, stopped⟩ := Fleet.all_come_to_stop fair fired winds
  refine ⟨n, fun m after l reached => ?_⟩
  obtain ⟨i, found⟩ := List.mem_iff_getElem?.mp reached
  have manned : i < s.workers.length := by
    have bound := (List.getElem?_eq_some_iff.mp found).1
    rwa [fleet_length] at bound
  obtain ⟨last, at_end, ended⟩ := stopped m after i manned
  rw [run_shutdownMoves] at found
  obtain rfl := Option.some.inj (found.symm.trans at_end)
  obtain ⟨post, -, path⟩ := fleet_path reached
  exact ⟨ended, path.marks_stopped Phase.noConfusion ended⟩

/-- A supervisor that is shut down joins every worker, whatever comes of the joins; one that is let
go only warns, and leaves its workers running for good. No thread of a node unwinds by itself, so
where every call comes back and every loop gets its turns, all loops stop, and shutting down then
reports no error. -/
theorem ends_of_supervisor (c : UpkeepSettings) (unit : Duration) (grouped : Bool)
    (arctan : Float → Float) (launch : Threads) (s : Supervisor)
    (started : (start c { unit, grouped, curve := sweepCurve arctan } launch).outcome = .ok s) :
    (s.workers.map Post.name).Nodup ∧
    (∀ threads : Threads, s.Joined threads (s.shutdown threads)) ∧
    s.drop.deeds = [] ∧ s.drop.events = [.detached s.workers.length] ∧
    ∀ (κ : Type) (C : Collaborators κ) (state : SharedState) (own : String → κ),
      let T := Worker.task C
      let f := s.fleet C state own
      (∀ (before : List Nat) (after : List Move),
        let g := f.run T (before.map .step ++ .dropTrigger :: after)
        g.line.reportsStop = false ∧ ∀ l ∈ g.loops, l.Running) ∧
      (∀ schedule, ∀ l ∈ (f.run T schedule).loops, Worker.unwinds arctan l = false) ∧
      ∀ Good : κ → Prop, C.Returning Good → (∀ name, Good (own name)) →
        ∀ (before : List Nat) (turns : Nat → Nat), Fair s.workers.length turns →
          ∃ n, ∀ m, n ≤ m →
            let schedule := shutdownMoves before turns m
            let g := f.run T schedule
            g.loops.length = s.workers.length ∧
            (∀ l ∈ g.loops, l.phase = .stopped ∧ l.tally.stopped = true) ∧
            (s.shutdown (threads arctan C f schedule)).outcome = .ok () ∧
            (s.shutdown (threads arctan C f schedule)).events = [] := by
  have posts := start_workers started
  have curved : ∀ post ∈ s.workers, post.duty.Curved arctan := by
    rw [posts]
    exact Schedule.posts_curved _ rfl
  refine ⟨?_, s.shutdown_joined, rfl, ?_, ?_⟩
  · rw [posts]
    exact Schedule.posts_names_nodup _ _
  · rw [drop, posts]
    rfl
  · intro κ C state own T f
    refine ⟨s.drop_leaves_running C state own, fun _ l => fleet_unwinds curved, ?_⟩
    intro Good returning good before turns fair
    obtain ⟨n, stopped⟩ := all_workers_stop returning good before fair
    refine ⟨n, fun m after => ?_⟩
    have calm (moves : List Move) : ∀ l ∈ (f.run T moves).loops, Worker.unwinds arctan l = false :=
      fun _ reached => fleet_unwinds curved reached
    have smooth := (s.shutdown_joined _).undisturbed fun i _ =>
      threads_calm calm (shutdownMoves before turns m) i
    exact ⟨s.fleet_length C state own _, stopped m after, smooth⟩

end Supervisor

namespace Script

theorem step_answers {script : Script} (succeeds : script.afterwards = .succeeds) (call : Call)
    (state : SharedState) : ∃ next answer,
      step call state script = some ⟨next, state, some answer⟩ ∧ next.afterwards = .succeeds := by
  obtain ⟨engine, bindings, afterwards⟩ := script
  cases succeeds
  cases call <;> cases engine <;> cases bindings <;> exact ⟨_, _, rfl, rfl⟩

/-- A script that does not block in the end does not block at all. -/
theorem returning : collaborators.Returning fun script => script.afterwards = .succeeds := by
  constructor
  · intro script call succeeds
    refine .intro (fun state => ?_) fun state called found unanswered => ?_
    · obtain ⟨next, answer, stepped, -⟩ := step_answers succeeds call state
      exact Option.isSome_iff_exists.mpr ⟨_, stepped⟩
    · obtain ⟨next, answer, stepped, -⟩ := step_answers succeeds call state
      cases stepped.symm.trans found
      cases unanswered
  · intro script call state called succeeds found
    obtain ⟨next, answer, stepped, still⟩ := step_answers succeeds call state
    cases stepped.symm.trans found
    exact still

end Script

namespace Supervisor

/-- A node of six workers: every engine panics once, and so does the resource group. Were the
threads of its second and fifth workers to panic, the second would be reported; let go, it warns of
six workers; shut down, with its loops taking turns, it stops without an error. -/
theorem six_workers_end :
    let script : Script := { engine := [.panic .other], bindings := [.panic .other] }
    let turns (n : Nat) : Nat := n % 6
    ∃ s, (start {} { grouped := true, curve := sweepCurve arctanAtEnds }
        ⟨fun _ => none, fun _ => false⟩).outcome = .ok s ∧
      (s.shutdown ⟨fun _ => none, fun i => i = 1 || i = 4⟩).outcome =
        .error (.workerPanicked "disk-stat-monitor") ∧
      s.drop.events = [.detached 6] ∧
      Script.collaborators.Returning (fun script => script.afterwards = .succeeds) ∧
      script.afterwards = .succeeds ∧ Fair s.workers.length turns ∧
      ∃ n, ∀ m, n ≤ m →
        ∀ l ∈ ((s.fleet Script.collaborators {} fun _ => script).run scriptedWorker
          (shutdownMoves [0, 1, 1, 3] turns m)).loops, l.tally.stopped = true := by
  intro script turns
  obtain ⟨s, started⟩ : ∃ s, (start {} { grouped := true, curve := sweepCurve arctanAtEnds }
      ⟨fun _ => none, fun _ => false⟩).outcome = .ok s := by
    rw [start_accepted {} _ _ (by decide) fun _ _ => rfl]
    exact ⟨_, rfl⟩
  have six : s.workers.length = 6 := by
    rw [start_workers started]
    rfl
  have second : (s.workers.map Post.name)[1]? = some "disk-stat-monitor" := by
    rw [start_workers started]
    rfl
  have fair : Fair s.workers.length turns := by
    intro i among n
    refine ⟨6 * n + i, by omega, ?_⟩
    simp only [turns]
    omega
  obtain ⟨-, joined, -, warned, running⟩ :=
    ends_of_supervisor {} (.ofSecs 1) true arctanAtEnds _ s started
  obtain ⟨-, -, ending⟩ := running Script Script.collaborators {} fun _ => script
  obtain ⟨n, stopped⟩ := ending _ Script.returning (fun _ => rfl) [0, 1, 1, 3] turns fair
  refine ⟨s, started, ?_, six ▸ warned, Script.returning, rfl, fair, n, ?_⟩
  · exact (joined _).first 1 _ second rfl (by decide)
  · intro m after l reached
    exact ((stopped m after).2.1 l reached).2

end Supervisor

end TabletUpkeep
