import TabletUpkeep.Loop.Script
import TabletUpkeep.Proofs.Glances
import TabletUpkeep.Proofs.LoopHistory
import TabletUpkeep.Proofs.Publication

/-! How the fields of one snapshot go together. A snapshot reads the counts before what they count,
so what it counts is there when it reads on, however far the loop has gone on meanwhile. A failure
is counted before its pass and the passes are read before the failures, so a snapshot can hold more
failures than passes, by those of passes that it was too early to count. -/
namespace TabletUpkeep

open LoopTally (Write Field snapshotOrder)

theorem getLast?_of_prefix {α β : Type} {f : α → β} {xs : List β} {ys : List α} {n : Nat}
    (within : xs <+: ys.map f) (positive : 1 ≤ n) (stored : n ≤ xs.length) :
    ∃ j y, ys[j]? = some y ∧ n ≤ j + 1 ∧ xs.getLast? = some (f y) := by
  have last : xs.length - 1 < xs.length := by omega
  have same := List.prefix_iff_getElem?.mp within _ last
  rw [List.getElem?_map, Option.map_eq_some_iff] at same
  obtain ⟨y, found, equal⟩ := same
  refine ⟨xs.length - 1, y, found, by omega, ?_⟩
  rw [List.getLast?_eq_getElem?, equal, List.getElem?_eq_getElem last]

section

variable {σ : Type} {T : Task σ} {name : String} {task : σ} {l : UpkeepLoop σ}

namespace UpkeepLoop

/-- The fields of a snapshot, by the writes that each read has seen. -/
structure Pieces (seen : Field → List Write) (s : LoopTally) : Prop where
  passes : s.passes = .ofNat ((seen .passes).count .countPass)
  failures : s.failures = .ofNat ((seen .failures).count .countFailure)
  waits : s.waits = .ofNat ((seen .waits).count .countWait)
  lastWait : s.lastWaitMillis = (((seen .lastWait).filterMap Write.wait?).getLast?).getD 0
  lastError : s.lastError = ((seen .lastError).filterMap Write.error?).getLast?
  lastPass : s.passStamps = (seen .lastPass).count .stampPass

variable {glances : Nat} {accesses : List SharedTally.Access} {g : Glance}

/-- The reads of a complete snapshot have seen ever longer first parts of the loop's writes. -/
theorem glance_sees (taken : g ∈ ((l.shared glances).run accesses).glances)
    (complete : g.unread = []) :
    ∃ seen, Pieces seen g.seen ∧
      snapshotOrder.Pairwise (fun earlier later => seen earlier <+: seen later) ∧
      ∀ field, seen field <+: l.trace.flatMap Label.writes := by
  obtain ⟨seen, pieced, growing, partway⟩ := glance_pieces taken complete
  refine ⟨seen, ?_, growing, partway⟩
  rw [pieced]
  simp only [LoopTally.pieced, snapshotOrder, List.foldl_cons, List.foldl_nil,
    LoopTally.readField, LoopTally.applyAll_eq]
  constructor <;> simp [unused]

section

variable {seen : Field → List Write} {s : LoopTally}

theorem count_lt {made : List Write} {w : Write} {total n : Nat} (few : total < UInt64.size)
    (partway : made <+: l.trace.flatMap Label.writes)
    (whole : (l.trace.flatMap Label.writes).count w = n) (fits : n ≤ total) :
    made.count w < UInt64.size := by
  have among : made.count w ≤ n := whole ▸ partway.sublist.count_le w
  omega

variable (pieces : Pieces seen s) (partway : ∀ field, seen field <+: l.trace.flatMap Label.writes)
include pieces partway

theorem Pieces.toNat_passes (few : (Label.outcomes l.trace).length < UInt64.size) :
    s.passes.toNat = (seen .passes).count .countPass := by
  rw [pieces.passes]
  exact UInt64.toNat_ofNat_of_lt'
    (count_lt few (partway .passes) (Label.settled l.trace).passes (Nat.le_refl _))

theorem Pieces.toNat_failures (few : (Label.outcomes l.trace).length < UInt64.size) :
    s.failures.toNat = (seen .failures).count .countFailure := by
  rw [pieces.failures]
  exact UInt64.toNat_ofNat_of_lt' (count_lt few (partway .failures)
    (Label.settled l.trace).failures (List.length_filterMap_le _ _))

theorem Pieces.toNat_waits (few : (Label.waits l.trace).length < UInt64.size) :
    s.waits.toNat = (seen .waits).count .countWait := by
  rw [pieces.waits]
  exact UInt64.toNat_ofNat_of_lt'
    (count_lt few (partway .waits) (Label.settled l.trace).waited (Nat.le_refl _))

variable (growing : snapshotOrder.Pairwise fun earlier later => seen earlier <+: seen later)

omit pieces partway in
include growing in
/-- Of two fields the one that is read later has seen no fewer writes. -/
theorem seen_grows {earlier later : Field} (order : [earlier, later].Sublist snapshotOrder) :
    seen earlier <+: seen later := by
  have pair := growing.sublist order
  rwa [List.pairwise_pair] at pair

include growing

theorem Pieces.shows_failures (few : (Label.outcomes l.trace).length < UInt64.size) :
    (Outcome.failures ((Label.outcomes l.trace).take s.passes.toNat)).length ≤
      s.failures.toNat := by
  have counted := (Label.published l.trace (partway .passes)).failures
  rw [← pieces.toNat_passes partway few] at counted
  obtain ⟨n, least, -, exactly⟩ := counted
  have longer : (Label.outcomes l.trace).take s.passes.toNat <+: (Label.outcomes l.trace).take n :=
    List.take_prefix_take_left least
  calc (Outcome.failures ((Label.outcomes l.trace).take s.passes.toNat)).length
    _ ≤ (Outcome.failures ((Label.outcomes l.trace).take n)).length :=
      (longer.filterMap _).length_le
    _ = (seen .passes).count .countFailure := exactly.symm
    _ ≤ (seen .failures).count .countFailure :=
      (seen_grows growing (by decide)).sublist.count_le _
    _ = s.failures.toNat := (pieces.toNat_failures partway few).symm

theorem Pieces.shows_time (few : (Label.outcomes l.trace).length < UInt64.size) :
    s.passes.toNat ≤ s.passStamps ∧ s.passStamps ≤ (Label.outcomes l.trace).length := by
  have later : (seen .passes).count .stampPass ≤ (seen .lastPass).count .stampPass :=
    (seen_grows growing (by decide)).sublist.count_le _
  rw [pieces.lastPass, pieces.toNat_passes partway few]
  exact ⟨(Label.published l.trace (partway .passes)).stamped.trans later,
    (Label.published l.trace (partway .lastPass)).begun⟩

theorem Pieces.shows_cause (few : (Label.outcomes l.trace).length < UInt64.size)
    (some_failure : 1 ≤ s.failures.toNat) :
    ∃ j cause, (Outcome.failures (Label.outcomes l.trace))[j]? = some cause ∧
      s.failures.toNat ≤ j + 1 ∧ s.lastError = some cause.message := by
  have stored := (Label.published l.trace (partway .failures)).explained
  have onward : seen .failures <+: seen .lastError := seen_grows growing (by decide)
  have later := (onward.filterMap Write.error?).length_le
  rw [← pieces.toNat_failures partway few] at stored
  obtain ⟨j, cause, found, counted, last⟩ := getLast?_of_prefix
    (Label.published l.trace (partway .lastError)).errors some_failure (stored.trans later)
  exact ⟨j, cause, found, counted, pieces.lastError.trans last⟩

theorem Pieces.shows_length (few : (Label.waits l.trace).length < UInt64.size)
    (some_wait : 1 ≤ s.waits.toNat) :
    ∃ j length, (Label.waits l.trace)[j]? = some length ∧ s.waits.toNat ≤ j + 1 ∧
      s.lastWaitMillis = length.millis := by
  have stored := (Label.published l.trace (partway .waits)).measured
  have onward : seen .waits <+: seen .lastWait := seen_grows growing (by decide)
  have later := (onward.filterMap Write.wait?).length_le
  rw [← pieces.toNat_waits partway few] at stored
  obtain ⟨j, length, found, counted, last⟩ := getLast?_of_prefix
    (Label.published l.trace (partway .lastWait)).lengths some_wait (stored.trans later)
  refine ⟨j, length, found, counted, ?_⟩
  rw [pieces.lastWait, last, Option.getD_some]

theorem Pieces.keeps_pace (path : Path T (ofTask T name task) l)
    (fewPasses : (Label.outcomes l.trace).length < UInt64.size)
    (fewWaits : (Label.waits l.trace).length < UInt64.size) :
    s.passes.toNat + (T.firstWait task).isSome.toNat ≤ s.waits.toNat + 1 := by
  have counted := path.counted_passes_le (partway .passes)
  have later : (seen .passes).count .countWait ≤ (seen .waits).count .countWait :=
    (seen_grows growing (by decide)).sublist.count_le _
  rw [pieces.toNat_passes partway fewPasses, pieces.toNat_waits partway fewWaits]
  omega

end

/-- Whatever the order of accesses, a snapshot of `passes`, `failures` and `waits` shows at least
the failures of those passes; a time set by the last of those passes or by a later one; the text of
the last of those failures or of a later one; the length of the last of those waits or of a later
one; and no fewer waits than those that follow a pass shown by the next, and one more if the loop
waits first. The writes made by then and those still to come make the statistics that the loop goes
by. -/
theorem snapshot_published_before_counted (path : Path T (ofTask T name task) l)
    (fewPasses : (Label.outcomes l.trace).length < UInt64.size)
    (fewWaits : (Label.waits l.trace).length < UInt64.size)
    (taken : g ∈ ((l.shared glances).run accesses).glances) (complete : g.unread = []) :
    let outcomes := Label.outcomes l.trace
    let passes := g.seen.passes.toNat
    let failures := g.seen.failures.toNat
    let waits := g.seen.waits.toNat
    let shared := (l.shared glances).run accesses
    (Outcome.failures (outcomes.take passes)).length ≤ failures ∧
    (1 ≤ passes → g.seen.lastPassKnown = true ∧
      passes ≤ g.seen.passStamps ∧ g.seen.passStamps ≤ outcomes.length) ∧
    (1 ≤ failures → ∃ j cause, (Outcome.failures outcomes)[j]? = some cause ∧ failures ≤ j + 1 ∧
      g.seen.lastError = some cause.message) ∧
    (1 ≤ waits → ∃ j length, (Label.waits l.trace)[j]? = some length ∧ waits ≤ j + 1 ∧
      g.seen.lastWaitMillis = length.millis) ∧
    (T.firstWait task = none → passes ≤ waits + 1) ∧
    ((T.firstWait task).isSome = true → passes ≤ waits) ∧
    shared.live.applyAll shared.unwritten = l.tally := by
  intro outcomes passes failures waits shared
  obtain ⟨seen, pieces, growing, partway⟩ := glance_sees taken complete
  have paced : passes + (T.firstWait task).isSome.toNat ≤ waits + 1 :=
    pieces.keeps_pace partway growing path fewPasses fewWaits
  refine ⟨pieces.shows_failures partway growing fewPasses, fun some_pass => ?_,
    pieces.shows_cause partway growing fewPasses, pieces.shows_length partway growing fewWaits,
    fun runsFirst => ?_, fun waitsFirst => ?_, ?_⟩
  · obtain ⟨stamped, begun⟩ := pieces.shows_time partway growing fewPasses
    refine ⟨?_, stamped, begun⟩
    simp only [LoopTally.lastPassKnown, bne_iff_ne]
    omega
  · rw [runsFirst] at paced
    exact paced
  · rw [waitsFirst] at paced
    exact Nat.le_of_succ_le_succ paced
  · exact (SharedTally.run_settled _ accesses).trans path.tally_eq

/-- A pass that fails, and one that does not. -/
def twoPasses : ScriptedTask where
  kind := .diskStatMonitor
  firstWait := none
  rounds := [(.error .noCandidate, .ofMillis 5), (.ok (), .ofMillis 7)]

/-- The loop of these passes in its second wait. -/
def twicePassed : UpkeepLoop ScriptedTask :=
  recorded ScriptedTask.task "disk-stat-monitor" twoPasses
    { twoPasses with wait := .ofMillis 7, rounds := [] } (.waiting (.ofMillis 7))
    [.passStarted, .passEnded (.error .noCandidate), .waitEntered (.ofMillis 5), .waitEnded false,
      .passStarted, .passEnded (.ok ()), .waitEntered (.ofMillis 7)]
    [] [.passFailed "disk-stat-monitor" .noCandidate]

theorem twicePassed_path :
    Path ScriptedTask.task (ofTask ScriptedTask.task "disk-stat-monitor" twoPasses) twicePassed :=
  path_starting |>.snoc (step_starting_passing false {} rfl)
    |>.snoc (step_ending false {} rfl rfl) |>.snoc (step_passed false {})
    |>.snoc (step_waiting false {} _) |>.snoc (step_due false {})
    |>.snoc (step_ending false {} rfl rfl) |>.snoc (step_passed false {})

/-- A snapshot begun between two passes and completed after the second: it counts one pass, one
failure and one wait, and shows the time of the second pass and the length of the second wait. -/
theorem second_wait_shown :
    let accesses : List SharedTally.Access :=
      .replicate 4 .write ++ [.read 0, .read 0] ++ .replicate 2 .write ++ [.read 0] ++
      .replicate 3 .write ++ .replicate 4 (.read 0)
    ∃ g ∈ ((twicePassed.shared 1).run accesses).glances, g.unread = [] ∧
      (Label.outcomes twicePassed.trace).length < UInt64.size ∧
      (Label.waits twicePassed.trace).length < UInt64.size ∧
      g.seen.passes = 1 ∧ g.seen.failures = 1 ∧ g.seen.waits = 1 ∧
      g.seen.passStamps = 2 ∧ g.seen.lastWaitMillis = 7 ∧
      g.seen.passes.toNat ≤ g.seen.waits.toNat + 1 ∧ g.seen.lastPassKnown = true := by
  intro accesses
  let g : Glance :=
    ⟨{ twicePassed.unused with
        passes := 1, failures := 1, waits := 1, lastWaitMillis := 7, passStamps := 2
        lastError := some UpkeepError.noCandidate.message }, []⟩
  have taken : g ∈ ((twicePassed.shared 1).run accesses).glances := by decide +kernel
  have few : (Label.outcomes twicePassed.trace).length < UInt64.size := by decide
  have few' : (Label.waits twicePassed.trace).length < UInt64.size := by decide
  obtain ⟨-, stamped, -, -, paced, -⟩ :=
    snapshot_published_before_counted twicePassed_path few few' taken rfl
  exact ⟨g, taken, rfl, few, few', rfl, rfl, rfl, rfl, rfl, paced rfl, (stamped (by decide)).1⟩

/-- The failures of a snapshot are those of the first so many passes, no fewer than it counts and
no more than have set the time it shows. So they exceed the passes by no more than the failing ones
of those that were not counted yet when it read the passes. -/
theorem snapshot_failures_of_first_passes
    (fewPasses : (Label.outcomes l.trace).length < UInt64.size)
    (taken : g ∈ ((l.shared glances).run accesses).glances) (complete : g.unread = []) :
    let outcomes := Label.outcomes l.trace
    let passes := g.seen.passes.toNat
    let failures := g.seen.failures.toNat
    ∃ m, passes ≤ m ∧ m ≤ g.seen.passStamps ∧
      failures = (Outcome.failures (outcomes.take m)).length ∧
      failures ≤ passes + (Outcome.failures ((outcomes.take m).drop passes)).length := by
  intro outcomes passes failures
  obtain ⟨seen, pieces, growing, partway⟩ := glance_sees taken complete
  have p : passes = _ := pieces.toNat_passes partway fewPasses
  have f : failures = _ := pieces.toNat_failures partway fewPasses
  have onward : seen .passes <+: seen .failures := seen_grows growing (by decide)
  have stamped : seen .failures <+: seen .lastPass := seen_grows growing (by decide)
  obtain ⟨m, least, most, exactly⟩ := (Label.published l.trace (partway .failures)).failures
  have counted : passes ≤ m := by
    rw [p]
    exact (onward.sublist.count_le _).trans least
  refine ⟨m, counted, ?_, f.trans exactly, ?_⟩
  · rw [pieces.lastPass]
    exact most.trans (stamped.sublist.count_le _)
  · have split : Outcome.failures (outcomes.take m) =
        Outcome.failures ((outcomes.take m).take passes) ++
          Outcome.failures ((outcomes.take m).drop passes) := by
      rw [← Outcome.failures_append, List.take_append_drop]
    have early : (Outcome.failures ((outcomes.take m).take passes)).length ≤ passes :=
      (List.length_filterMap_le _ _).trans (List.length_take_le _ _)
    rw [f, exactly]
    change (Outcome.failures (outcomes.take m)).length ≤ _
    rw [split, List.length_append]
    omega

/-- The first pass is recorded up to its failure while a snapshot is between its first two reads. -/
def overtaken : List SharedTally.Access :=
  .read 0 :: .replicate 3 .write ++ .replicate 6 (.read 0)

/-- Of the first pass the snapshot shows the failure alone. -/
def failureAlone : Glance :=
  ⟨{ twicePassed.unused with
      failures := 1, passStamps := 1, lastError := some UpkeepError.noCandidate.message }, []⟩

/-- The failures of a snapshot can exceed its passes. -/
theorem failure_shown_before_pass :
    Path ScriptedTask.task (ofTask ScriptedTask.task "disk-stat-monitor" twoPasses) twicePassed ∧
    (Label.outcomes twicePassed.trace).length < UInt64.size ∧
    failureAlone ∈ ((twicePassed.shared 1).run overtaken).glances ∧ failureAlone.unread = [] ∧
    ¬ failureAlone.seen.failures ≤ failureAlone.seen.passes :=
  ⟨twicePassed_path, by decide, by decide +kernel, rfl, by decide⟩

/-- The failing pass is the only one it can be ahead by. -/
theorem failure_ahead_by_one :
    (Label.outcomes twicePassed.trace).length < UInt64.size ∧
    failureAlone ∈ ((twicePassed.shared 1).run overtaken).glances ∧ failureAlone.unread = [] ∧
    ∃ m, m ≤ 1 ∧
      1 = (Outcome.failures ((Label.outcomes twicePassed.trace).take m)).length := by
  have few : (Label.outcomes twicePassed.trace).length < UInt64.size := by decide
  have taken : failureAlone ∈ ((twicePassed.shared 1).run overtaken).glances := by decide +kernel
  obtain ⟨m, -, most, failures, -⟩ := snapshot_failures_of_first_passes few taken rfl
  exact ⟨few, taken, rfl, m, most, failures⟩

end UpkeepLoop

end

end TabletUpkeep
