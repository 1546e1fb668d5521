import Mathlib.Data.List.Induction
import Mathlib.Data.List.Infix
import TabletUpkeep.Loop.Observation
import TabletUpkeep.Proofs.LoopSteps

/-! The order of a loop's writes. It sets the time of a pass and the text of its failure before it
counts the failure, and counts the pass last; it stores the length of a wait before it counts the
wait. So of any first part of the writes, cut off at whatever point, what is counted is also
there, and the waits counted keep up with the passes. -/
namespace TabletUpkeep

open LoopTally (Write)

/-- A first part of one list after another is inside the one or goes on into the other. -/
theorem inside_or_beyond {α : Type} {made first second : List α}
    (partway : made <+: first ++ second) :
    made <+: first ∨ ∃ rest, made = first ++ rest ∧ rest <+: second := by
  obtain inside | ⟨rest, rfl⟩ :=
    List.prefix_or_prefix_of_prefix partway (List.prefix_append first second)
  · exact .inl inside
  · exact .inr ⟨rest, rfl, (List.prefix_append_right_inj first).mp partway⟩

theorem Outcome.failures_append (outcomes more : List (Outcome Unit)) :
    failures (outcomes ++ more) = failures outcomes ++ failures more := List.filterMap_append

namespace LoopTally

def Write.error? : Write → Option String
  | .storeError text => some text
  | _ => none

def Write.wait? : Write → Option UInt64
  | .storeWait millis => some millis
  | _ => none

/-- Of the writes of one kind either the number matters or the last one. -/
theorem applyAll_eq (s : LoopTally) (writes : List Write) :
    s.applyAll writes =
      { s with
        passes := s.passes + .ofNat (writes.count .countPass)
        failures := s.failures + .ofNat (writes.count .countFailure)
        waits := s.waits + .ofNat (writes.count .countWait)
        lastWaitMillis := (writes.filterMap Write.wait?).getLast?.getD s.lastWaitMillis
        lastError := (writes.filterMap Write.error?).getLast?.or s.lastError
        passStamps := s.passStamps + writes.count .stampPass
        stopped := s.stopped || writes.contains .halt } := by
  induction writes using List.reverseRecOn with
  | nil => simp
  | append_singleton writes w ih =>
    rw [applyAll_append, ih]
    cases w <;>
      simp [apply, Write.wait?, Write.error?, UInt64.ofNat_add, UInt64.add_assoc, Nat.add_assoc,
        List.filterMap_append, List.count_append]

end LoopTally

/-- What the passes and waits of labels come to in their writes. -/
structure Label.Settled (labels : List Label) (writes : List Write) : Prop where
  passes : writes.count .countPass = (outcomes labels).length
  stamps : writes.count .stampPass = (outcomes labels).length
  failures : writes.count .countFailure = (Outcome.failures (outcomes labels)).length
  errors : writes.filterMap Write.error? =
    (Outcome.failures (outcomes labels)).map UpkeepError.message
  waited : writes.count .countWait = (waits labels).length
  lengths : writes.filterMap Write.wait? = (waits labels).map Duration.millis

/-- What is known when only a first part of the writes of labels has been made. -/
structure Label.Published (labels : List Label) (writes : List Write) : Prop where
  stamped : writes.count .countPass ≤ writes.count .stampPass
  begun : writes.count .stampPass ≤ (outcomes labels).length
  /-- The failures counted are those of the passes counted, or of one more pass. -/
  failures : ∃ passes, writes.count .countPass ≤ passes ∧ passes ≤ writes.count .stampPass ∧
    writes.count .countFailure = (Outcome.failures ((outcomes labels).take passes)).length
  explained : writes.count .countFailure ≤ (writes.filterMap Write.error?).length
  errors : writes.filterMap Write.error? <+:
    (Outcome.failures (outcomes labels)).map UpkeepError.message
  measured : writes.count .countWait ≤ (writes.filterMap Write.wait?).length
  lengths : writes.filterMap Write.wait? <+: (waits labels).map Duration.millis

namespace Label

theorem outcomes_append (labels more : List Label) :
    outcomes (labels ++ more) = outcomes labels ++ outcomes more := List.filterMap_append

theorem waits_append (labels more : List Label) :
    waits (labels ++ more) = waits labels ++ waits more := List.filterMap_append

/-- A label has the writes it should have. -/
theorem settled_writes (label : Label) : Settled [label] label.writes := by
  cases label with
  | passEnded outcome =>
    rw [writes, LoopTally.passWrites]
    cases failure : outcome.failure? with
    | none =>
      constructor <;> simp [outcomes, waits, outcome?, wait?, Outcome.failures, failure,
        List.filterMap_cons, Write.error?, Write.wait?]
    | some cause =>
      constructor <;> simp [outcomes, waits, outcome?, wait?, Outcome.failures, failure,
        List.filterMap_cons, Write.error?, Write.wait?]
  | waitEntered length => exact ⟨rfl, rfl, rfl, rfl, rfl, rfl⟩
  | _ => exact ⟨rfl, rfl, rfl, rfl, rfl, rfl⟩

section

variable {labels more : List Label} {made further : List Write}

theorem Settled.append (settled : Settled labels made) (next : Settled more further) :
    Settled (labels ++ more) (made ++ further) := by
  obtain ⟨passes, stamps, failures, errors, waited, lengths⟩ := settled
  obtain ⟨passes', stamps', failures', errors', waited', lengths'⟩ := next
  constructor <;>
    simp only [List.count_append, List.filterMap_append, List.length_append, List.map_append,
      outcomes_append, waits_append, Outcome.failures_append, *]

theorem settled (labels : List Label) : Settled labels (labels.flatMap writes) := by
  induction labels with
  | nil => exact ⟨rfl, rfl, rfl, rfl, rfl, rfl⟩
  | cons label labels ih => exact label.settled_writes.append ih

/-- Labels still to come change nothing about the writes already made. -/
theorem Published.extend (published : Published labels made) (more : List Label) :
    Published (labels ++ more) made := by
  obtain ⟨stamped, begun, ⟨passes, least, most, failures⟩, explained, errors, measured, lengths⟩ :=
    published
  refine ⟨stamped, ?_, ⟨passes, least, most, ?_⟩, explained, ?_, measured, ?_⟩
  · rw [outcomes_append, List.length_append]
    omega
  · rw [outcomes_append, List.take_append_of_le_length (most.trans begun), failures]
  · rw [outcomes_append, Outcome.failures_append, List.map_append]
    exact errors.trans (List.prefix_append _ _)
  · rw [waits_append, List.map_append]
    exact lengths.trans (List.prefix_append _ _)

theorem Settled.append_published (settled : Settled labels made)
    (next : Published more further) : Published (labels ++ more) (made ++ further) := by
  obtain ⟨stamped, begun, ⟨passes, least, most, failures⟩, explained, errors, measured, lengths⟩ :=
    next
  refine ⟨?_, ?_, ⟨(outcomes labels).length + passes, ?_, ?_, ?_⟩, ?_, ?_, ?_, ?_⟩
  · simp only [List.count_append, settled.passes, settled.stamps]
    omega
  · simp only [List.count_append, settled.stamps, outcomes_append, List.length_append]
    omega
  · simp only [List.count_append, settled.passes]
    omega
  · simp only [List.count_append, settled.stamps]
    omega
  · rw [List.count_append, settled.failures, failures, outcomes_append, List.take_length_add_append,
      Outcome.failures_append, List.length_append]
  · simp only [List.count_append, List.filterMap_append, List.length_append, settled.failures,
      settled.errors, List.length_map]
    omega
  · rw [List.filterMap_append, settled.errors, outcomes_append, Outcome.failures_append,
      List.map_append]
    exact (List.prefix_append_right_inj _).mpr errors
  · simp only [List.count_append, List.filterMap_append, List.length_append, settled.waited,
      settled.lengths, List.length_map]
    omega
  · rw [List.filterMap_append, settled.lengths, waits_append, List.map_append]
    exact (List.prefix_append_right_inj _).mpr lengths

end

theorem Settled.published {labels : List Label} {made : List Write}
    (settled : Settled labels made) : Published labels made := by
  obtain ⟨passes, stamps, failures, errors, waited, lengths⟩ := settled
  refine ⟨?_, ?_, ⟨(outcomes labels).length, ?_, ?_, ?_⟩, ?_, ?_, ?_, ?_⟩
  · rw [passes, stamps]
  · rw [stamps]
  · rw [passes]
  · rw [stamps]
  · rw [failures, List.take_length]
  · rw [failures, errors, List.length_map]
  · rw [errors]
  · rw [waited, lengths, List.length_map]
  · rw [lengths]

theorem published_nil (labels : List Label) : Published labels [] :=
  (settled []).published.extend labels

/-- While nothing is counted, all that is to be known is what has been stored. -/
theorem published_of_uncounted {labels : List Label} {made : List Write}
    (uncounted : ∀ w ∈ made, w ≠ .countPass ∧ w ≠ .countFailure ∧ w ≠ .countWait)
    (begun : made.count .stampPass ≤ (outcomes labels).length)
    (errors : made.filterMap Write.error? <+:
      (Outcome.failures (outcomes labels)).map UpkeepError.message)
    (lengths : made.filterMap Write.wait? <+: (waits labels).map Duration.millis) :
    Published labels made := by
  have passes : made.count .countPass = 0 :=
    List.count_eq_zero.mpr fun member => (uncounted _ member).1 rfl
  have failures : made.count .countFailure = 0 :=
    List.count_eq_zero.mpr fun member => (uncounted _ member).2.1 rfl
  have waited : made.count .countWait = 0 :=
    List.count_eq_zero.mpr fun member => (uncounted _ member).2.2 rfl
  refine ⟨?_, begun, ⟨0, ?_, Nat.zero_le _, failures⟩, ?_, errors, ?_, lengths⟩
  · omega
  · omega
  · omega
  · omega

theorem published_within_wait (length : Duration) {made : List Write}
    (within : made <+: LoopTally.waitWrites length) : Published [.waitEntered length] made := by
  simp only [LoopTally.waitWrites, List.prefix_cons_iff, List.prefix_nil] at within
  obtain rfl | ⟨_, rfl, rfl | ⟨_, rfl, rfl⟩⟩ := within
  · exact published_nil _
  · exact published_of_uncounted (by simp) (Nat.zero_le _) List.nil_prefix List.prefix_rfl
  · exact (settled_writes (.waitEntered length)).published

/-- A failing pass has a moment at which its failure is counted and the pass is not. -/
theorem published_within_pass (outcome : Outcome Unit) {made : List Write}
    (within : made <+: LoopTally.passWrites outcome) : Published [.passEnded outcome] made := by
  have complete : Published [.passEnded outcome] (LoopTally.passWrites outcome) :=
    (settled_writes (.passEnded outcome)).published
  have stamped : Published [.passEnded outcome] [.stampPass] :=
    published_of_uncounted (by simp) (Nat.le_refl 1) List.nil_prefix List.nil_prefix
  rw [LoopTally.passWrites] at within complete
  cases failure : outcome.failure? with
  | none =>
    simp only [failure, List.prefix_cons_iff, List.prefix_nil] at within complete
    obtain rfl | ⟨_, rfl, rfl | ⟨_, rfl, rfl⟩⟩ := within
    · exact published_nil _
    · exact stamped
    · exact complete
  | some cause =>
    have failures : Outcome.failures (outcomes [.passEnded outcome]) = [cause] := by
      simp [outcomes, outcome?, Outcome.failures, failure]
    have explained : [cause.message] <+:
        (Outcome.failures (outcomes [.passEnded outcome])).map UpkeepError.message := by
      rw [failures]
      exact List.prefix_rfl
    simp only [failure, List.prefix_cons_iff, List.prefix_nil] at within complete
    obtain rfl | ⟨_, rfl, rfl | ⟨_, rfl, rfl | ⟨_, rfl, rfl | ⟨_, rfl, rfl⟩⟩⟩⟩ := within
    · exact published_nil _
    · exact stamped
    · exact published_of_uncounted (by simp) (Nat.le_refl 1) explained List.nil_prefix
    · exact
        { stamped := Nat.zero_le _
          begun := Nat.le_refl 1
          failures := ⟨1, Nat.zero_le _, Nat.le_refl 1, (congrArg List.length failures).symm⟩
          explained := Nat.le_refl 1
          errors := explained
          measured := Nat.zero_le _
          lengths := List.nil_prefix }
    · exact complete

/-- In the middle of one label. -/
theorem published_within (label : Label) {made : List Write} (within : made <+: label.writes) :
    Published [label] made := by
  cases label with
  | passEnded outcome => exact published_within_pass outcome within
  | waitEntered length => exact published_within_wait length within
  | stopped =>
    simp only [writes, List.prefix_cons_iff, List.prefix_nil] at within
    obtain rfl | ⟨_, rfl, rfl⟩ := within
    · exact published_nil _
    · exact (settled_writes .stopped).published
  | waitEnded _ =>
    rw [List.prefix_nil.mp within]
    exact published_nil _
  | passStarted =>
    rw [List.prefix_nil.mp within]
    exact published_nil _

/-- However far the loop has got with its writes. -/
theorem published (labels : List Label) {made : List Write}
    (partway : made <+: labels.flatMap writes) : Published labels made := by
  induction labels generalizing made with
  | nil =>
    rw [List.prefix_nil.mp partway]
    exact published_nil []
  | cons label labels ih =>
    rw [List.flatMap_cons] at partway
    obtain inside | ⟨rest, rfl, later⟩ := inside_or_beyond partway
    · exact (label.published_within inside).extend labels
    · exact label.settled_writes.append_published (ih later)

end Label

section

variable {σ : Type} {T : Task σ} {name : String} {task : σ} {l : UpkeepLoop σ}

/-- The waits that a loop still owes to the passes it has run, or to its start. -/
def Phase.owes (waitsFirst : Bool) : Phase → Nat
  | .starting => waitsFirst.toNat
  | .passed => 1
  | _ => 0

namespace UpkeepLoop

/-- A step pays what it owes or runs a pass, and never both. -/
theorem Turn.paced {stopping first : Bool} {phase next : Phase} {labels : List Label}
    (turn : Turn stopping first phase labels next) :
    (Label.waits labels).length + next.owes first =
      (Label.outcomes labels).length + phase.owes first ∧
    (Label.outcomes labels).length + phase.owes first ≤ 1 := by
  cases turn with
  | firstWait waits => subst waits; exact ⟨rfl, Nat.le_refl 1⟩
  | firstPass runs => subst runs; exact ⟨rfl, Nat.zero_le 1⟩
  | nextPass => exact ⟨rfl, Nat.zero_le 1⟩
  | withinPass => exact ⟨rfl, Nat.zero_le 1⟩
  | passEnd => exact ⟨rfl, Nat.le_refl 1⟩
  | laterWait => exact ⟨rfl, Nat.le_refl 1⟩
  | waitEnd => cases stopping <;> exact ⟨rfl, Nat.zero_le 1⟩
  | halt => exact ⟨rfl, Nat.zero_le 1⟩

/-- Whether a loop waits first matters at its start only. -/
theorem Turn.later {stopping first : Bool} {phase next : Phase} {labels : List Label}
    (turn : Turn stopping first phase labels next) (begun : phase ≠ .starting) (second : Bool) :
    Turn stopping second phase labels next := by
  cases turn with
  | firstWait _ => exact absurd rfl begun
  | firstPass _ => exact absurd rfl begun
  | nextPass => exact .nextPass
  | withinPass => exact .withinPass
  | passEnd => exact .passEnd
  | laterWait => exact .laterWait
  | waitEnd => exact .waitEnd
  | halt => exact .halt

/-- A step of a loop on its path, by whether its task asks for a wait before the first pass. -/
theorem Path.turn {stopping : Bool} {state after : SharedState} {next : UpkeepLoop σ}
    (path : Path T (ofTask T name task) l) (step : l.step? T stopping state = some (after, next)) :
    ∃ labels, Turn stopping (T.firstWait task).isSome l.phase labels next.phase ∧
      next.trace = l.trace ++ labels := by
  obtain ⟨labels, turn, trace, -⟩ := (stepped_of_step step).turn
  refine ⟨labels, ?_, trace⟩
  by_cases starting : l.phase = .starting
  · have same : l.task = task := by
      rw [path.eq_of_starting starting]
      rfl
    rwa [same] at turn
  · exact turn.later starting _

theorem Path.paced (path : Path T (ofTask T name task) l) :
    (Label.waits l.trace).length + l.phase.owes (T.firstWait task).isSome =
      (Label.outcomes l.trace).length + (T.firstWait task).isSome.toNat := by
  induction path with
  | nil => rfl
  | snoc path stepped ih =>
    obtain ⟨labels, turn, trace⟩ := path.turn stepped
    obtain ⟨balance, -⟩ := turn.paced
    rw [trace, Label.waits_append, Label.outcomes_append, List.length_append, List.length_append]
    omega

/-- No pass is counted before the wait that it follows. -/
theorem Path.counted_passes_le {made : List Write} (path : Path T (ofTask T name task) l)
    (partway : made <+: l.trace.flatMap Label.writes) :
    made.count .countPass + (T.firstWait task).isSome.toNat ≤ made.count .countWait + 1 := by
  induction path generalizing made with
  | nil =>
    rw [List.prefix_nil.mp partway]
    exact Nat.add_le_add_left (Bool.toNat_le _) 0
  | @snoc _ l next _ _ path stepped ih =>
    obtain ⟨labels, turn, trace⟩ := path.turn stepped
    rw [trace, List.flatMap_append] at partway
    obtain earlier | ⟨rest, rfl, later⟩ := inside_or_beyond partway
    · exact ih earlier
    · have settled := Label.settled l.trace
      have published := Label.published labels later
      have counted := published.stamped.trans published.begun
      have paced := path.paced
      have at_most_one := turn.paced.2
      rw [List.count_append, List.count_append, settled.passes, settled.waited]
      omega

/-- When all writes are made, the statistics are those the loop goes by. -/
theorem Path.tally_eq (path : Path T (ofTask T name task) l) :
    l.unused.applyAll (l.trace.flatMap Label.writes) = l.tally := by
  have counted : ({ worker := name, kind := T.kind task } : LoopTally).applyAll
      (l.trace.flatMap Label.writes) = l.tally := by
    induction path with
    | nil => rfl
    | snoc _ stepped ih =>
      obtain ⟨labels, -, trace, tally⟩ := (stepped_of_step stepped).turn
      rw [tally, trace, LoopTally.foldl_observe, ← ih, List.flatMap_append,
        LoopTally.applyAll_append]
  have same : l.unused = { worker := name, kind := T.kind task } := by
    rw [unused, ← counted, LoopTally.applyAll_eq]
  rw [same, counted]

end UpkeepLoop

end

end TabletUpkeep
