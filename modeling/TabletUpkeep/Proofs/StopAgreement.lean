import Mathlib
import TabletUpkeep.Proofs.FleetRuns
import TabletUpkeep.StopChannel

/-! One trigger and any number of signals. In every state that can be reached there is one sending
end at most, it is in the slot, and the slot has a reference for each handle, of which one signal
at least is never given back. So all handles report the same: whether the trigger was fired. What a
wait comes to depends on that and on its time, and not on the signal that it is a wait on. -/
namespace TabletUpkeep.StopChannel

/-- The trigger was fired while there was one. -/
def Fired (events : List Event) : Prop :=
  ∃ early later, events = early ++ .fire :: later ∧ .dropTrigger ∉ early

/-- The nanoseconds that pass in an event. -/
def Event.nanos : Event → Nat
  | .elapse length => length.toNanos
  | _ => 0

theorem nanos_elapse (length : Duration) : (Event.elapse length).nanos = length.toNanos := rfl

theorem nanos_fire : Event.fire.nanos = 0 := rfl

def elapsed (events : List Event) : Nat := (events.map Event.nanos).sum

/-- Whether there is a stop for a wait of some nanoseconds that begins after the events `before`
and is followed by the events `after`: there is one already, or there is before its time is over. -/
def StopsInTime (before : List Event) (nanos : Nat) (after : List Event) : Prop :=
  Fired before ∨ ∃ early, early <+: after ∧ elapsed early < nanos ∧ Fired (before ++ early)

theorem fired_snoc (events : List Event) (e : Event) :
    Fired (events ++ [e]) ↔ Fired events ∨ e = .fire ∧ .dropTrigger ∉ events := by
  constructor
  · rintro ⟨early, later, split, kept⟩
    rcases later.eq_nil_or_concat with rfl | ⟨rest, last, rfl⟩
    · obtain ⟨rfl, last⟩ := List.append_inj' split rfl
      obtain rfl : e = .fire := by simpa using last
      exact .inr ⟨rfl, kept⟩
    · rw [List.concat_eq_append, ← List.cons_append, ← List.append_assoc] at split
      obtain ⟨whole, -⟩ := List.append_inj' split rfl
      exact .inl ⟨early, rest, whole, kept⟩
  · rintro (⟨early, later, rfl, kept⟩ | ⟨rfl, kept⟩)
    · exact ⟨early, later ++ [e], by simp, kept⟩
    · exact ⟨events, [], rfl, kept⟩

theorem Fired.append {events : List Event} (fired : Fired events) (later : List Event) :
    Fired (events ++ later) := by
  obtain ⟨early, rest, rfl, kept⟩ := fired
  exact ⟨early, rest ++ later, by simp, kept⟩

theorem not_fired_nil : ¬ Fired [] := by
  rintro ⟨early, later, split, -⟩
  simp at split

theorem not_fired_of_quiet {events : List Event} (quiet : .fire ∉ events) : ¬ Fired events := by
  rintro ⟨early, later, rfl, -⟩
  simp at quiet

theorem elapsed_append (xs ys : List Event) : elapsed (xs ++ ys) = elapsed xs + elapsed ys := by
  simp [elapsed]

theorem elapsed_cons (e : Event) (rest : List Event) :
    elapsed (e :: rest) = e.nanos + elapsed rest := by simp [elapsed]

theorem elapsed_singleton (e : Event) : elapsed [e] = e.nanos := by simp [elapsed]

theorem stopsInTime_nil (entered : List Event) (nanos : Nat) :
    StopsInTime entered nanos [] ↔ Fired entered := by
  constructor
  · rintro (fired | ⟨early, first, -, fired⟩)
    · exact fired
    · rwa [List.prefix_nil.mp first, List.append_nil] at fired
  · exact .inl

theorem stopsInTime_snoc (before after : List Event) (nanos : Nat) (e : Event) :
    StopsInTime before nanos (after ++ [e]) ↔ StopsInTime before nanos after ∨
      elapsed (after ++ [e]) < nanos ∧ Fired (before ++ after ++ [e]) := by
  unfold StopsInTime
  simp only [List.prefix_concat_iff, or_assoc, or_and_right, exists_or, exists_eq_left,
    List.append_assoc]
  exact or_congr_right or_comm

theorem stopsInTime_singleton (entered : List Event) (nanos : Nat) (e : Event) :
    StopsInTime entered nanos [e] ↔
      Fired entered ∨ elapsed [e] < nanos ∧ Fired (entered ++ [e]) := by
  have last := stopsInTime_snoc entered [] nanos e
  rwa [stopsInTime_nil, List.append_nil] at last

/-- One sending end at most, and that in the slot; a reference for each handle. -/
structure Balanced (c : StopChannel) : Prop where
  senders : c.senders = if c.filled then 1 else 0
  references : c.references = (if c.trigger then 1 else 0) + c.signals
  signals : 0 < c.signals

namespace Balanced

variable {c : StopChannel}

theorem isDisconnected (balanced : c.Balanced) : c.isDisconnected = !c.filled := by
  rw [StopChannel.isDisconnected, balanced.senders]
  cases c.filled <;> rfl

/-- The signals keep the slot, so the trigger may go without the sending end. -/
theorem dropReference (balanced : c.Balanced) (present : c.trigger = true) :
    { c with trigger := false }.dropReference =
      { c with trigger := false, references := c.signals } := by
  have references := balanced.references
  have signals := balanced.signals
  rw [present, if_pos rfl] at references
  have others : c.references - 1 = c.signals := by omega
  rw [StopChannel.dropReference]
  simp only [others]
  rw [if_neg (by omega)]

theorem emptySlot (balanced : c.Balanced) (filled : c.filled = true) :
    c.emptySlot = { c with filled := false, senders := 0, waits := c.waits.map .wake } := by
  have senders := balanced.senders
  rw [filled, if_pos rfl] at senders
  rw [StopChannel.emptySlot, if_pos filled, dropSender]
  simp [senders]

end Balanced

/-- All that an event can do to a balanced channel. -/
inductive Acted (c : StopChannel) : Event → StopChannel → Prop
  | fired : c.trigger = true → c.filled = true →
      Acted c .fire { c with filled := false, senders := 0, waits := c.waits.map .wake }
  | refired : c.filled = false → Acted c .fire c
  | unheard : c.trigger = false → Acted c .fire c
  | dropped : c.trigger = true →
      Acted c .dropTrigger { c with trigger := false, references := c.signals }
  | redropped : c.trigger = false → Acted c .dropTrigger c
  | cloned {signal : Nat} : signal < c.signals → Acted c (.clone signal)
      { c with signals := c.signals + 1, references := c.references + 1 }
  | uncloned {signal : Nat} : ¬ signal < c.signals → Acted c (.clone signal) c
  | waited {signal : Nat} {timeout : Duration} : signal < c.signals →
      Acted c (.wait signal timeout) { c with waits := c.waits ++ [c.enter timeout] }
  | unwaited {signal : Nat} {timeout : Duration} : ¬ signal < c.signals →
      Acted c (.wait signal timeout) c
  | elapsed {length : Duration} :
      Acted c (.elapse length) { c with waits := c.waits.map (.elapse length.toNanos) }

theorem Balanced.acted {c : StopChannel} (balanced : c.Balanced) (e : Event) :
    Acted c e (c.act e) := by
  cases e with
  | fire =>
    rw [act]
    cases present : c.trigger with
    | false => exact .unheard present
    | true =>
      cases filled : c.filled with
      | false =>
        rw [if_pos rfl, StopChannel.emptySlot, filled]
        exact .refired filled
      | true =>
        rw [if_pos rfl, balanced.emptySlot filled]
        exact .fired present filled
  | dropTrigger =>
    rw [act]
    cases present : c.trigger with
    | false => exact .redropped present
    | true =>
      rw [if_pos rfl, balanced.dropReference present]
      exact .dropped present
  | clone signal =>
    rw [act]
    split
    next valid => exact .cloned valid
    next invalid => exact .uncloned invalid
  | wait signal timeout =>
    rw [act]
    split
    next valid => exact .waited valid
    next invalid => exact .unwaited invalid
  | elapse length => exact .elapsed

/-- A balanced channel whose slot and trigger tell of the events so far. -/
structure Tells (events : List Event) (c : StopChannel) : Prop extends Balanced c where
  filled : c.filled = false ↔ Fired events
  trigger : c.trigger = true ↔ .dropTrigger ∉ events

theorem Tells.act {events : List Event} {c : StopChannel} (tells : Tells events c) (e : Event) :
    Tells (events ++ [e]) (c.act e) := by
  obtain ⟨⟨senders, references, signals⟩, filled, trigger⟩ := tells
  have possible := Balanced.acted ⟨senders, references, signals⟩ e
  generalize c.act e = next at possible ⊢
  have quiet (other : e ≠ .fire) : c.filled = false ↔ Fired (events ++ [e]) := by
    rw [fired_snoc, filled]
    simp [other]
  have kept (other : e ≠ .dropTrigger) : c.trigger = true ↔ .dropTrigger ∉ events ++ [e] := by
    rw [trigger, List.mem_append, List.mem_singleton]
    simp [other.symm]
  cases possible with
  | fired present full =>
    refine ⟨⟨rfl, references, signals⟩, ?_, kept nofun⟩
    exact ⟨fun _ => (fired_snoc _ _).mpr (.inr ⟨rfl, trigger.mp present⟩), fun _ => rfl⟩
  | refired gone =>
    refine ⟨⟨senders, references, signals⟩, ?_, kept nofun⟩
    exact ⟨fun _ => (filled.mp gone).append _, fun _ => gone⟩
  | unheard absent =>
    refine ⟨⟨senders, references, signals⟩, ?_, kept nofun⟩
    have dropped : .dropTrigger ∈ events := by simpa [absent] using trigger
    rw [fired_snoc, filled]
    simp [dropped]
  | dropped _ =>
    exact ⟨⟨senders, (Nat.zero_add _).symm, signals⟩, quiet nofun, by simp⟩
  | redropped absent =>
    exact ⟨⟨senders, references, signals⟩, quiet nofun, by simp [absent]⟩
  | cloned _ =>
    exact ⟨⟨senders, congrArg (· + 1) references, Nat.succ_pos _⟩, quiet nofun, kept nofun⟩
  | uncloned _ => exact ⟨⟨senders, references, signals⟩, quiet nofun, kept nofun⟩
  | waited _ => exact ⟨⟨senders, references, signals⟩, quiet nofun, kept nofun⟩
  | unwaited _ => exact ⟨⟨senders, references, signals⟩, quiet nofun, kept nofun⟩
  | elapsed => exact ⟨⟨senders, references, signals⟩, quiet nofun, kept nofun⟩

theorem run_tells (events : List Event) : Tells events (run {} events) := by
  induction events using List.reverseRecOn with
  | nil => exact ⟨⟨rfl, rfl, Nat.one_pos⟩, by simp [not_fired_nil], by simp⟩
  | append_singleton events e ih =>
    rw [run_snoc]
    exact ih.act e

theorem Tells.isDisconnected_iff {events : List Event} {c : StopChannel} (tells : Tells events c) :
    c.isDisconnected = true ↔ Fired events := by
  rw [tells.isDisconnected, Bool.not_eq_true', tells.filled]

/-- Nothing takes back a signal. -/
theorem signals_le (events later : List Event) :
    (run {} events).signals ≤ (run {} (events ++ later)).signals := by
  induction later using List.reverseRecOn with
  | nil => rw [List.append_nil]
  | append_singleton later e ih =>
    rw [← List.append_assoc, run_snoc]
    have possible := (run_tells (events ++ later)).acted e
    generalize (run {} (events ++ later)).act e = next at possible ⊢
    cases possible with
    | cloned _ => exact Nat.le_succ_of_le ih
    | fired _ _ => exact ih
    | refired _ => exact ih
    | unheard _ => exact ih
    | dropped _ => exact ih
    | redropped _ => exact ih
    | uncloned _ => exact ih
    | waited _ => exact ih
    | unwaited _ => exact ih
    | elapsed => exact ih

/-- Where a wait of some nanoseconds stands, after the events `entered` up to its beginning and the
events `after` that have followed. -/
def WaitFollows (entered : List Event) (nanos : Nat) (after : List Event) : WaitState → Prop
  | .ended true => StopsInTime entered nanos after
  | .ended false => ¬ StopsInTime entered nanos after ∧ nanos ≤ elapsed after
  | .pending left => ¬ StopsInTime entered nanos after ∧ ¬ Fired (entered ++ after) ∧
      0 < left ∧ left + elapsed after = nanos

section

variable {entered after : List Event} {nanos : Nat}

theorem elapsed_snoc_le (after : List Event) (e : Event) :
    elapsed after ≤ elapsed (after ++ [e]) := by
  rw [elapsed_append]
  exact Nat.le_add_right _ _

theorem StopsInTime.later (stops : StopsInTime entered nanos after) (e : Event) :
    StopsInTime entered nanos (after ++ [e]) :=
  (stopsInTime_snoc entered after nanos e).mpr (.inl stops)

/-- What comes after the time of a wait is over does not stop it. -/
theorem not_stopsInTime_later (unstopped : ¬ StopsInTime entered nanos after)
    (passed : nanos ≤ elapsed after) (e : Event) : ¬ StopsInTime entered nanos (after ++ [e]) := by
  have longer := elapsed_snoc_le after e
  rw [stopsInTime_snoc]
  rintro (before | ⟨early, -⟩)
  · exact unstopped before
  · omega

/-- A wait that has ended stays as it is. -/
theorem WaitFollows.ended {stopping : Bool}
    (follows : WaitFollows entered nanos after (.ended stopping)) (e : Event) :
    WaitFollows entered nanos (after ++ [e]) (.ended stopping) := by
  cases stopping with
  | true => exact StopsInTime.later follows e
  | false =>
    obtain ⟨unstopped, passed⟩ := follows
    exact ⟨not_stopsInTime_later unstopped passed e, passed.trans (elapsed_snoc_le after e)⟩

/-- An event that neither fires the trigger nor takes time leaves a wait as it is. -/
theorem WaitFollows.still {w : WaitState} (follows : WaitFollows entered nanos after w) {e : Event}
    (instant : elapsed [e] = 0)
    (unfired : Fired (entered ++ after ++ [e]) → Fired (entered ++ after)) :
    WaitFollows entered nanos (after ++ [e]) w := by
  cases w with
  | ended stopping => exact follows.ended e
  | pending left =>
    obtain ⟨unstopped, quiet, positive, rest⟩ := follows
    have calm : ¬ Fired (entered ++ after ++ [e]) := fun fired => quiet (unfired fired)
    refine ⟨?_, by rwa [← List.append_assoc], positive, ?_⟩
    · rw [stopsInTime_snoc]
      rintro (before | ⟨-, fired⟩)
      · exact unstopped before
      · exact calm fired
    · rw [elapsed_append, instant, Nat.add_zero, rest]

theorem WaitFollows.wake {w : WaitState} (follows : WaitFollows entered nanos after w)
    (fired : Fired (entered ++ after ++ [.fire])) :
    WaitFollows entered nanos (after ++ [.fire]) w.wake := by
  cases w with
  | ended stopping => exact follows.ended .fire
  | pending left =>
    obtain ⟨-, -, positive, rest⟩ := follows
    refine (stopsInTime_snoc entered after nanos .fire).mpr (.inr ⟨?_, fired⟩)
    rw [elapsed_append]
    change elapsed after + 0 < nanos
    omega

theorem WaitFollows.elapse {w : WaitState} (follows : WaitFollows entered nanos after w)
    (length : Duration) :
    WaitFollows entered nanos (after ++ [.elapse length]) (w.elapse length.toNanos) := by
  cases w with
  | ended stopping => exact follows.ended (.elapse length)
  | pending left =>
    obtain ⟨unstopped, quiet, positive, rest⟩ := follows
    have calm : ¬ Fired (entered ++ after ++ [.elapse length]) := by
      rw [fired_snoc]
      simpa using quiet
    have still : ¬ StopsInTime entered nanos (after ++ [.elapse length]) := by
      rw [stopsInTime_snoc]
      rintro (before | ⟨-, fired⟩)
      · exact unstopped before
      · exact calm fired
    have passed : elapsed (after ++ [.elapse length]) = elapsed after + length.toNanos := by
      rw [elapsed_append, elapsed_singleton, Event.nanos]
    rw [WaitState.elapse]
    split
    next due => exact ⟨still, by omega⟩
    next => exact ⟨still, by rwa [← List.append_assoc], by omega, by omega⟩

theorem Tells.enter {before : List Event} {c : StopChannel} (tells : Tells before c)
    (signal : Nat) (timeout : Duration) :
    WaitFollows (before ++ [.wait signal timeout]) timeout.toNanos [] (c.enter timeout) := by
  have same : Fired (before ++ [.wait signal timeout]) ↔ c.filled = false := by
    rw [fired_snoc, tells.filled]
    simp
  rw [StopChannel.enter, tells.isDisconnected]
  cases filled : c.filled with
  | false => exact .inl (same.mpr filled)
  | true =>
    have quiet : ¬ Fired (before ++ [.wait signal timeout]) := by simp [same, filled]
    have unstopped : ¬ StopsInTime (before ++ [.wait signal timeout]) timeout.toNanos [] := by
      rwa [stopsInTime_nil]
    rw [if_neg (by decide), WaitState.elapse]
    split
    next passed => exact ⟨unstopped, passed⟩
    next => exact ⟨unstopped, by rwa [List.append_nil], by omega, by simp [elapsed]⟩

/-- One event, seen from a wait. -/
theorem Tells.act_wait {c : StopChannel} (tells : Tells (entered ++ after) c) {slot : Nat}
    {w : WaitState} (found : c.waits[slot]? = some w) (follows : WaitFollows entered nanos after w)
    (e : Event) : ∃ next, (c.act e).waits[slot]? = some next ∧
      WaitFollows entered nanos (after ++ [e]) next := by
  have told := (tells.act e).filled
  have possible := tells.acted e
  have quiet (other : e ≠ .fire) :
      Fired (entered ++ after ++ [e]) → Fired (entered ++ after) := by
    rw [fired_snoc]
    simp [other]
  generalize c.act e = result at told possible ⊢
  cases possible with
  | fired _ _ => exact ⟨w.wake, by simp [found], follows.wake (told.mp rfl)⟩
  | elapsed => exact ⟨_, by simp [found], follows.elapse _⟩
  | refired gone => exact ⟨w, found, follows.still rfl fun _ => tells.filled.mp gone⟩
  | unheard absent =>
    refine ⟨w, found, follows.still rfl fun fired => ?_⟩
    exact tells.filled.mp (told.mpr fired)
  | dropped _ => exact ⟨w, found, follows.still rfl (quiet nofun)⟩
  | redropped _ => exact ⟨w, found, follows.still rfl (quiet nofun)⟩
  | cloned _ => exact ⟨w, found, follows.still rfl (quiet nofun)⟩
  | uncloned _ => exact ⟨w, found, follows.still rfl (quiet nofun)⟩
  | waited _ =>
    have bound := (List.getElem?_eq_some_iff.mp found).1
    exact ⟨w, (List.getElem?_append_left bound).trans found, follows.still rfl (quiet nofun)⟩
  | unwaited _ => exact ⟨w, found, follows.still rfl (quiet nofun)⟩

/-- A wait on whatever signal follows the trigger and its own time, from its beginning on. -/
theorem wait_follows (before : List Event) {signal : Nat} (timeout : Duration) (after : List Event)
    (valid : signal < (run {} before).signals) :
    ∃ w, (run {} (before ++ .wait signal timeout :: after)).waits[(run {} before).waits.length]? =
        some w ∧
      WaitFollows (before ++ [.wait signal timeout]) timeout.toNanos after w := by
  rw [List.append_cons]
  induction after using List.reverseRecOn with
  | nil =>
    refine ⟨(run {} before).enter timeout, ?_, (run_tells before).enter signal timeout⟩
    rw [List.append_nil, run_snoc, act, if_pos valid]
    simp
  | append_singleton after e ih =>
    obtain ⟨w, found, follows⟩ := ih
    rw [← List.append_assoc, run_snoc]
    exact (run_tells _).act_wait found follows e

end

/-- Without a firing no wait ends in a stop, whatever becomes of the trigger. -/
theorem not_ended_of_quiet {events : List Event} (quiet : .fire ∉ events) :
    .ended true ∉ (run {} events).waits := by
  induction events using List.reverseRecOn with
  | nil => exact List.not_mem_nil
  | append_singleton events e ih =>
    rw [List.mem_append, List.mem_singleton, not_or] at quiet
    have so_far := ih quiet.1
    have tells := run_tells events
    have connected : (run {} events).isDisconnected = false :=
      Bool.eq_false_iff.mpr (mt tells.isDisconnected_iff.mp (not_fired_of_quiet quiet.1))
    have possible := tells.acted e
    rw [run_snoc]
    generalize (run {} events).act e = next at possible ⊢
    cases possible with
    | fired _ _ => exact absurd rfl quiet.2
    | refired _ => exact so_far
    | unheard _ => exact so_far
    | dropped _ => exact so_far
    | redropped _ => exact so_far
    | cloned _ => exact so_far
    | uncloned _ => exact so_far
    | unwaited _ => exact so_far
    | waited _ =>
      rw [List.mem_append, List.mem_singleton, enter, connected, if_neg (by decide)]
      rintro (before | now)
      · exact so_far before
      · rw [WaitState.elapse] at now
        split at now <;> cases now
    | elapsed =>
      rw [List.mem_map]
      rintro ⟨w, member, ended⟩
      cases w with
      | ended stopping =>
        cases ended
        exact so_far member
      | pending left =>
        rw [WaitState.elapse] at ended
        split at ended <;> cases ended

section

/-- The counts change nothing of what an event does to the handles and the slot. -/
theorem Balanced.line_act {c : StopChannel} (balanced : c.Balanced) (e : Event) :
    (c.act e).line = c.line.after e := by
  have possible := balanced.acted e
  generalize c.act e = next at possible ⊢
  cases possible with
  | fired present _ => simp [line, StopLine.after, StopLine.fire, present]
  | refired gone =>
    cases present : c.trigger <;> simp [line, StopLine.after, StopLine.fire, present, gone]
  | unheard absent => simp [line, StopLine.after, StopLine.fire, absent]
  | dropped _ => rfl
  | redropped absent => simp [line, StopLine.after, absent]
  | cloned valid => simp [line, StopLine.after, valid]
  | uncloned invalid => simp [line, StopLine.after, invalid]
  | waited _ => rfl
  | unwaited _ => rfl
  | elapsed => rfl

theorem line_append (events later : List Event) :
    (run {} (events ++ later)).line = later.foldl StopLine.after (run {} events).line := by
  induction later using List.reverseRecOn with
  | nil => rw [List.append_nil, List.foldl_nil]
  | append_singleton later e ih =>
    rw [← List.append_assoc, run_snoc, (run_tells _).line_act, ih, List.foldl_append]
    rfl

/-- The events of an action do to the handles and the slot what the action does to the line. -/
theorem foldl_events (l : StopLine) (a : StopLine.Action) :
    (l.events a).foldl StopLine.after l = (l.act a).2 := by
  cases a with
  | fire => rfl
  | dropTrigger => rfl
  | clone signal =>
    simp only [StopLine.events, StopLine.act, List.foldl_cons, List.foldl_nil, StopLine.after]
    split <;> rfl
  | wait signal timeout fires =>
    simp only [StopLine.events, StopLine.act]
    split
    · cases fires <;> rfl
    · rfl

theorem allEvents_append (l : StopLine) (xs ys : List StopLine.Action) :
    l.allEvents (xs ++ ys) = l.allEvents xs ++ (l.run xs).allEvents ys := by
  induction xs generalizing l with
  | nil => rfl
  | cons a rest ih =>
    rw [List.cons_append, StopLine.allEvents, StopLine.allEvents, ih, List.append_assoc,
      StopLine.run_cons]

theorem allEvents_snoc (l : StopLine) (actions : List StopLine.Action) (a : StopLine.Action) :
    l.allEvents (actions ++ [a]) = l.allEvents actions ++ (l.run actions).events a := by
  simp [allEvents_append, StopLine.allEvents]

/-- The line is what the channel shows of its handles and its slot. -/
theorem line_allEvents (actions : List StopLine.Action) :
    (run {} (StopLine.allEvents {} actions)).line = StopLine.run {} actions := by
  induction actions using List.reverseRecOn with
  | nil => rfl
  | append_singleton actions a ih =>
    rw [allEvents_snoc, line_append, ih, foldl_events]
    simp [StopLine.run]

theorem line_reports (events : List Event) :
    (run {} events).line.reportsStop = (run {} events).isDisconnected := by
  have tells := run_tells events
  rw [StopLine.reportsStop_eq tells.signals, tells.isDisconnected]
  rfl

theorem elapsed_none (timeout : Duration) :
    elapsed (StopLine.meanwhile timeout none) = timeout.toNanos := by
  rw [StopLine.meanwhile, elapsed_singleton, Event.nanos]

theorem elapsed_some (timeout delay : Duration) :
    elapsed (StopLine.meanwhile timeout (some delay)) = delay.toNanos + timeout.toNanos := by
  rw [StopLine.meanwhile, elapsed_cons, elapsed_cons, elapsed_singleton, nanos_elapse, nanos_fire,
    nanos_elapse, Nat.zero_add]

theorem le_elapsed_meanwhile (timeout : Duration) (fires : Option Duration) :
    timeout.toNanos ≤ elapsed (StopLine.meanwhile timeout fires) := by
  cases fires with
  | none => exact (elapsed_none timeout).ge
  | some delay =>
    rw [elapsed_some]
    exact Nat.le_add_left _ _

/-- Within a wait of the line there is a stop when the line says so. -/
theorem stopsInTime_meanwhile {before : List Event} {c : StopChannel} (tells : Tells before c)
    (signal : Nat) (timeout : Duration) (fires : Option Duration) :
    StopsInTime (before ++ [.wait signal timeout]) timeout.toNanos
        (StopLine.meanwhile timeout fires) ↔
      c.line.waitStops timeout fires = true := by
  have reported : c.line.reportsStop = true ↔ Fired before := by
    rw [StopLine.reportsStop_eq tells.signals, ← tells.filled, Bool.not_eq_true']
    rfl
  have whole := elapsed_none timeout
  rw [StopLine.waitStops, Bool.or_eq_true, Bool.and_eq_true, reported]
  cases fires with
  | none =>
    rw [StopLine.meanwhile] at whole ⊢
    rw [stopsInTime_singleton, whole]
    simp [fired_snoc, StopLine.firesInTime]
  | some delay =>
    have split : StopLine.meanwhile timeout (some delay) =
        [.elapse delay] ++ [.fire] ++ [.elapse timeout] := rfl
    have longer := elapsed_some timeout delay
    have present : c.line.trigger = true ↔ .dropTrigger ∉ before := tells.trigger
    rw [split] at longer ⊢
    rw [stopsInTime_snoc, stopsInTime_snoc, stopsInTime_singleton, longer, elapsed_append,
      elapsed_singleton, elapsed_singleton, present]
    simp only [fired_snoc, nanos_elapse, nanos_fire, Nat.add_zero, StopLine.firesInTime,
      decide_eq_true_iff]
    generalize delay.toNanos = d
    generalize timeout.toNanos = t
    have never : ¬ d + t < t := by omega
    simp only [never, false_and, or_false, List.mem_append, List.mem_singleton, reduceCtorEq,
      true_and]
    tauto

end

/-- A wait of the line ends as the wait on the channel does. -/
theorem line_wait (before : List Event) {signal : Nat} (timeout : Duration)
    (fires : Option Duration) (valid : signal < (run {} before).signals) :
    let c := run {} before
    (c.run (c.line.events (.wait signal timeout fires))).waits[c.waits.length]? =
      some (.ended (c.line.waitStops timeout fires)) := by
  intro c
  have tells : Tells before c := run_tells before
  have opened : c.line.events (.wait signal timeout fires) =
      .wait signal timeout :: StopLine.meanwhile timeout fires := if_pos valid
  rw [opened, ← run_append]
  obtain ⟨w, found, follows⟩ :=
    wait_follows before timeout (StopLine.meanwhile timeout fires) valid
  rw [found]
  have decided := stopsInTime_meanwhile tells signal timeout fires
  have whole := le_elapsed_meanwhile timeout fires
  cases w with
  | pending left =>
    obtain ⟨-, -, positive, rest⟩ := follows
    omega
  | ended stopping =>
    cases stopping with
    | true => rw [decided.mp follows]
    | false => rw [Bool.eq_false_iff.mpr (mt decided.mpr follows.1)]

theorem wait_stops_iff (before : List Event) {signal : Nat} (timeout : Duration)
    (after : List Event) (valid : signal < (run {} before).signals) :
    let entered := before ++ [.wait signal timeout]
    let c := run {} (before ++ .wait signal timeout :: after)
    let wait := c.waits[(run {} before).waits.length]?
    (wait = some (.ended true) ↔ StopsInTime entered timeout.toNanos after) ∧
    (wait = some (.ended false) ↔
      ¬ StopsInTime entered timeout.toNanos after ∧ timeout.toNanos ≤ elapsed after) := by
  obtain ⟨w, found, follows⟩ := wait_follows before timeout after valid
  dsimp only
  rw [found]
  cases w with
  | pending left =>
    obtain ⟨unstopped, -, positive, rest⟩ := follows
    have under : ¬ timeout.toNanos ≤ elapsed after := by omega
    simp [unstopped, under]
  | ended stopping =>
    cases stopping with
    | true =>
      have stops : StopsInTime _ _ _ := follows
      simp [stops]
    | false =>
      obtain ⟨unstopped, passed⟩ := follows
      simp [unstopped, passed]

/-- Whatever is done with the trigger and the signals, in whatever order and however long the waits
are, all handles report the same: whether the trigger was fired. Once they do, they go on to. A wait
on any signal ends in a stop when there is a stop as it begins or before its time is over, and
without one when its time is over before. A new signal is one like the old. Where the trigger is
never fired nobody is told to stop, even after it has been let go of. And the line shows what the
channel does, for its handles and for its waits. -/
theorem signals_agree (events : List Event) :
    let c := run {} events
    (∃ stopping : Bool, (stopping = true ↔ Fired events) ∧
      (∀ signal < c.signals, c.reports signal = some stopping) ∧
      c.triggerReports = if .dropTrigger ∈ events then none else some stopping) ∧
    (∀ before, before <+: events → ∀ signal,
      (run {} before).reports signal = some true → c.reports signal = some true) ∧
    (∀ before signal timeout after, events = before ++ .wait signal timeout :: after →
      signal < (run {} before).signals →
      let entered := before ++ [.wait signal timeout]
      let wait := c.waits[(run {} before).waits.length]?
      (wait = some (.ended true) ↔ StopsInTime entered timeout.toNanos after) ∧
      (wait = some (.ended false) ↔
        ¬ StopsInTime entered timeout.toNanos after ∧ timeout.toNanos ≤ elapsed after)) ∧
    (∀ before signal after, events = before ++ .clone signal :: after →
      signal < (run {} before).signals →
      (run {} before).signals < c.signals ∧
      c.reports (run {} before).signals = c.reports signal) ∧
    (.fire ∉ events → (∀ signal, c.reports signal ≠ some true) ∧ .ended true ∉ c.waits) ∧
    (∀ actions, events = StopLine.allEvents {} actions →
      let l := StopLine.run {} actions
      c.line = l ∧ l.reportsStop = c.isDisconnected ∧ l.triggerReports = c.triggerReports ∧
      ∀ signal timeout fires, signal < l.signals →
        ∃ stopping, (l.act (.wait signal timeout fires)).1 = .stop stopping ∧
          (c.run (l.events (.wait signal timeout fires))).waits[c.waits.length]? =
            some (.ended stopping)) := by
  intro c
  have tells : Tells events c := run_tells events
  have reports : ∀ signal < c.signals, c.reports signal = some c.isDisconnected :=
    fun signal valid => if_pos valid
  have stopping : c.isDisconnected = true ↔ Fired events := tells.isDisconnected_iff
  refine ⟨⟨c.isDisconnected, stopping, reports, ?_⟩, ?_, ?_, ?_, ?_, ?_⟩
  · rw [triggerReports, tells.isDisconnected]
    have present := tells.trigger
    split_ifs with kept dropped dropped <;> simp_all
  · rintro before ⟨later, rfl⟩ signal reported
    have early := run_tells before
    have valid : signal < (run {} before).signals := by
      by_contra invalid
      rw [StopChannel.reports, if_neg invalid] at reported
      cases reported
    rw [StopChannel.reports, if_pos valid, Option.some_inj, early.isDisconnected_iff] at reported
    rw [reports signal (valid.trans_le (signals_le before later)),
      stopping.mpr (reported.append later)]
  · rintro before signal timeout after rfl valid
    exact wait_stops_iff before timeout after valid
  · rintro before signal after rfl valid
    have cloned : (run {} before).signals < c.signals := by
      have later := signals_le (before ++ [.clone signal]) after
      rw [run_snoc, act, if_pos valid, List.append_assoc] at later
      exact later
    exact ⟨cloned, (reports _ cloned).trans (reports _ (valid.trans cloned)).symm⟩
  · intro quiet
    refine ⟨fun signal reported => ?_, not_ended_of_quiet quiet⟩
    rw [StopChannel.reports] at reported
    split at reported
    · exact not_fired_of_quiet quiet (stopping.mp (Option.some.inj reported))
    · cases reported
  · rintro actions rfl
    have same : c.line = StopLine.run {} actions := line_allEvents actions
    rw [← same]
    refine ⟨rfl, line_reports _, rfl, fun signal timeout fires valid => ?_⟩
    refine ⟨c.line.waitStops timeout fires, ?_, ?_⟩
    · exact congrArg Prod.fst (if_pos valid)
    · exact line_wait _ timeout fires valid

/-- A wait on a clone is woken, one of the original has timed out before that, and the clone of a
clone that is made after all this stops at once. The trigger is gone by then. -/
theorem woken_and_timed_out :
    let events : List Event := [.clone 0, .wait 1 (.ofSecs 60), .wait 0 (.ofSecs 1),
      .elapse (.ofSecs 1), .fire, .dropTrigger, .clone 1, .wait 2 .zero]
    let c := run {} events
    c.reports 0 = some true ∧ c.reports 2 = some true ∧ c.triggerReports = none ∧
    c.waits[0]? = some (.ended true) ∧
    ¬ StopsInTime (events.take 3) (Duration.ofSecs 1).toNanos (events.drop 3) ∧
    c.waits[2]? = some (.ended true) := by
  intro events c
  have fired : Fired events := ⟨events.take 4, events.drop 5, rfl, by decide⟩
  have woken : Fired (events.take 5) := ⟨events.take 4, [], rfl, by decide⟩
  obtain ⟨⟨stopping, told, reports, trigger⟩, -, waits, clones, -, -⟩ := signals_agree events
  obtain ⟨cloned, alike⟩ := clones (events.take 6) 1 (events.drop 7) rfl (by decide)
  rw [told.mpr fired] at reports trigger
  have original := reports 0 (by decide)
  have copy : c.reports 2 = some true := reports 2 cloned
  have first := (waits (events.take 1) 1 (.ofSecs 60) (events.drop 2) rfl (by decide)).1
  have second := (waits (events.take 2) 0 (.ofSecs 1) (events.drop 3) rfl (by decide)).2
  have third := (waits (events.take 7) 2 .zero [] rfl (by decide)).1
  refine ⟨original, copy, trigger, first.mpr (.inr ?_), (second.mp (by decide)).1,
    third.mpr (.inl ?_)⟩
  · exact ⟨(events.drop 2).take 3, List.take_prefix _ _, by decide, woken⟩
  · exact ⟨events.take 4, (events.drop 5).take 2 ++ [.wait 2 .zero], rfl, by decide⟩

end TabletUpkeep.StopChannel
