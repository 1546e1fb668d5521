import TabletUpkeep.StopLine

/-! The stop signal by the references that it is made of. Sending ends are counted, and so are the
references to the slot that may hold one: the trigger has a reference and so has every signal, but
none of them has a sending end of its own. A signal looks at the sending ends, the trigger looks
into the slot. Any number of waits may be under way while handles come and go, and time passes
between the events and not in them. -/
namespace TabletUpkeep

/-- A wait on a signal: the nanoseconds it has left, or how it ended. -/
inductive WaitState
  | pending (left : Nat)
  | ended (stopping : Bool)
  deriving DecidableEq, Repr

namespace WaitState

def wake : WaitState → WaitState
  | pending _ => ended true
  | ended stopping => ended stopping

def elapse (nanos : Nat) : WaitState → WaitState
  | pending left => if left ≤ nanos then ended false else pending (left - nanos)
  | ended stopping => ended stopping

end WaitState

/-- The sending ends, whether the slot holds one of them, the references to the slot, the handles,
and all waits ever entered. -/
structure StopChannel where
  senders : Nat := 1
  filled : Bool := true
  references : Nat := 2
  trigger : Bool := true
  signals : Nat := 1
  waits : List WaitState := []
  deriving DecidableEq, Repr

namespace StopChannel

inductive Event
  | fire
  | dropTrigger
  | clone (signal : Nat)
  | wait (signal : Nat) (timeout : Duration)
  | elapse (length : Duration)
  deriving DecidableEq

def isDisconnected (c : StopChannel) : Bool := c.senders == 0

def reports (c : StopChannel) (signal : Nat) : Option Bool :=
  if signal < c.signals then some c.isDisconnected else none

def triggerReports (c : StopChannel) : Option Bool := if c.trigger then some !c.filled else none

/-- One sending end goes, and with the last one all waits end. -/
def dropSender (c : StopChannel) : StopChannel :=
  let senders := c.senders - 1
  { c with senders, waits := if senders = 0 then c.waits.map .wake else c.waits }

def emptySlot (c : StopChannel) : StopChannel :=
  if c.filled then { c with filled := false }.dropSender else c

/-- One reference to the slot goes. The slot goes with the last one, and with it what it holds. -/
def dropReference (c : StopChannel) : StopChannel :=
  let c := { c with references := c.references - 1 }
  if c.references = 0 then c.emptySlot else c

/-- A wait as it begins. It looks at the sending ends before it looks at its time. -/
def enter (c : StopChannel) (timeout : Duration) : WaitState :=
  if c.isDisconnected then .ended true else .elapse 0 (.pending timeout.toNanos)

def act (c : StopChannel) : Event → StopChannel
  | .fire => if c.trigger then c.emptySlot else c
  | .dropTrigger => if c.trigger then { c with trigger := false }.dropReference else c
  | .clone signal =>
    if signal < c.signals then
      { c with signals := c.signals + 1, references := c.references + 1 }
    else c
  | .wait signal timeout =>
    if signal < c.signals then { c with waits := c.waits ++ [c.enter timeout] } else c
  | .elapse length => { c with waits := c.waits.map (.elapse length.toNanos) }

def run (c : StopChannel) (events : List Event) : StopChannel := events.foldl act c

@[simp] theorem run_nil (c : StopChannel) : c.run [] = c := rfl

theorem run_snoc (c : StopChannel) (events : List Event) (e : Event) :
    c.run (events ++ [e]) = (c.run events).act e := by
  simp [run]

theorem run_append (c : StopChannel) (xs ys : List Event) :
    c.run (xs ++ ys) = (c.run xs).run ys := List.foldl_append

/-- The handles and the slot, without the counts behind them. -/
def line (c : StopChannel) : StopLine := ⟨c.filled, c.trigger, c.signals⟩

end StopChannel

namespace StopLine

def meanwhile (timeout : Duration) : Option Duration → List StopChannel.Event
  | none => [.elapse timeout]
  | some delay => [.elapse delay, .fire, .elapse timeout]

/-- An action on a line as events on the channel behind it. A wait of the line is one action from
its beginning to its end, whatever the trigger does meanwhile. -/
def events (l : StopLine) : Action → List StopChannel.Event
  | .fire => [.fire]
  | .dropTrigger => [.dropTrigger]
  | .clone signal => [.clone signal]
  | .wait signal timeout fires =>
    if signal < l.signals then .wait signal timeout :: meanwhile timeout fires else []

def after (l : StopLine) : StopChannel.Event → StopLine
  | .fire => l.fire
  | .dropTrigger => { l with trigger := false }
  | .clone signal => if signal < l.signals then { l with signals := l.signals + 1 } else l
  | .wait _ _ | .elapse _ => l

def allEvents (l : StopLine) : List Action → List StopChannel.Event
  | [] => []
  | a :: rest => l.events a ++ allEvents (l.act a).2 rest

end StopLine

end TabletUpkeep
