import TabletUpkeep.Duration

/-! The stop signal. Nothing is ever sent: the sending end lies in a slot that the trigger and
every signal keep alive, and a signal reports a stop when the sending end is gone. Firing takes
it out of the slot; letting go of the trigger leaves it there. -/
namespace TabletUpkeep

/-- The handles of one trigger: whether it still exists, and how many signals there are. -/
structure StopLine where
  sender : Bool := true
  trigger : Bool := true
  signals : Nat := 1
  deriving DecidableEq, Repr

namespace StopLine

/-- Handles that keep the slot alive. -/
def holders (l : StopLine) : Nat := (if l.trigger then 1 else 0) + l.signals

/-- The sending end is gone when it was taken out or when nobody keeps the slot. -/
def isDisconnected (l : StopLine) : Bool := !l.sender || l.holders == 0

/-- What a signal reports. -/
def reportsStop (l : StopLine) : Bool := l.isDisconnected

/-- What the trigger itself reports, while it exists. -/
def triggerReports (l : StopLine) : Option Bool := if l.trigger then some !l.sender else none

def fire (l : StopLine) : StopLine := if l.trigger then { l with sender := false } else l

inductive Action
  | fire
  | dropTrigger
  | clone (signal : Nat)
  /-- A wait of the given length; `fires` is when the trigger goes off meanwhile, if it does. -/
  | wait (signal : Nat) (timeout : Duration) (fires : Option Duration)
  deriving DecidableEq

inductive Answer
  | done
  | signal (index : Nat)
  | stop (stopping : Bool)
  | noSuchSignal
  deriving DecidableEq, Repr

/-- Whether the trigger goes off before a wait is over. -/
def firesInTime (timeout : Duration) : Option Duration → Bool
  | none => false
  | some delay => delay.toNanos < timeout.toNanos

/-- A wait ends in a stop when there is one already, or when there is one before its time. -/
def waitStops (l : StopLine) (timeout : Duration) (fires : Option Duration) : Bool :=
  l.reportsStop || (l.trigger && firesInTime timeout fires)

def act (l : StopLine) : Action → Answer × StopLine
  | .fire => (.done, l.fire)
  | .dropTrigger => (.done, { l with trigger := false })
  | .clone signal =>
    if signal < l.signals then (.signal l.signals, { l with signals := l.signals + 1 })
    else (.noSuchSignal, l)
  | .wait signal timeout fires =>
    if signal < l.signals then
      (.stop (l.waitStops timeout fires), if fires.isSome then l.fire else l)
    else (.noSuchSignal, l)

def run (l : StopLine) (actions : List Action) : StopLine :=
  actions.foldl (fun l a => (l.act a).2) l

@[simp] theorem run_nil (l : StopLine) : l.run [] = l := rfl

theorem run_cons (l : StopLine) (a : Action) (rest : List Action) :
    l.run (a :: rest) = (l.act a).2.run rest := rfl

end StopLine

end TabletUpkeep
