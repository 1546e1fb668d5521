import TabletUpkeep.Duty.Worker

/-! Collaborators that compact under claims. For each compaction a worker tries tablets in turn,
keeps the first one that it is granted to itself until its work is done, and reports a busy tablet
when it is granted none. However the work ends, the claim is given back before the call returns.
Each claim, each step of the work and each release is a step of its own. What the worker tries, and
how its work ends, is laid down beforehand for the first compaction, the second, and so on. -/
namespace TabletUpkeep

/-- A compaction that has something to try: the tablets in turn, the text of the report if all of
them are taken, and for the one that is granted the steps of the work and its ending. -/
structure Search where
  tablets : List Tablet
  busyText : String
  work : Nat
  ending : Outcome Float

inductive Errand
  | nothing
  | search (plan : Search)

inductive Stage
  | idle
  | searching (plan : Search)
  | working (tablet : Tablet) (left : Nat) (ending : Outcome Float)
  | returning (ending : Outcome Float)

/-- How the compactions of a worker ended: with nothing to complain of, with all tablets taken, and
with a failure or a panic of the work on a granted one. -/
structure Ledger where
  settled : Nat := 0
  busy : Nat := 0
  failed : Nat := 0
  deriving DecidableEq, Repr

structure Claimant where
  errand : Nat → Errand
  /-- Why a binding is refused, if it is. -/
  refusal : Nat → Option UpkeepError
  errands : Nat := 0
  bindings : Nat := 0
  stage : Stage := .idle
  ledger : Ledger := {}

def Stage.tablet? : Stage → Option Tablet
  | working tablet _ _ => some tablet
  | _ => none

namespace Claimant

/-- Having nothing to compact is no failure. -/
def settles : Outcome Float → Bool
  | .ok _ | .error .noCandidate => true
  | .error _ | .panic _ => false

def conclude (ledger : Ledger) (ending : Outcome Float) : Ledger :=
  if settles ending then { ledger with settled := ledger.settled + 1 }
  else { ledger with failed := ledger.failed + 1 }

def compact (tier : Tier) (state : SharedState) (c : Claimant) : CallStep Claimant :=
  match c.stage with
  | .idle =>
    match c.errand c.errands with
    | .nothing =>
      { own := { c with errands := c.errands + 1
                        ledger := { c.ledger with settled := c.ledger.settled + 1 } }
        state, answer := some (.error .noCandidate) }
    | .search plan =>
      { own := { c with errands := c.errands + 1, stage := .searching plan }
        state, answer := none }
  | .searching plan =>
    match plan.tablets with
    | [] =>
      { own := { c with stage := .idle, ledger := { c.ledger with busy := c.ledger.busy + 1 } }
        state, answer := some (.error (.tabletBusy plan.busyText)) }
    | tablet :: others =>
      match state.claims.claim? (tier, tablet) with
      | some claims =>
        { own := { c with stage := .working tablet plan.work plan.ending }
          state := { state with claims }, answer := none }
      | none =>
        { own := { c with stage := .searching { plan with tablets := others } }
          state, answer := none }
  | .working tablet (left + 1) ending =>
    { own := { c with stage := .working tablet left ending }, state, answer := none }
  | .working tablet 0 ending =>
    { own := { c with stage := .returning ending }
      state := { state with claims := state.claims.release (tier, tablet) }, answer := none }
  | .returning ending =>
    { own := { c with stage := .idle, ledger := conclude c.ledger ending }
      state, answer := some ending }

/-- The resource group takes the worker or refuses it, and never panics. -/
def bind (state : SharedState) (c : Claimant) : CallStep Claimant where
  own := { c with bindings := c.bindings + 1 }
  state
  answer := some <|
    match c.refusal c.bindings with
    | none => .ok 0.0
    | some cause => .error cause

/-- Compaction workers make no other calls. -/
def step (call : Call) (state : SharedState) (c : Claimant) : Option (CallStep Claimant) :=
  match call with
  | .compactBase => some (c.compact .base state)
  | .compactCumulative => some (c.compact .cumulative state)
  | .bindToGroup => some (c.bind state)
  | _ => none

theorem step_compact (tier : Tier) (state : SharedState) (c : Claimant) :
    step (.compact tier) state c = some (c.compact tier state) := by
  cases tier <;> rfl

def collaborators : Collaborators Claimant := ⟨step⟩

end Claimant

def Worker.holding (w : Worker Claimant) : Option ClaimKey :=
  match w.duty with
  | .compaction work => w.own.stage.tablet?.map fun tablet => (work.tier, tablet)
  | _ => none

end TabletUpkeep
