import TabletUpkeep.Tablet.Basic

/-! Exclusive claims on a tablet within a tier. The set of claimed pairs knows nothing of who
holds them; the desk beside it remembers what every attempt was granted, and releases a claim at
most once. -/
namespace TabletUpkeep

abbrev ClaimKey := Tier × Tablet

structure Claims where
  held : List ClaimKey := []
  deriving DecidableEq, Repr

namespace Claims

def isHeld (c : Claims) (key : ClaimKey) : Bool := c.held.contains key

/-- The claims with one more, unless the pair is held. -/
def claim? (c : Claims) (key : ClaimKey) : Option Claims :=
  if c.isHeld key then none else some ⟨key :: c.held⟩

def release (c : Claims) (key : ClaimKey) : Claims := ⟨c.held.erase key⟩

def size (c : Claims) : Nat := c.held.length

end Claims

/-- The claims with the slots of all attempts: what a slot still holds, if anything. -/
structure ClaimDesk where
  claims : Claims := {}
  slots : List (Option ClaimKey) := []
  deriving DecidableEq, Repr

namespace ClaimDesk

inductive Action
  | claim (key : ClaimKey)
  | release (slot : Nat)
  | isHeld (key : ClaimKey)
  deriving DecidableEq, Repr

/-- Whether the claim was granted, the slot held one, or the pair is claimed. -/
def act (d : ClaimDesk) : Action → Bool × ClaimDesk
  | .claim key =>
    match d.claims.claim? key with
    | some claims => (true, ⟨claims, d.slots ++ [some key]⟩)
    | none => (false, { d with slots := d.slots ++ [none] })
  | .release slot =>
    match d.slots[slot]? with
    | some (some key) => (true, ⟨d.claims.release key, d.slots.set slot none⟩)
    | _ => (false, d)
  | .isHeld key => (d.claims.isHeld key, d)

def run (d : ClaimDesk) (actions : List Action) : ClaimDesk :=
  actions.foldl (fun d a => (d.act a).2) d

@[simp] theorem run_nil (d : ClaimDesk) : d.run [] = d := rfl

theorem run_cons (d : ClaimDesk) (a : Action) (rest : List Action) :
    d.run (a :: rest) = (d.act a).2.run rest := rfl

/-- The pairs of the claims that are granted and not released, in the order of the slots. -/
def live (d : ClaimDesk) : List ClaimKey := d.slots.reduceOption

/-- Every claim still held is released, in the order of the slots. -/
def releaseAll (d : ClaimDesk) : ClaimDesk :=
  d.run ((List.range d.slots.length).map .release)

end ClaimDesk

end TabletUpkeep
