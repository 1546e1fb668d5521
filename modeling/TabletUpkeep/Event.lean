import TabletUpkeep.Failure
import TabletUpkeep.Tablet.Basic

/-! Log events of warning and error level. An event is what happened; its level, its text and
its structured fields are read off it. -/
namespace TabletUpkeep

inductive Level
  | warn | error
  deriving DecidableEq

def Level.text : Level → String
  | warn => "WARN"
  | error => "ERROR"

/-- The value of a structured field. -/
inductive FieldValue
  | text (value : String)
  | integer (value : Int)
  | float (value : Float)
  deriving DecidableEq

inductive Event
  | intervalReplaced (setting : String) (configured : Int64) (fallback : UInt64)
  | sweepRangeReplaced (configuredMin configuredMax : Int64) (appliedMin appliedMax : UInt64)
  | usageOutOfRange (reported clamped : Float)
  | bindFailed (tier : Tier) (worker : Nat) (cause : UpkeepError)
  | passFailed (worker : String) (cause : UpkeepError)
  | detached (workers : Nat)
  | startFailed (started : Nat) (cause : NodeError)
  | joinFailed (cause : NodeError)
  deriving DecidableEq

namespace Event

def level : Event → Level
  | startFailed _ _ | joinFailed _ => .error
  | _ => .warn

def message : Event → String
  | intervalReplaced _ _ _ => "Illegal maintenance interval config, force set to fallback"
  | sweepRangeReplaced _ _ _ _ => "Illegal garbage sweep interval config, force reset"
  | usageOutOfRange _ _ => "Trash sweep reported usage outside [0, 1]"
  | bindFailed _ _ cause =>
    "Failed to bind compaction thread to system resource group: " ++ cause.message
  | passFailed _ cause =>
    "Maintenance pass failed, continuing with next round: " ++ cause.message
  | detached _ =>
    "Supervisor dropped without shutdown, maintenance workers keep running detached"
  | startFailed _ cause =>
    "Failed to start background maintenance, stopping started workers: " ++ cause.message
  | joinFailed cause => cause.message

def fields : Event → List (String × FieldValue)
  | intervalReplaced setting configured fallback =>
    [("setting", .text setting), ("configured", .integer configured.toInt),
     ("fallback", .integer fallback.toNat)]
  | sweepRangeReplaced configuredMin configuredMax appliedMin appliedMax =>
    [("configured_min", .integer configuredMin.toInt),
     ("configured_max", .integer configuredMax.toInt),
     ("applied_min", .integer appliedMin.toNat), ("applied_max", .integer appliedMax.toNat)]
  | usageOutOfRange reported clamped => [("reported", .float reported), ("clamped", .float clamped)]
  | bindFailed tier worker cause =>
    [("tier", .text tier.text), ("worker", .integer worker), ("code", .integer cause.code.toInt)]
  | passFailed worker cause =>
    [("worker", .text worker), ("code", .integer cause.code.toInt)]
  | detached workers => [("workers", .integer workers)]
  | startFailed started _ => [("started", .integer started)]
  | joinFailed _ => []

end Event

end TabletUpkeep
