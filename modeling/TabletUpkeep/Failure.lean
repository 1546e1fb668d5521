import TabletUpkeep.Decimal.FloatText

/-! How collaborators and workers fail. Each cause is a constructor; its text and its number are
functions of the cause. -/
namespace TabletUpkeep

inductive UpkeepError
  | io (detail : String)
  | tabletBusy (tablet : String)
  | noCandidate
  | resourceGroup (detail : String)
  | invalidUsage (reported : Float)
  | failed (code : Int32) (detail : String)
  deriving DecidableEq

namespace UpkeepError

def code : UpkeepError → Int32
  | io _ => -101
  | tabletBusy _ => -102
  | noCandidate => -103
  | resourceGroup _ => -104
  | invalidUsage _ => -105
  | failed code _ => code

def message : UpkeepError → String
  | io detail => "I/O error: " ++ detail
  | tabletBusy tablet => "Tablet " ++ tablet ++ " is busy"
  | noCandidate => "No candidate tablet for compaction"
  | resourceGroup detail => "Resource group error: " ++ detail
  | invalidUsage reported => "Invalid usage ratio reported: " ++ Decimal.ofFloat reported
  | failed code detail =>
    "Maintenance pass failed with code " ++ toString code.toInt ++ ": " ++ detail

end UpkeepError

/-- What a panic carries: a fixed text, a text made up on the spot, or something else. -/
inductive Payload
  | fixed (text : String)
  | formatted (text : String)
  | other
  deriving DecidableEq

def Payload.text? : Payload → Option String
  | fixed text => some text
  | formatted text => some text
  | other => none

/-- How a call ends, when it ends. -/
inductive Outcome (α : Type)
  | ok (value : α)
  | error (cause : UpkeepError)
  | panic (payload : Payload)
  deriving DecidableEq

namespace Outcome

def panicCode : Int32 := -1

/-- A panic counts as a failure with a number of its own. -/
def failure? {α : Type} : Outcome α → Option UpkeepError
  | ok _ => none
  | error cause => some cause
  | panic payload =>
    some (.failed panicCode ("pass panicked: " ++ payload.text?.getD "unknown panic"))

end Outcome

/-- What keeps a node from getting ready, or from stopping cleanly. -/
inductive NodeError
  | config (detail : String)
  | configParse
  | workerSpawn (worker : String) (cause : String)
  | workerPanicked (worker : String)
  deriving DecidableEq

namespace NodeError

/-- The text of an error. What exactly is wrong with a configuration text is not kept. -/
def message : NodeError → String
  | config detail => "Configuration error: " ++ detail
  | configParse => "Config parse error"
  | workerSpawn worker cause =>
    "Failed to start maintenance worker " ++ worker ++ ": " ++ cause
  | workerPanicked worker => "Maintenance worker " ++ worker ++ " panicked"

/-- The error of the operating system behind this one. -/
def cause? : NodeError → Option String
  | workerSpawn _ cause => some cause
  | _ => none

end NodeError

end TabletUpkeep
