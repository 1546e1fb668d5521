import TabletUpkeep.Disk.Path
import TabletUpkeep.Failure
import TabletUpkeep.Schedule.Sweep
import TabletUpkeep.Text.Quoted

/-! Disk usage of the data directories. A directory lies on the mount whose mount point is its
longest beginning; the usage of a node is the greatest over the mounts in use. -/
namespace TabletUpkeep

structure Mount where
  point : String
  totalBytes : UInt64
  availableBytes : UInt64
  deriving DecidableEq, Repr

namespace Mount

/-- The part of the space in use. Nothing is in use of no space, nor where more is available
than there is. -/
def usage (m : Mount) : Float :=
  if m.totalBytes == 0 then 0.0
  else
    let used := if m.availableBytes ≤ m.totalBytes then m.totalBytes - m.availableBytes else 0
    clampUnit (used.toFloat / m.totalBytes.toFloat)

def holds (m : Mount) (path : String) : Bool := Path.startsWith path m.point

def depth (m : Mount) : Nat := (Path.components m.point).length

end Mount

/-- The last of the elements with the greatest key. -/
def lastMax? {α : Type} (key : α → Nat) : List α → Option α
  | [] => none
  | a :: rest =>
    match lastMax? key rest with
    | none => some a
    | some b => some (if key a ≤ key b then b else a)

/-- The mount that holds a path. Of mounts with one and the same point the last counts. -/
def mountFor? (path : String) (mounts : List Mount) : Option Mount :=
  lastMax? Mount.depth (mounts.filter (·.holds path))

def mountIndexFor? (path : String) (mounts : List Mount) : Option Nat :=
  (lastMax? (·.1.depth) (mounts.zipIdx.filter (·.1.holds path))).map (·.2)

def higher (before : Option Float) (usage : Float) : Float :=
  match before with
  | none => usage
  | some h => if h < usage then usage else h

/-- The greatest usage over the mounts that hold a directory. `resolve` gives the true place of a
directory, and the directory itself where there is none. -/
def peakUsage (resolve : String → String) (dirs : List String) (mounts : List Mount) :
    Except UpkeepError Float :=
  let highest := dirs.foldl (fun before dir =>
    match mountFor? (resolve dir) mounts with
    | some mount => some (higher before mount.usage)
    | none => before) none
  match highest with
  | some usage => .ok usage
  | none => .error (.io ("no mounted filesystem found for data dirs " ++ Text.quotedList dirs))

end TabletUpkeep
