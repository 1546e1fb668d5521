import TabletUpkeep.Settings.Reading
import TabletUpkeep.Failure
import TabletUpkeep.Toml.Document

/-! Settings from a text, and from what is found at a path. -/
namespace TabletUpkeep

inductive FileContent
  | missing
  | directory
  | bytes (content : ByteArray)

namespace FileContent

/-- The text at a path, or why there is none. -/
def text : FileContent → Except String String
  | missing => .error "No such file or directory (os error 2)"
  | directory => .error "Is a directory (os error 21)"
  | bytes content =>
    match String.fromUTF8? content with
    | some text => .ok text
    | none => .error "stream did not contain valid UTF-8"

def isMissing : FileContent → Bool
  | missing => true
  | _ => false

end FileContent

namespace Settings

/-- The settings in a text, which has to be TOML throughout. -/
def ofText (text : String) : Except NodeError Settings :=
  match (Toml.read? text).bind Settings.read? with
  | some config => .ok config
  | none => .error .configParse

def ofFile (path : String) (content : FileContent) : Except NodeError Settings :=
  match content.text with
  | .ok text => ofText text
  | .error reason => .error (.config ("Failed to read " ++ path ++ ": " ++ reason))

/-- The settings at a path, or the defaults when there is nothing there. -/
def ofFileOrDefault (path : String) (content : FileContent) : Except NodeError Settings :=
  if content.isMissing then .ok {} else ofFile path content

end Settings

end TabletUpkeep
