import TabletUpkeep.Record

/-! JSON values as trees. An object is a list of named values, each name once. Of numbers only the
integers are kept; any other number is known to be one and no more, for no record here has a
place for it. -/
namespace TabletUpkeep

inductive Json
  | null
  | boolean (value : Bool)
  | integer (value : Int)
  | otherNumber
  | text (value : String)
  | array (items : List Json)
  | object (members : List (String × Json))
  deriving Inhabited

namespace Json

/-- A record is an object, or an array of its fields in order, which may be too short but not too
long. -/
def fields? (names : List String) : Json → Option (List (Option Json))
  | object members => some (names.map (List.lookup · members))
  | array items =>
    if items.length ≤ names.length then some (Described.byPosition names items) else none
  | _ => none

def integer? : Json → Option Int
  | integer value => some value
  | _ => none

def boolean? : Json → Option Bool
  | boolean value => some value
  | _ => none

def text? : Json → Option String
  | text value => some value
  | _ => none

def items? : Json → Option (List Json)
  | array items => some items
  | _ => none

instance : Described Json := ⟨fields?, integer?, boolean?, text?, items?⟩

/-- The name of a member of an enumeration: a text, or an object of that one name with nothing in
it. -/
def memberName? : Json → Option String
  | text name => some name
  | object [(name, null)] => some name
  | _ => none

end Json

end TabletUpkeep
