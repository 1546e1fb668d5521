import TabletUpkeep.Word

/-! Reading records from a format that describes itself. The fields of a record are given by name
or by position; a value of the wrong kind is refused, never converted. What is asked of a format
is gathered in one class, so a record is read by the same rule from each of them. -/
namespace TabletUpkeep

/-- A format whose values say what they are. `fields?` lays out the values that a record gives for
the listed names. -/
class Described (V : Type) where
  fields? : List String → V → Option (List (Option V))
  integer? : V → Option Int
  boolean? : V → Option Bool
  text? : V → Option String
  items? : V → Option (List V)

namespace Described

/-- Lays values out by position; the ones that are missing are absent. -/
def byPosition {V : Type} (names : List String) (items : List V) :
    List (Option V) :=
  (List.range names.length).map (items[·]?)

theorem length_byPosition {V : Type} (names : List String) (items : List V) :
    (byPosition names items).length = names.length := by
  simp [byPosition]

variable {V α : Type} [Described V]

def word? [Word α] (v : V) : Option α := (integer? v).bind Word.ofInt?

def list? (read : V → Option α) (v : V) : Option (List α) := (items? v).bind (·.mapM read)

def required (read : V → Option α) (field : Option V) : Option α := field.bind read

/-- A field with a value of its own when it is missing. -/
def orElse (read : V → Option α) (default : α) (field : Option V) : Option α :=
  match field with
  | none => some default
  | some v => read v

end Described

end TabletUpkeep
