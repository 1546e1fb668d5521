/-! Paths by component. Repeated and trailing slashes and inner dots say nothing; a leading dot of
a relative path counts, and so does every step to the parent. -/
namespace TabletUpkeep

inductive Component
  | root
  | current
  | parent
  | name (text : List Char)
  deriving DecidableEq, Repr

namespace Path

/-- The stretches between slashes; a text without one is a single stretch. -/
def stretches : List Char → List (List Char)
  | [] => [[]]
  | '/' :: rest => [] :: stretches rest
  | c :: rest =>
    match stretches rest with
    | [] => [[c]]
    | stretch :: others => (c :: stretch) :: others

/-- The component that a stretch stands for inside a path, if it stands for one. -/
def inner? : List Char → Option Component
  | [] => none
  | ['.'] => none
  | ['.', '.'] => some .parent
  | text => some (.name text)

def components (path : String) : List Component :=
  let parts := stretches path.toList
  let inside := parts.filterMap inner?
  match path.toList, parts with
  | '/' :: _, _ => .root :: inside
  | _, ['.'] :: _ => .current :: inside
  | _, _ => inside

/-- Whether the components of `start` come first in those of `path`. -/
def startsWith (path start : String) : Bool := (components start).isPrefixOf (components path)

/-- Where a path leads when the root is the only directory there is: steps to the parent stay at
the root, and every other path stays as it is written. -/
def resolveAtRoot (path : String) : String :=
  match components path with
  | .root :: rest => if rest.all (· == .parent) then "/" else path
  | _ => path

example : components "./a//b/./.." = [.current, .name ['a'], .name ['b'], .parent] := by decide
example : startsWith "/data10/x" "/data1" = false := by decide
example : startsWith "a" "" = true := by decide

end Path

end TabletUpkeep
