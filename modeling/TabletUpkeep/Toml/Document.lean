import TabletUpkeep.Toml.Value

/-! A TOML document as a list of expressions, and the table that they make up. Headers name the
table to which the pairs after them belong. -/
namespace TabletUpkeep.Toml

inductive Expression
  | pair (path : List String) (value : Item)
  | header (path : List String)
  | elementHeader (path : List String)

/-- The rest of a line behind what was read from it. -/
def onLine {α : Type} (read : Option (α × List Char)) : Option (α × List Char) :=
  read.bind fun (a, rest) => (lineEnd? rest).map (a, ·)

def header? (s : List Char) : Option (Expression × List Char) :=
  match s with
  | '[' :: rest =>
    (key? rest).bind fun (path, after) =>
      match after with
      | ']' :: ']' :: after => some (.elementHeader path, after)
      | _ => none
  | _ =>
    (key? s).bind fun (path, after) =>
      match after with
      | ']' :: after => some (.header path, after)
      | _ => none

/-- What a line that starts here holds, and the text after it. Comments and empty lines hold no
expression. -/
def expression? (s : List Char) : Option (Option Expression × List Char) :=
  match s with
  | '#' :: _ => (lineEnd? s).map (none, ·)
  | '\n' :: rest => some (none, rest)
  | '\r' :: _ => (newline? s).map (none, ·)
  | '[' :: rest => (onLine (header? rest)).map fun (e, rest) => (some e, rest)
  | _ =>
    (onLine (pair? (value? (nestingLimit - 1)) s)).map fun ((path, value), rest) =>
      (some (.pair path value), rest)

/-- All expressions of a text. Each takes something off it. -/
def expressions? (s : List Char) : Option (List Expression) :=
  match skipBlank s with
  | [] => some []
  | start =>
    match expression? start with
    | none => none
    | some (found, rest) =>
      if rest.length < s.length then
        (expressions? rest).map fun others => found.toList ++ others
      else none
termination_by s.length

/-- The document so far: the path of the table that pairs go to, and the entries of the root. -/
structure Draft where
  current : List String := []
  root : Entries := []

namespace Draft

/-- Applies a change to the table above the last segment of a header. -/
def openAt (d : Draft) (path : List String) (change : String → Item.Change) : Option Draft :=
  match path.getLast? with
  | none => none
  | some key =>
    (Item.changeAt false (change key) path.dropLast .header d.root).map fun root => ⟨path, root⟩

def add (d : Draft) : Expression → Option Draft
  | .pair path value =>
    (Item.changeAt false (Item.addAt path value) d.current .header d.root).map fun root =>
      { d with root }
  | .header path => d.openAt path Item.openTable
  | .elementHeader path => d.openAt path Item.openElement

end Draft

/-- The root table of a text, if the text is a TOML document. A byte order mark may come first. -/
def read? (text : String) : Option Item :=
  let body :=
    match text.toList with
    | '\ufeff' :: rest => rest
    | s => s
  ((expressions? body).bind (·.foldlM Draft.add {})).map fun d => .table .header d.root

end TabletUpkeep.Toml
