import TabletUpkeep.Toml.Number
import TabletUpkeep.Toml.Text
import TabletUpkeep.Toml.Tree

/-! Keys and values of TOML. Values nest to a fixed depth, which is what their readers recurse on;
the readers of their lists take something off the text at every turn. -/
namespace TabletUpkeep.Toml

/-- Keys have fewer segments than this, and values fewer levels. -/
def nestingLimit : Nat := 80

def segment? : Reader String := fun s =>
  match s with
  | '"' :: _ => lineText? s
  | '\'' :: _ => lineText? s
  | _ =>
    let bare := s.takeWhile isBareKeyChar
    if bare.isEmpty then none else some (String.ofList bare, s.dropWhile isBareKeyChar)

/-- The segments of a key with dots between them, and blanks wherever they like. -/
def segments? (s : List Char) : Option (List String × List Char) :=
  match segment? (skipBlank s) with
  | none => none
  | some (first, after) =>
    match skipBlank after with
    | '.' :: rest =>
      if rest.length < s.length then
        (segments? rest).map fun (others, after) => (first :: others, after)
      else none
    | rest => some ([first], rest)
termination_by s.length

def key? : Reader (List String) := fun s =>
  (segments? s).bind fun (path, rest) =>
    if path.length < nestingLimit then some (path, rest) else none

/-- A key, an equals sign and a value, with blanks around each of them. -/
def pair? (value? : Reader Item) : Reader (List String × Item) := fun s =>
  (key? s).bind fun (path, rest) =>
    match rest with
    | '=' :: rest => (value? (skipBlank rest)).map fun (value, after) =>
      ((path, value), skipBlank after)
    | _ => none

/-- The items of an array behind its first bracket, up to and with its last one. A comma may follow
the last item. -/
def arrayItems? (value? : Reader Item) (s : List Char) : Option (List Item × List Char) :=
  match skipFiller s with
  | ']' :: rest => some ([], rest)
  | start =>
    match value? start with
    | none => none
    | some (item, after) =>
      match skipFiller after with
      | ',' :: rest =>
        if rest.length < s.length then
          (arrayItems? value? rest).map fun (items, after) => (item :: items, after)
        else none
      | ']' :: rest => some ([item], rest)
      | _ => none
termination_by s.length

/-- The pairs of an inline table from the first one on, up to and with its last brace. -/
def inlinePairs? (value? : Reader Item) (s : List Char) :
    Option (List (List String × Item) × List Char) :=
  match pair? value? s with
  | none => none
  | some (pair, after) =>
    match after with
    | ',' :: rest =>
      if rest.length < s.length then
        (inlinePairs? value? rest).map fun (pairs, after) => (pair :: pairs, after)
      else none
    | '\x7d' :: rest => some ([pair], rest)
    | _ => none
termination_by s.length

def inlineTable? (pairs : List (List String × Item)) : Option Item :=
  (pairs.foldlM (fun entries (path, value) => Item.addAt path value .inlined entries) []).map
    (.table .inlined)

/-- Values that hold no other ones. -/
def plainValue? : Reader Item := fun s =>
  match s with
  | 't' :: 'r' :: 'u' :: 'e' :: rest => some (.boolean true, rest)
  | 'f' :: 'a' :: 'l' :: 's' :: 'e' :: rest => some (.boolean false, rest)
  | '"' :: _ => (text? s).map fun (value, rest) => (.text value, rest)
  | '\'' :: _ => (text? s).map fun (value, rest) => (.text value, rest)
  | _ =>
    match dateTime? s with
    | some (_, rest) => some (.dateTime, rest)
    | none =>
      match float? s with
      | some (_, rest) => some (.float, rest)
      | none => (integer? s).map fun (value, rest) => (.integer value, rest)

/-- A value with at most `depth` levels of arrays and inline tables in it. -/
def value? : Nat → Reader Item
  | 0, s =>
    match s with
    | '[' :: _ => none
    | '\x7b' :: _ => none
    | _ => plainValue? s
  | depth + 1, s =>
    match s with
    | '[' :: rest =>
      (arrayItems? (value? depth) rest).map fun (items, after) => (.array items, after)
    | '\x7b' :: rest =>
      match skipBlank rest with
      | '\x7d' :: after => some (.table .inlined [], after)
      | _ =>
        (inlinePairs? (value? depth) rest).bind fun (pairs, after) =>
          (inlineTable? pairs).map (·, after)
    | _ => plainValue? s

end TabletUpkeep.Toml
