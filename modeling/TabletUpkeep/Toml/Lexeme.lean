/-! The characters of TOML 1.0 and what lies between its values. A reader takes a text and gives
what it read together with the rest of the text, or nothing when the text will not do. -/
namespace TabletUpkeep.Toml

abbrev Reader (α : Type) := List Char → Option (α × List Char)

def isBlank (c : Char) : Bool := c == ' ' || c == '\t'

def isBareKeyChar (c : Char) : Bool := c.isAlphanum || c == '_' || c == '-'

/-- Everything but the control characters, of which only the tab is admitted. -/
def isTextChar (c : Char) : Bool := c == '\t' || (' ' ≤ c && c != '\x7f')

def isBasicChar (c : Char) : Bool := isTextChar c && c != '"' && c != '\\'

def isLiteralChar (c : Char) : Bool := isTextChar c && c != '\''

def skipBlank (s : List Char) : List Char := s.dropWhile isBlank

/-- The text after a newline, which is a line feed with or without a carriage return. -/
def newline? : List Char → Option (List Char)
  | '\n' :: rest => some rest
  | '\r' :: '\n' :: rest => some rest
  | _ => none

theorem length_newline? {s rest : List Char} (h : newline? s = some rest) :
    rest.length < s.length := by
  unfold newline? at h
  split at h
  · cases h
    exact Nat.lt_succ_self _
  · cases h
    simp only [List.length_cons]
    omega
  · cases h

theorem length_dropWhile_le (p : Char → Bool) (s : List Char) :
    (s.dropWhile p).length ≤ s.length := (List.dropWhile_suffix p).length_le

/-- The text after the end of a line: blanks, a comment if there is one, and a newline or the end
of the text. -/
def lineEnd? (s : List Char) : Option (List Char) :=
  let afterComment :=
    match skipBlank s with
    | '#' :: rest => rest.dropWhile isTextChar
    | rest => rest
  match afterComment with
  | [] => some []
  | rest => newline? rest

/-- Skips blanks and newlines. -/
def skipSpace (s : List Char) : List Char :=
  match s with
  | [] => []
  | c :: rest =>
    if isBlank c then skipSpace rest
    else
      match _found : newline? (c :: rest) with
      | some after => skipSpace after
      | none => c :: rest
termination_by s.length
decreasing_by
  · simp
  · exact length_newline? _found

/-- Skips blanks, newlines, and comments that a newline ends. -/
def skipFiller (s : List Char) : List Char :=
  match s with
  | [] => []
  | '#' :: rest =>
    match _found : newline? (rest.dropWhile isTextChar) with
    | some after => skipFiller after
    | none => '#' :: rest
  | c :: rest =>
    if isBlank c then skipFiller rest
    else
      match _found : newline? (c :: rest) with
      | some after => skipFiller after
      | none => c :: rest
termination_by s.length
decreasing_by
  · have := length_newline? _found
    have := length_dropWhile_le isTextChar rest
    simp only [List.length_cons]
    omega
  · simp
  · exact length_newline? _found

end TabletUpkeep.Toml
