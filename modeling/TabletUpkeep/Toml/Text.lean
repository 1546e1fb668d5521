import TabletUpkeep.Toml.Lexeme

/-! Strings of TOML: basic ones with escapes and literal ones without, on one line or on several.
The readers of a body start behind the opening quotes and take the closing ones off. -/
namespace TabletUpkeep.Toml

def hexDigit? (c : Char) : Option Nat :=
  if c.isDigit then some (c.toNat - '0'.toNat)
  else if 'a' ≤ c && c ≤ 'f' then some (c.toNat - 'a'.toNat + 10)
  else if 'A' ≤ c && c ≤ 'F' then some (c.toNat - 'A'.toNat + 10)
  else none

def hexNumber? (digits : List Char) : Option Nat :=
  digits.foldlM (fun n c => (hexDigit? c).map (16 * n + ·)) 0

/-- The character of a number, which must be a Unicode scalar value. -/
def unicodeScalar? (n : Nat) : Option Char :=
  if h : n.isValidChar then some (Char.ofNatAux n h) else none

/-- The character that an escape stands for, and how many characters spell it after the
backslash. -/
def escape? : List Char → Option (Char × Nat)
  | 'b' :: _ => some ('\x08', 1)
  | 'f' :: _ => some ('\x0c', 1)
  | 'n' :: _ => some ('\n', 1)
  | 'r' :: _ => some ('\r', 1)
  | 't' :: _ => some ('\t', 1)
  | '"' :: _ => some ('"', 1)
  | '\\' :: _ => some ('\\', 1)
  | 'u' :: rest => numbered rest 4
  | 'U' :: rest => numbered rest 8
  | _ => none
where
  numbered (rest : List Char) (count : Nat) : Option (Char × Nat) :=
    if rest.length < count then none
    else ((hexNumber? (rest.take count)).bind unicodeScalar?).map (·, count + 1)

def basicBody (s : List Char) : Option (List Char × List Char) :=
  match s with
  | [] => none
  | '"' :: rest => some ([], rest)
  | '\\' :: rest =>
    match escape? rest with
    | none => none
    | some (c, count) => (basicBody (rest.drop count)).map fun (cs, after) => (c :: cs, after)
  | c :: rest =>
    if isBasicChar c then (basicBody rest).map fun (cs, after) => (c :: cs, after) else none
termination_by s.length
decreasing_by
  · simp only [List.length_drop, List.length_cons]; omega
  · simp

def literalBody : List Char → Option (List Char × List Char)
  | [] => none
  | c :: rest =>
    if c == '\'' then some ([], rest)
    else if isLiteralChar c then (literalBody rest).map fun (cs, after) => (c :: cs, after)
    else none

/-- What a run of quotes means inside a string of several lines: fewer than three belong to the
text, and of more the last three close it, after at most two that belong to it. -/
inductive QuoteRun
  | inner (count : Nat)
  | closing (kept : Nat)

def quoteRun (quote : Char) (s : List Char) : QuoteRun :=
  let count := (s.takeWhile (· == quote)).length
  if count < 3 then .inner count else .closing (min count 5 - 3)

/-- The text after a backslash that ends its line: everything up to the next visible character. -/
def continuedLine? (s : List Char) : Option (List Char) :=
  (newline? (skipBlank s)).map skipSpace

theorem length_skipSpace_le (s : List Char) : (skipSpace s).length ≤ s.length := by
  fun_induction skipSpace s with
  | case1 => simp
  | case2 c rest blank ih => simp only [List.length_cons]; omega
  | case3 c rest blank after h ih =>
    have := length_newline? h
    omega
  | case4 c rest blank h => simp

theorem length_continuedLine? {s rest : List Char} (h : continuedLine? s = some rest) :
    rest.length ≤ s.length := by
  obtain ⟨after, found, rfl⟩ := Option.map_eq_some_iff.1 h
  have := length_newline? found
  have := length_skipSpace_le after
  have := length_dropWhile_le isBlank s
  unfold skipBlank at *
  omega

/-- The body of a basic string of several lines. A newline in it is a line feed, and a backslash
at the end of a line takes the line break and the space after it out. -/
def basicBlock (s : List Char) : Option (List Char × List Char) :=
  match s with
  | [] => none
  | '"' :: rest =>
    match quoteRun '"' ('"' :: rest) with
    | .inner count =>
      (basicBlock (rest.drop (count - 1))).map fun (cs, after) =>
        (List.replicate count '"' ++ cs, after)
    | .closing kept => some (List.replicate kept '"', rest.drop (kept + 2))
  | '\\' :: rest =>
    match _found : continuedLine? rest with
    | some after => basicBlock after
    | none =>
      match escape? rest with
      | none => none
      | some (c, count) => (basicBlock (rest.drop count)).map fun (cs, after) => (c :: cs, after)
  | c :: rest =>
    if isBasicChar c then (basicBlock rest).map fun (cs, after) => (c :: cs, after)
    else
      match _found : newline? (c :: rest) with
      | some next => (basicBlock next).map fun (cs, after) => ('\n' :: cs, after)
      | none => none
termination_by s.length
decreasing_by
  · simp only [List.length_drop, List.length_cons]; omega
  · have := length_continuedLine? _found
    simp only [List.length_cons]; omega
  · simp only [List.length_drop, List.length_cons]; omega
  · simp
  · exact length_newline? _found

/-- The body of a literal string of several lines. -/
def literalBlock (s : List Char) : Option (List Char × List Char) :=
  match s with
  | [] => none
  | c :: rest =>
    if c == '\'' then
      match quoteRun '\'' (c :: rest) with
      | .inner count =>
        (literalBlock (rest.drop (count - 1))).map fun (cs, after) =>
          (List.replicate count '\'' ++ cs, after)
      | .closing kept => some (List.replicate kept '\'', rest.drop (kept + 2))
    else if isLiteralChar c then (literalBlock rest).map fun (cs, after) => (c :: cs, after)
    else
      match _found : newline? (c :: rest) with
      | some next => (literalBlock next).map fun (cs, after) => ('\n' :: cs, after)
      | none => none
termination_by s.length
decreasing_by
  · simp only [List.length_drop, List.length_cons]; omega
  · simp
  · exact length_newline? _found

/-- A newline right behind the opening quotes of several lines is no part of the text. -/
def skipFirstNewline (s : List Char) : List Char := (newline? s).getD s

/-- A string on one line, as a key may be. -/
def lineText? : Reader String
  | '"' :: rest => (basicBody rest).map fun (cs, after) => (String.ofList cs, after)
  | '\'' :: rest => (literalBody rest).map fun (cs, after) => (String.ofList cs, after)
  | _ => none

/-- A string of any kind. -/
def text? : Reader String
  | '"' :: '"' :: '"' :: rest =>
    (basicBlock (skipFirstNewline rest)).map fun (cs, after) => (String.ofList cs, after)
  | '\'' :: '\'' :: '\'' :: rest =>
    (literalBlock (skipFirstNewline rest)).map fun (cs, after) => (String.ofList cs, after)
  | s => lineText? s

end TabletUpkeep.Toml
