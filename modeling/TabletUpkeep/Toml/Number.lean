import TabletUpkeep.Toml.Lexeme
import TabletUpkeep.Toml.Text
import TabletUpkeep.Word

/-! Numbers and points in time of TOML. Of an integer its value is read; of a float and of a date or
time only that it is a proper one, for no setting is either. -/
namespace TabletUpkeep.Toml

/-- The digits at the start of a text, with single underscores between them. -/
def moreDigits (isDigit : Char → Bool) : List Char → List Char × List Char
  | '_' :: d :: rest =>
    if isDigit d then
      let (digits, after) := moreDigits isDigit rest
      (d :: digits, after)
    else ([], '_' :: d :: rest)
  | d :: rest =>
    if isDigit d then
      let (digits, after) := moreDigits isDigit rest
      (d :: digits, after)
    else ([], d :: rest)
  | [] => ([], [])

def digitsWith? (isDigit : Char → Bool) : Reader (List Char)
  | c :: rest =>
    if isDigit c then
      let (digits, after) := moreDigits isDigit rest
      some (c :: digits, after)
    else none
  | [] => none

def decimalNumber (digits : List Char) : Nat :=
  digits.foldl (fun n c => 10 * n + (c.toNat - '0'.toNat)) 0

/-- Sign and rest: true behind a minus. -/
def sign (s : List Char) : Bool × List Char :=
  match s with
  | '-' :: rest => (true, rest)
  | '+' :: rest => (false, rest)
  | _ => (false, s)

/-- The digits of a decimal integer without a sign: no zero leads another digit. -/
def decimalDigits? (s : List Char) : Option (List Char × List Char) :=
  match s with
  | '0' :: rest => some (['0'], rest)
  | _ => digitsWith? Char.isDigit s

def decimalInteger? : Reader Int := fun s =>
  let (negative, magnitude) := sign s
  (decimalDigits? magnitude).map fun (digits, rest) =>
    (if negative then -(decimalNumber digits : Int) else decimalNumber digits, rest)

def basedInteger? (base : Nat) (isDigit : Char → Bool) : Reader Int := fun s =>
  (digitsWith? isDigit s).bind fun (digits, rest) =>
    (digits.foldlM (fun n c => (hexDigit? c).map (base * n + ·)) 0).map fun n => ((n : Int), rest)

/-- An integer, which must fit a signed word. Another base than ten stands behind its mark and
takes no sign. -/
def integer? : Reader Int64 := fun s =>
  let read : Option (Int × List Char) :=
    match s with
    | '0' :: 'x' :: rest => basedInteger? 16 (fun c => (hexDigit? c).isSome) rest
    | '0' :: 'o' :: rest => basedInteger? 8 (fun c => '0' ≤ c && c ≤ '7') rest
    | '0' :: 'b' :: rest => basedInteger? 2 (fun c => c == '0' || c == '1') rest
    | _ => decimalInteger? s
  read.bind fun (n, rest) => (Word.ofInt? n).map (·, rest)

/-- Whether `digits * 10 ^ power` is too great for a float, even after rounding. -/
def exceedsFloats (digits : List Char) (power : Int) : Bool :=
  let significant := digits.dropWhile (· == '0')
  let magnitude := significant.length + power
  if significant.isEmpty || magnitude < 300 then false
  else if magnitude > 320 then true
  else
    let bound := (Nat.pow 2 54 - 1) * Nat.pow 2 970
    bound * Nat.pow 10 (-power).toNat ≤ decimalNumber significant * Nat.pow 10 power.toNat

def fraction? : Reader (List Char)
  | '.' :: rest => digitsWith? Char.isDigit rest
  | _ => none

def exponent? : Reader Int
  | c :: rest =>
    if c == 'e' || c == 'E' then
      let (negative, magnitude) := sign rest
      (digitsWith? Char.isDigit magnitude).map fun (digits, after) =>
        (if negative then -(decimalNumber digits : Int) else decimalNumber digits, after)
    else none
  | [] => none

/-- A float has a fraction or an exponent or both, or is one of the named ones. Too great a one is
refused unless it is negative. -/
def float? : Reader Unit := fun s =>
  let (negative, magnitude) := sign s
  match magnitude with
  | 'i' :: 'n' :: 'f' :: rest => some ((), rest)
  | 'n' :: 'a' :: 'n' :: rest => some ((), rest)
  | _ =>
    (decimalDigits? magnitude).bind fun (whole, rest) =>
      let checked (digits : List Char) (power : Int) (after : List Char) :=
        if !negative && exceedsFloats digits power then none else some ((), after)
      match fraction? rest with
      | some (part, after) =>
        let scale : Int := part.length
        match exponent? after with
        | some (power, after) => checked (whole ++ part) (power - scale) after
        | none => checked (whole ++ part) (-scale) after
      | none => (exponent? rest).bind fun (power, after) => checked whole power after

def fixedDigits? (count : Nat) : Reader Nat := fun s =>
  let digits := s.take count
  if digits.length == count && digits.all Char.isDigit then
    some (decimalNumber digits, s.drop count)
  else none

def mark? (c : Char) : List Char → Option (List Char)
  | d :: rest => if d == c then some rest else none
  | [] => none

def daysInMonth (year month : Nat) : Nat :=
  let leap := year % 4 == 0 && (year % 100 != 0 || year % 400 == 0)
  if month == 2 then if leap then 29 else 28
  else if [4, 6, 9, 11].contains month then 30 else 31

def date? (s : List Char) : Option (List Char) := do
  let (year, s) ← fixedDigits? 4 s
  let s ← mark? '-' s
  let (month, s) ← fixedDigits? 2 s
  let s ← mark? '-' s
  let (day, s) ← fixedDigits? 2 s
  if 1 ≤ month && month ≤ 12 && 1 ≤ day && day ≤ daysInMonth year month then some s else none

def hourMinute? (s : List Char) : Option (List Char) := do
  let (hour, s) ← fixedDigits? 2 s
  let s ← mark? ':' s
  let (minute, s) ← fixedDigits? 2 s
  if hour ≤ 23 && minute ≤ 59 then some s else none

/-- The text after a time of day. A minute may have sixty-one seconds. -/
def timeOfDay? (s : List Char) : Option (List Char) := do
  let s ← hourMinute? s
  let s ← mark? ':' s
  let (second, s) ← fixedDigits? 2 s
  if second ≤ 60 then
    match s with
    | '.' :: c :: rest => return if c.isDigit then rest.dropWhile Char.isDigit else s
    | _ => return s
  else none

/-- The text after the distance to universal time, if one stands there. -/
def skipOffset? : List Char → Option (List Char)
  | 'Z' :: rest => some rest
  | 'z' :: rest => some rest
  | '+' :: rest => hourMinute? rest
  | '-' :: rest => hourMinute? rest
  | s => some s

/-- A date, a time of day, or both, the last with or without the distance to universal time. -/
def dateTime? : Reader Unit := fun s =>
  match date? s with
  | none => (timeOfDay? s).map ((), ·)
  | some afterDate =>
    match afterDate with
    | c :: rest =>
      if c == 'T' || c == 't' || c == ' ' then
        match timeOfDay? rest with
        | some afterTime => (skipOffset? afterTime).map ((), ·)
        | none => some ((), afterDate)
      else some ((), afterDate)
    | [] => some ((), [])

example : (integer? "0x7fff_FFFF,".toList).map (·.1.toInt) = some 0x7fffffff := by decide +kernel
example : (integer? "9223372036854775808".toList).isNone = true := by decide +kernel

end TabletUpkeep.Toml
