import TabletUpkeep.Decimal.Shortest

/-! Floats as text: the shortest digits that read back the same, written positionally however
long that is, with a sign, and with no point on whole values. -/
namespace TabletUpkeep.Decimal

/-- Mantissa and exponent of the magnitude of a finite float given by its bits. -/
def binaryOfBits (bits : UInt64) : Nat × Int :=
  let fraction : Nat := bits.toNat % Nat.pow 2 52
  let biased : Nat := bits.toNat / Nat.pow 2 52 % Nat.pow 2 11
  if biased = 0 then (fraction, -1074) else (fraction + Nat.pow 2 52, biased - 1075)

def positional (digits : Nat) (power : Int) : String :=
  let text := Nat.toDigits 10 digits
  if 0 ≤ power then
    String.ofList (text ++ List.replicate power.toNat '0')
  else
    let places := (-power).toNat
    let padded := List.replicate (places + 1 - text.length) '0' ++ text
    let whole := padded.take (padded.length - places)
    let rest := (padded.drop (padded.length - places)).reverse.dropWhile (· = '0')
    String.ofList (if rest.isEmpty then whole else whole ++ '.' :: rest.reverse)

def ofFloat (x : Float) : String :=
  if x.isNaN then "NaN"
  else
    let sign := if x.toBits < 0x8000000000000000 then "" else "-"
    let magnitude :=
      if x.isInf then "inf"
      else
        let (mantissa, exponent) := binaryOfBits x.toBits
        if mantissa = 0 then "0"
        else
          let (digits, power) := (Reading.ofBinary mantissa exponent).shortest
          positional digits power
    sign ++ magnitude

end TabletUpkeep.Decimal
