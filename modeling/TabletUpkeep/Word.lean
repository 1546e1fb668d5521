/-! Machine words as ranges of integers. An integer becomes a word only when it lies in the
word's range, and two words are added only when their exact sum does. Wrapping is never
implicit here; where a word does wrap, the module that says so uses the word's own `+`. -/
namespace TabletUpkeep

/-- A fixed-width integer: the integers from `least` to `greatest` and no others. -/
class Word (α : Type) where
  least : Int
  greatest : Int
  toInt : α → Int
  ofInt? : Int → Option α
  ofInt?_eq_some : ∀ n a, ofInt? n = some a ↔ toInt a = n
  ofInt?_isSome : ∀ n, (ofInt? n).isSome = true ↔ least ≤ n ∧ n ≤ greatest

namespace Word

instance : Word Int32 where
  least := -2147483648
  greatest := 2147483647
  toInt := Int32.toInt
  ofInt? n := if -2147483648 ≤ n ∧ n ≤ 2147483647 then some (Int32.ofInt n) else none
  ofInt?_eq_some n a := by
    constructor
    · intro h
      split at h
      · cases h; exact Int32.toInt_ofInt_of_le (by omega) (by omega)
      · cases h
    · rintro rfl
      have low := Int32.le_toInt a
      have high := Int32.toInt_lt a
      rw [if_pos (by omega), Int32.ofInt_toInt]
  ofInt?_isSome n := by split <;> simp_all

instance : Word Int64 where
  least := -9223372036854775808
  greatest := 9223372036854775807
  toInt := Int64.toInt
  ofInt? n :=
    if -9223372036854775808 ≤ n ∧ n ≤ 9223372036854775807 then some (Int64.ofInt n) else none
  ofInt?_eq_some n a := by
    constructor
    · intro h
      split at h
      · cases h; exact Int64.toInt_ofInt_of_le (by omega) (by omega)
      · cases h
    · rintro rfl
      have low := Int64.le_toInt a
      have high := Int64.toInt_lt a
      rw [if_pos (by omega), Int64.ofInt_toInt]
  ofInt?_isSome n := by split <;> simp_all

instance : Word UInt32 where
  least := 0
  greatest := 4294967295
  toInt a := a.toNat
  ofInt? n := if 0 ≤ n ∧ n ≤ 4294967295 then some (UInt32.ofNat n.toNat) else none
  ofInt?_eq_some n a := by
    constructor
    · intro h
      split at h
      · cases h
        rw [UInt32.toNat_ofNat_of_lt' (by simp only [UInt32.size]; omega)]
        omega
      · cases h
    · rintro rfl
      have high := a.toNat_lt
      rw [if_pos (by omega)]
      simp
  ofInt?_isSome n := by split <;> simp_all

instance : Word UInt64 where
  least := 0
  greatest := 18446744073709551615
  toInt a := a.toNat
  ofInt? n := if 0 ≤ n ∧ n ≤ 18446744073709551615 then some (UInt64.ofNat n.toNat) else none
  ofInt?_eq_some n a := by
    constructor
    · intro h
      split at h
      · cases h
        rw [UInt64.toNat_ofNat_of_lt' (by simp only [UInt64.size]; omega)]
        omega
      · cases h
    · rintro rfl
      have high := a.toNat_lt
      rw [if_pos (by omega)]
      simp
  ofInt?_isSome n := by split <;> simp_all

variable {α : Type} [Word α]

/-- The sum of two words when it is a word. -/
def add? (a b : α) : Option α := ofInt? (toInt a + toInt b)

theorem add?_eq_some {a b c : α} : add? a b = some c ↔ toInt c = toInt a + toInt b :=
  ofInt?_eq_some _ _

theorem add?_isSome {a b : α} :
    (add? a b).isSome = true ↔
      least (α := α) ≤ toInt a + toInt b ∧ toInt a + toInt b ≤ greatest (α := α) :=
  ofInt?_isSome _

/-- Adds the words of a list from the left onto `start`, stopping at the first sum that is no
word. -/
def sumFrom? (start : α) : List α → Option α
  | [] => some start
  | a :: rest => (add? start a).bind (sumFrom? · rest)

@[simp] theorem sumFrom?_nil (start : α) : sumFrom? start [] = some start := rfl

theorem sumFrom?_cons (start a : α) (rest : List α) :
    sumFrom? start (a :: rest) = (add? start a).bind (sumFrom? · rest) := rfl

end Word

end TabletUpkeep
