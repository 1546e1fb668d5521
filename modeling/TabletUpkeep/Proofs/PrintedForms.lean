import TabletUpkeep.Failure
import TabletUpkeep.Proofs.DecimalReading
import TabletUpkeep.State.Claims

/-! What is printed of versions, tablets and claims can be read back in one way only. Bounds and
numbers are signed, and the dash between the bounds of a version is also a minus. No confusion comes
of it: a number ends at the first character behind its digits, and a minus cannot stand there. -/
namespace TabletUpkeep

namespace Toml

/-- What cannot go on with the digits of a number. -/
def StopsDigits (rest : List Char) : Prop := ∀ c ∈ rest.head?, c.isDigit = false

variable {rest others : List Char}

theorem stopsDigits_nil : StopsDigits [] := by
  intro c first
  cases first

theorem stopsDigits_cons {c : Char} (no_digit : c.isDigit = false) : StopsDigits (c :: rest) := by
  intro d first
  obtain rfl := Option.some.inj first
  exact no_digit

theorem takeWhile_decimal_append (n : Nat) (stops : StopsDigits rest) :
    (decimal n ++ rest).takeWhile Char.isDigit = decimal n := by
  have none_left : rest.takeWhile Char.isDigit = [] := by
    cases rest with
    | nil => rfl
    | cons c rest => exact List.takeWhile_cons_of_neg (Bool.eq_false_iff.mp (stops c rfl))
  rw [List.takeWhile_append_of_pos (decimal_digits n), none_left, List.append_nil]

theorem decimal_append_inj {m n : Nat} (stops : StopsDigits rest) (others_stop : StopsDigits others)
    (same : decimal m ++ rest = decimal n ++ others) : m = n ∧ rest = others := by
  have digits : decimal m = decimal n := by
    rw [← takeWhile_decimal_append m stops, same, takeWhile_decimal_append n others_stop]
  constructor
  · rw [← decimalNumber_decimal m, digits, decimalNumber_decimal]
  · rw [digits] at same
    exact List.append_cancel_left same

/-- An integer is known by its text and by where the text ends, as long as no digit follows. -/
theorem toString_append_inj {m n : Int} (stops : StopsDigits rest)
    (others_stop : StopsDigits others)
    (same : (toString m).toList ++ rest = (toString n).toList ++ others) :
    m = n ∧ rest = others := by
  -- With the sign taken off, what is left begins with digits on both sides.
  have parts := congrArg sign same
  rw [sign_toString, sign_toString] at parts
  obtain ⟨signs, digits⟩ := Prod.mk.inj parts
  obtain ⟨magnitudes, rests⟩ := decimal_append_inj stops others_stop digits
  refine ⟨?_, rests⟩
  rw [decide_eq_decide] at signs
  omega

/-- Two integers with a mark between them are known by their joint text. -/
theorem marked_pair_inj {m n first last : Int} {mark : Char} (no_digit : mark.isDigit = false)
    (ends : StopsDigits rest)
    (same : (toString m).toList ++ mark :: ((toString n).toList ++ rest) =
      (toString first).toList ++ mark :: ((toString last).toList ++ rest)) :
    m = first ∧ n = last := by
  have stops (more : List Char) : StopsDigits (mark :: more) := stopsDigits_cons no_digit
  obtain ⟨firsts, marked⟩ := toString_append_inj (stops _) (stops _) same
  obtain ⟨lasts, -⟩ := toString_append_inj ends ends (List.cons.inj marked).2
  exact ⟨firsts, lasts⟩

end Toml

namespace Version

theorem toList_text (v : Version) :
    v.text.toList = '[' :: ((toString v.first.toInt).toList ++
      '-' :: ((toString v.last.toInt).toList ++ [']'])) := by
  simp [text, String.toList_append]

@[simp] theorem text_inj {v w : Version} : v.text = w.text ↔ v = w := by
  refine ⟨fun same => ?_, congrArg text⟩
  have chars := congrArg String.toList same
  rw [toList_text, toList_text] at chars
  obtain ⟨firsts, lasts⟩ := Toml.marked_pair_inj (by decide) (Toml.stopsDigits_cons (by decide))
    (List.cons.inj chars).2
  rw [Int64.toInt_inj] at firsts lasts
  rw [Version.mk.injEq]
  exact ⟨firsts, lasts⟩

example : (⟨-5, -3⟩ : Version).text = "[-5--3]" := by decide

end Version

namespace Tablet

theorem toList_text (t : Tablet) :
    t.text.toList = '.' :: ((toString t.id.toInt).toList ++
      '.' :: ((toString t.schemaHash.toInt).toList ++ [])) := by
  simp [text, String.toList_append]

@[simp] theorem text_inj {t u : Tablet} : t.text = u.text ↔ t = u := by
  refine ⟨fun same => ?_, congrArg text⟩
  have chars := congrArg String.toList same
  rw [toList_text, toList_text] at chars
  obtain ⟨ids, hashes⟩ := Toml.marked_pair_inj (by decide) Toml.stopsDigits_nil
    (List.cons.inj chars).2
  rw [Int64.toInt_inj] at ids
  rw [Int32.toInt_inj] at hashes
  rw [Tablet.mk.injEq]
  exact ⟨ids, hashes⟩

end Tablet

@[simp] theorem Tier.text_inj {a b : Tier} : a.text = b.text ↔ a = b := by
  cases a <;> cases b <;> decide

/-- A claim as a list of claims shows it: its tier and its tablet in print. -/
def ClaimKey.listed (key : ClaimKey) : String × String := (key.1.text, key.2.text)

theorem ClaimKey.listed_inj {key other : ClaimKey} :
    ClaimKey.listed key = ClaimKey.listed other ↔ key = other := by
  simp [listed, Prod.ext_iff]

namespace UpkeepError

/-- Only the report of a busy tablet reads as one. -/
theorem message_eq_busy_iff {cause : UpkeepError} {tablet : String} :
    cause.message = (tabletBusy tablet).message ↔ cause = .tabletBusy tablet := by
  refine ⟨fun same => ?_, congrArg message⟩
  unfold message at same
  cases cause with
  | tabletBusy other =>
    simp only [String.append_left_inj, String.append_right_inj] at same
    rw [same]
  -- Every other text has another first letter.
  | _ => simp [← String.toList_inj, String.toList_append] at same

end UpkeepError

end TabletUpkeep
