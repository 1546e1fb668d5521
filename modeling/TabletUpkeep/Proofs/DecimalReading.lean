import TabletUpkeep.Proofs.CheckedSums
import TabletUpkeep.Toml.Value

/-! Reading integers that are written in plain decimal. At the end of a line such a text is neither
a point in time nor a float, and as an integer it is the one that was written, if that is a word. -/
namespace TabletUpkeep.Toml

/-- What follows a value that ends its line. -/
def EndsLine (rest : List Char) : Prop := rest = [] ∨ ∃ more, rest = '\n' :: more

variable {digits rest : List Char} {c : Char}

theorem EndsLine.cons (ends : EndsLine (c :: rest)) : c = '\n' := by
  rcases ends with none | ⟨more, some⟩
  · cases none
  · exact (List.cons.inj some).1

/-- Characters differ if only one of them is of some kind. -/
theorem ne_of_kind {kind : Char → Bool} {other : Char} (inside : kind c = true)
    (outside : kind other = false) : c ≠ other := by
  rintro rfl
  rw [inside] at outside
  cases outside

theorem moreDigits_append (all : ∀ d ∈ digits, d.isDigit = true) (ends : EndsLine rest) :
    moreDigits Char.isDigit (digits ++ rest) = (digits, rest) := by
  induction digits with
  | nil =>
    cases rest with
    | nil => rfl
    | cons c rest =>
      obtain rfl := ends.cons
      simp [moreDigits]
  | cons d digits ih =>
    obtain ⟨digit, others⟩ := List.forall_mem_cons.mp all
    have no_underscore : d ≠ '_' := ne_of_kind digit (by decide)
    simp [moreDigits, no_underscore, digit, ih others]

theorem digitsWith?_append (all : ∀ d ∈ digits, d.isDigit = true) (some_digit : digits ≠ [])
    (ends : EndsLine rest) :
    digitsWith? Char.isDigit (digits ++ rest) = some (digits, rest) := by
  cases digits with
  | nil => exact absurd rfl some_digit
  | cons d digits =>
    obtain ⟨digit, others⟩ := List.forall_mem_cons.mp all
    simp [digitsWith?, digit, moreDigits_append others ends]

/-- The decimal digits of a number. -/
def decimal (n : Nat) : List Char := Nat.toDigits 10 n

theorem decimal_digits (n : Nat) : ∀ d ∈ decimal n, d.isDigit = true :=
  fun _ => Nat.isDigit_of_mem_toDigits (by decide) (by decide)

theorem decimal_ne_nil (n : Nat) : decimal n ≠ [] := Nat.toDigits_ne_nil

theorem decimalNumber_decimal (n : Nat) : decimalNumber (decimal n) = n := by
  have same := Nat.ofDigitChars_toDigits (b := 10) (n := n) (by decide) (by decide)
  rwa [Nat.ofDigitChars_eq_foldl] at same

/-- No zero leads another digit. -/
theorem decimal_leads {n : Nat} (positive : 0 < n) :
    ∃ d digits, decimal n = d :: digits ∧ d ≠ '0' := by
  induction n using Nat.strongRecOn with
  | ind n ih =>
    by_cases small : n < 10
    · refine ⟨n.digitChar, [], Nat.toDigits_of_lt_base small, ?_⟩
      rw [Ne, Nat.digitChar_eq_zero]
      omega
    · obtain ⟨d, digits, leads, nonzero⟩ := ih (n / 10) (by omega) (by omega)
      refine ⟨d, digits ++ [(n % 10).digitChar], ?_, nonzero⟩
      rw [decimal] at leads ⊢
      rw [Nat.toDigits_of_base_le (by decide) (by omega), leads, List.cons_append]

theorem decimalDigits?_decimal (n : Nat) (ends : EndsLine rest) :
    decimalDigits? (decimal n ++ rest) = some (decimal n, rest) := by
  rcases Nat.eq_zero_or_pos n with rfl | positive
  · rfl
  · have read := digitsWith?_append (decimal_digits n) (decimal_ne_nil n) ends
    obtain ⟨d, digits, leads, nonzero⟩ := decimal_leads positive
    rw [leads] at read ⊢
    unfold decimalDigits?
    split
    · simp_all
    · exact read

/-- The text of an integer has its sign and then the decimal digits of its magnitude. -/
theorem toList_toString (n : Int) :
    (toString n).toList = (if n < 0 then ['-'] else []) ++ decimal n.natAbs := by
  cases n with
  | ofNat m => exact Nat.toList_repr
  | negSucc m =>
    have text : (toString (Int.negSucc m)).toList = '-' :: decimal (m + 1) := by
      change ("-" ++ Nat.repr (m + 1)).toList = _
      rw [String.toList_append, Nat.toList_repr]
      rfl
    rw [text, if_pos (Int.negSucc_lt_zero m)]
    rfl

theorem decimal_append_head {n : Nat} (head : decimal n ++ rest = c :: digits) :
    c.isDigit = true := by
  obtain ⟨d, others, leads⟩ := List.exists_cons_of_ne_nil (decimal_ne_nil n)
  rw [leads, List.cons_append, List.cons.injEq] at head
  exact head.1 ▸ decimal_digits n d (by simp [leads])

theorem sign_toString (n : Int) :
    sign ((toString n).toList ++ rest) = (decide (n < 0), decimal n.natAbs ++ rest) := by
  rw [toList_toString]
  by_cases negative : n < 0
  · simp [negative, sign]
  · simp only [negative, if_false, List.nil_append, decide_false]
    unfold sign
    split
    · exact absurd (decimal_append_head ‹_›) (by decide)
    · exact absurd (decimal_append_head ‹_›) (by decide)
    · rfl

theorem decimalInteger?_toString (n : Int) (ends : EndsLine rest) :
    decimalInteger? ((toString n).toList ++ rest) = some (n, rest) := by
  unfold decimalInteger?
  rw [sign_toString]
  dsimp only
  rw [decimalDigits?_decimal _ ends, Option.map_some, decimalNumber_decimal]
  have magnitude : (if n < 0 then -(n.natAbs : Int) else n.natAbs) = n := by
    split_ifs <;> omega
  simp only [decide_eq_true_eq, magnitude]

/-- The text of an integer starts with a digit or a minus. -/
theorem toString_append_head {n : Int} (head : (toString n).toList ++ rest = c :: digits) :
    c.isDigit = true ∨ c = '-' := by
  rw [toList_toString] at head
  split_ifs at head
  · exact .inr (List.cons.inj head).1.symm
  · exact .inl (decimal_append_head head)

/-- A zero in front is the whole integer. -/
theorem eq_rest_of_zero {n : Int} (head : (toString n).toList ++ rest = '0' :: digits) :
    digits = rest := by
  rw [toList_toString] at head
  split_ifs at head
  · cases head
  · rcases Nat.eq_zero_or_pos n.natAbs with zero | positive
    · rw [zero] at head
      exact (List.cons.inj head).2.symm
    · obtain ⟨d, others, leads, nonzero⟩ := decimal_leads positive
      rw [leads] at head
      exact absurd (List.cons.inj head).1 nonzero

theorem integer?_toString (n : Int) (ends : EndsLine rest) :
    integer? ((toString n).toList ++ rest) = (Word.ofInt? n).map (·, rest) := by
  have decimal_read := decimalInteger?_toString n ends
  have base (c : Char) (after : List Char)
      (marked : (toString n).toList ++ rest = '0' :: c :: after) : c = '\n' :=
    EndsLine.cons (eq_rest_of_zero marked ▸ ends)
  unfold integer?
  dsimp only
  split
  · exact absurd (base 'x' _ ‹_›) (by decide)
  · exact absurd (base 'o' _ ‹_›) (by decide)
  · exact absurd (base 'b' _ ‹_›) (by decide)
  · rw [decimal_read, Option.bind_some]

/-- What a run of digits leaves behind some of its own number. -/
theorem fixedDigits?_append (all : ∀ d ∈ digits, d.isDigit = true) (ends : EndsLine rest)
    {count number : Nat} {after : List Char}
    (read : fixedDigits? count (digits ++ rest) = some (number, after)) :
    ∃ fewer, (∀ d ∈ fewer, d.isDigit = true) ∧ after = fewer ++ rest := by
  unfold fixedDigits? at read
  dsimp only at read
  split_ifs at read with taken
  simp only [Bool.and_eq_true, beq_iff_eq, List.all_eq_true] at taken
  obtain ⟨full, only_digits⟩ := taken
  obtain ⟨-, rfl⟩ := Prod.mk.inj (Option.some.inj read)
  have within : count ≤ digits.length := by
    by_contra! beyond
    rcases ends with rfl | ⟨more, rfl⟩
    · rw [List.append_nil, List.length_take] at full
      omega
    · have newline : '\n' ∈ (digits ++ '\n' :: more).take count := by
        rw [List.take_append, List.take_of_length_le (by omega), List.take_cons (by omega)]
        simp
      exact absurd (only_digits _ newline) (by decide)
  exact ⟨digits.drop count, fun d among => all d (List.mem_of_mem_drop among),
    List.drop_append_of_le_length within⟩

theorem mark?_append (all : ∀ d ∈ digits, d.isDigit = true) (ends : EndsLine rest)
    (no_digit : c.isDigit = false) (no_newline : c ≠ '\n') : mark? c (digits ++ rest) = none := by
  cases digits with
  | nil =>
    rcases ends with rfl | ⟨more, rfl⟩
    · rfl
    · simp [mark?, no_newline.symm]
  | cons d digits =>
    have apart : d ≠ c := ne_of_kind (all d (by simp)) no_digit
    simp [mark?, apart]

/-- A run of digits is no date, for that has dashes, and no time of day, for that has colons. -/
theorem dateTime?_append (all : ∀ d ∈ digits, d.isDigit = true) (ends : EndsLine rest) :
    dateTime? (digits ++ rest) = none := by
  have unmarked (count : Nat) {read : Nat × List Char}
      (found : fixedDigits? count (digits ++ rest) = some read) {c : Char}
      (no_digit : c.isDigit = false) (no_newline : c ≠ '\n') : mark? c read.2 = none := by
    obtain ⟨fewer, fewer_digits, after⟩ := fixedDigits?_append all ends found
    rw [after]
    exact mark?_append fewer_digits ends no_digit no_newline
  have no_date : date? (digits ++ rest) = none := by
    unfold date?
    cases found : fixedDigits? 4 (digits ++ rest) with
    | none => rfl
    | some read => simp [unmarked 4 found (c := '-') (by decide) (by decide)]
  have no_time : hourMinute? (digits ++ rest) = none := by
    unfold hourMinute?
    cases found : fixedDigits? 2 (digits ++ rest) with
    | none => rfl
    | some read => simp [unmarked 2 found (c := ':') (by decide) (by decide)]
  simp [dateTime?, no_date, timeOfDay?, no_time]

theorem fixedDigits?_minus (count : Nat) (s : List Char) :
    fixedDigits? (count + 1) ('-' :: s) = none := by
  simp [fixedDigits?]

theorem dateTime?_toString (n : Int) (ends : EndsLine rest) :
    dateTime? ((toString n).toList ++ rest) = none := by
  rw [toList_toString]
  split_ifs
  · simp [dateTime?, date?, timeOfDay?, hourMinute?, fixedDigits?_minus]
  · exact dateTime?_append (decimal_digits _) ends

/-- Without a fraction and without an exponent an integer is no float. -/
theorem float?_toString (n : Int) (ends : EndsLine rest) :
    float? ((toString n).toList ++ rest) = none := by
  have no_fraction : fraction? rest = none := by
    rcases ends with rfl | ⟨more, rfl⟩ <;> rfl
  have no_exponent : exponent? rest = none := by
    rcases ends with rfl | ⟨more, rfl⟩ <;> rfl
  unfold float?
  rw [sign_toString]
  dsimp only
  split
  · exact absurd (decimal_append_head ‹_›) (by decide)
  · exact absurd (decimal_append_head ‹_›) (by decide)
  · simp [decimalDigits?_decimal _ ends, no_fraction, no_exponent]

/-- The value of an integer, which must be a word. -/
def integerItem? (n : Int) : Option Item := (Word.ofInt? n).map .integer

theorem plainValue?_toString (n : Int) (ends : EndsLine rest) :
    plainValue? ((toString n).toList ++ rest) = (integerItem? n).map (·, rest) := by
  unfold plainValue?
  split
  · exact absurd (toString_append_head ‹_›) (by decide)
  · exact absurd (toString_append_head ‹_›) (by decide)
  · exact absurd (toString_append_head ‹_›) (by decide)
  · exact absurd (toString_append_head ‹_›) (by decide)
  · rw [dateTime?_toString n ends, float?_toString n ends, integer?_toString n ends]
    simp [integerItem?, Function.comp_def]

/-- A decimal integer at the end of a line is read as the word it denotes, and is no value if it
denotes none. -/
theorem value?_toString (depth : Nat) (n : Int) (ends : EndsLine rest) :
    value? depth ((toString n).toList ++ rest) = (integerItem? n).map (·, rest) := by
  cases depth with
  | zero =>
    unfold value?
    split
    · exact absurd (toString_append_head ‹_›) (by decide)
    · exact absurd (toString_append_head ‹_›) (by decide)
    · exact plainValue?_toString n ends
  | succ depth =>
    unfold value?
    split
    · exact absurd (toString_append_head ‹_›) (by decide)
    · exact absurd (toString_append_head ‹_›) (by decide)
    · exact plainValue?_toString n ends

end TabletUpkeep.Toml
