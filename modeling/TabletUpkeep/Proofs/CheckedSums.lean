import Mathlib.Algebra.BigOperators.Group.List.Basic
import Mathlib.Algebra.Ring.Int.Defs
import TabletUpkeep.Word

/-! Sums of words that are checked at every step. Such a sum is missing as soon as the exact sum of
some first part leaves the word. Where no summand is negative the first parts never fall, so that
the exact total alone decides, and with it neither the order nor the grouping counts. -/
namespace TabletUpkeep.Word

/-- The integers that are words. -/
def Fits (α : Type) [Word α] (n : Int) : Prop := least (α := α) ≤ n ∧ n ≤ greatest (α := α)

variable {α : Type} [Word α]

instance (n : Int) : Decidable (Fits α n) := inferInstanceAs (Decidable (_ ∧ _))

theorem ofInt?_toInt (a : α) : ofInt? (toInt a) = some a := (ofInt?_eq_some _ a).mpr rfl

theorem fits_toInt (a : α) : Fits α (toInt a) :=
  (ofInt?_isSome _).mp (Option.isSome_iff_exists.mpr ⟨a, ofInt?_toInt a⟩)

theorem toInt_injective : Function.Injective (toInt : α → Int) := by
  intro a b same
  have found := ofInt?_toInt a
  rw [same, ofInt?_toInt] at found
  exact (Option.some.inj found).symm

theorem add?_eq_none {a b : α} : add? a b = none ↔ ¬ Fits α (toInt a + toInt b) := by
  rw [Option.eq_none_iff_forall_ne_some, ← not_exists, ← Option.isSome_iff_exists]
  exact add?_isSome.not

/-- The sum of words as integers, which always exists. -/
def exactSum (words : List α) : Int := (words.map toInt).sum

@[simp] theorem exactSum_nil : exactSum ([] : List α) = 0 := rfl

@[simp] theorem exactSum_cons (a : α) (words : List α) :
    exactSum (a :: words) = toInt a + exactSum words := by
  simp [exactSum]

theorem exactSum_append (words more : List α) :
    exactSum (words ++ more) = exactSum words + exactSum more := by
  simp [exactSum]

theorem exactSum_perm {words shuffled : List α} (same : words.Perm shuffled) :
    exactSum shuffled = exactSum words :=
  (same.map toInt).sum_eq.symm

theorem exactSum_nonneg {words : List α} (positive : ∀ a ∈ words, 0 ≤ toInt a) :
    0 ≤ exactSum words := by
  induction words with
  | nil => exact Int.le_refl 0
  | cons a words ih =>
    obtain ⟨first, others⟩ := List.forall_mem_cons.mp positive
    have := ih others
    rw [exactSum_cons]
    omega

theorem sumFrom?_append (start : α) (words more : List α) :
    sumFrom? start (words ++ more) = (sumFrom? start words).bind (sumFrom? · more) := by
  induction words generalizing start with
  | nil => rfl
  | cons a words ih =>
    rw [List.cons_append, sumFrom?_cons, sumFrom?_cons, Option.bind_assoc]
    exact congrArg _ (funext ih)

theorem sumFrom?_snoc (start a : α) (words : List α) :
    sumFrom? start (words ++ [a]) = (sumFrom? start words).bind (add? · a) := by
  simp [sumFrom?_append, sumFrom?_cons]

theorem toInt_of_sumFrom? {start total : α} {words : List α}
    (found : sumFrom? start words = some total) :
    toInt total = toInt start + exactSum words := by
  induction words generalizing start with
  | nil =>
    obtain rfl := Option.some.inj found
    simp
  | cons a words ih =>
    obtain ⟨next, added, later⟩ := Option.bind_eq_some_iff.mp found
    rw [ih later, add?_eq_some.mp added, exactSum_cons, Int.add_assoc]

/-- A sum is missing exactly when the exact sum of a first part is no word. -/
theorem sumFrom?_eq_none_iff {start : α} {words : List α} :
    sumFrom? start words = none ↔
      ∃ part, part <+: words ∧ ¬ Fits α (toInt start + exactSum part) := by
  induction words generalizing start with
  | nil =>
    refine iff_of_false (Option.some_ne_none start) ?_
    rintro ⟨part, begins, unfit⟩
    obtain rfl := List.prefix_nil.mp begins
    exact unfit (by simpa using fits_toInt start)
  | cons a words ih =>
    rw [sumFrom?_cons]
    cases added : add? start a with
    | none =>
      have unfit := add?_eq_none.mp added
      exact iff_of_true rfl ⟨[a], by simp, by simpa using unfit⟩
    | some next =>
      have exact_next := add?_eq_some.mp added
      simp only [Option.bind_some, ih, List.prefix_cons_iff, exact_next]
      constructor
      · rintro ⟨part, begins, unfit⟩
        refine ⟨a :: part, .inr ⟨part, rfl, begins⟩, ?_⟩
        rwa [exactSum_cons, ← Int.add_assoc]
      · rintro ⟨part, rfl | ⟨part, rfl, begins⟩, unfit⟩
        · exact absurd (by simpa using fits_toInt start) unfit
        · refine ⟨part, begins, ?_⟩
          rwa [exactSum_cons, ← Int.add_assoc] at unfit

section

variable {words : List α} (positive : ∀ a ∈ words, 0 ≤ toInt a)

include positive

/-- Without negative summands no sum on the way exceeds the total. -/
theorem sumFrom?_eq_none_iff_of_nonneg (start : α) :
    sumFrom? start words = none ↔ greatest (α := α) < toInt start + exactSum words := by
  rw [sumFrom?_eq_none_iff]
  constructor
  · rintro ⟨part, ⟨rest, rfl⟩, unfit⟩
    have part_positive : 0 ≤ exactSum part :=
      exactSum_nonneg fun a among => positive a (List.mem_append_left rest among)
    have rest_positive : 0 ≤ exactSum rest :=
      exactSum_nonneg fun a among => positive a (List.mem_append_right part among)
    have begins := (fits_toInt start).1
    rw [exactSum_append]
    unfold Fits at unfit
    omega
  · intro beyond
    exact ⟨words, List.prefix_refl words, fun fits => by have := fits.2; omega⟩

theorem sumFrom?_eq_ofInt? (start : α) :
    sumFrom? start words = ofInt? (toInt start + exactSum words) := by
  cases found : sumFrom? start words with
  | none =>
    have beyond := (sumFrom?_eq_none_iff_of_nonneg positive start).mp found
    refine (Option.not_isSome_iff_eq_none.mp fun fits => ?_).symm
    have := ((ofInt?_isSome _).mp fits).2
    omega
  | some total => exact ((ofInt?_eq_some _ _).mpr (toInt_of_sumFrom? found)).symm

theorem sumFrom?_perm (start : α) {shuffled : List α} (same : words.Perm shuffled) :
    sumFrom? start shuffled = sumFrom? start words := by
  have shuffled_positive : ∀ a ∈ shuffled, 0 ≤ toInt a := fun a among =>
    positive a (same.mem_iff.mpr among)
  rw [sumFrom?_eq_ofInt? positive, sumFrom?_eq_ofInt? shuffled_positive, exactSum_perm same]

end

end TabletUpkeep.Word
