import TabletUpkeep.Proofs.CheckedSums
import TabletUpkeep.Tablet.Rowset

/-! Totals over the rowsets of a version. The data size has no negative summands, so its exact sum
alone decides whether there is a total. Rows are signed, so a total can be missing that would fit,
and its being there can hang on the order of the rowsets. -/
namespace TabletUpkeep.VersionContents

open Word (Fits exactSum)

/-- The contents after further rowsets, one after the other. -/
def pushAll (e : VersionContents) (rowsets : List Rowset) : VersionContents := rowsets.foldl push e

/-- The rows of rowsets as an integer. -/
def exactRows (rowsets : List Rowset) : Int := exactSum (rowsets.map (·.rows))

/-- The data size of rowsets as an integer. -/
def exactDataSize (rowsets : List Rowset) : Int := exactSum (rowsets.map (·.dataSize))

theorem toInt_zero_rows : Word.toInt (0 : Int64) = 0 := by decide

theorem toInt_zero_size : Word.toInt (0 : UInt64) = 0 := by decide

theorem dataSizes_nonneg (rowsets : List Rowset) :
    ∀ size ∈ rowsets.map (·.dataSize), 0 ≤ Word.toInt size :=
  fun size _ => Int.natCast_nonneg size.toNat

section

variable (e : VersionContents) (r : Rowset) (more : List Rowset)

@[simp] theorem rowsets_empty (version : Version) (versionHash : Int64) :
    (empty version versionHash).rowsets = [] := rfl

@[simp] theorem rowsets_pushAll : (e.pushAll more).rowsets = e.rowsets ++ more := by
  unfold pushAll
  induction more generalizing e with
  | nil => simp
  | cons r more ih => simp [ih]

theorem dataSize?_push : (e.push r).dataSize? = e.dataSize?.bind (Word.add? · r.dataSize) := by
  simp [dataSize?, Word.sumFrom?_snoc]

theorem rows?_push : (e.push r).rows? = e.rows?.bind (Word.add? · r.rows) := by
  simp [rows?, Word.sumFrom?_snoc]

theorem dataSize?_pushAll :
    (e.pushAll more).dataSize? =
      e.dataSize?.bind (Word.sumFrom? · (more.map (·.dataSize))) := by
  simp [dataSize?, Word.sumFrom?_append]

theorem dataSize?_eq_ofInt? : e.dataSize? = Word.ofInt? (exactDataSize e.rowsets) := by
  rw [dataSize?, Word.sumFrom?_eq_ofInt? (dataSizes_nonneg _), toInt_zero_size, Int.zero_add,
    exactDataSize]

theorem dataSize?_eq_none_iff :
    e.dataSize? = none ↔ Word.greatest (α := UInt64) < exactDataSize e.rowsets := by
  rw [dataSize?, Word.sumFrom?_eq_none_iff_of_nonneg (dataSizes_nonneg _), toInt_zero_size,
    Int.zero_add, exactDataSize]

theorem rows?_eq_none_iff :
    e.rows? = none ↔ ∃ part, part <+: e.rowsets ∧ ¬ Fits Int64 (exactRows part) := by
  simp only [rows?, Word.sumFrom?_eq_none_iff, toInt_zero_rows, Int.zero_add, exactRows]
  constructor
  · rintro ⟨counts, begins, unfit⟩
    obtain ⟨part, within, rfl⟩ := List.prefix_map_iff.mp begins
    exact ⟨part, within, unfit⟩
  · rintro ⟨part, begins, unfit⟩
    exact ⟨part.map (·.rows), begins.map _, unfit⟩

theorem rows?_eq_none_iff_of_nonneg (counted : ∀ r ∈ e.rowsets, 0 ≤ r.rows.toInt) :
    e.rows? = none ↔ Word.greatest (α := Int64) < exactRows e.rowsets := by
  rw [rows?, Word.sumFrom?_eq_none_iff_of_nonneg (List.forall_mem_map.mpr counted), toInt_zero_rows,
    Int.zero_add, exactRows]

end

variable {e shuffled : VersionContents}

theorem toNat_dataSize? {total : UInt64} (found : e.dataSize? = some total) :
    total.toNat = exactDataSize e.rowsets := by
  rw [dataSize?_eq_ofInt?] at found
  exact (Word.ofInt?_eq_some _ _).mp found

theorem toInt_rows? {total : Int64} (found : e.rows? = some total) :
    total.toInt = exactRows e.rowsets := by
  have exact_total := Word.toInt_of_sumFrom? found
  rwa [toInt_zero_rows, Int.zero_add] at exact_total

theorem dataSize?_perm (same : e.rowsets.Perm shuffled.rowsets) :
    shuffled.dataSize? = e.dataSize? :=
  Word.sumFrom?_perm (dataSizes_nonneg _) 0 (same.map _)

theorem rows?_perm (counted : ∀ r ∈ e.rowsets, 0 ≤ r.rows.toInt)
    (same : e.rowsets.Perm shuffled.rowsets) : shuffled.rows? = e.rows? :=
  Word.sumFrom?_perm (List.forall_mem_map.mpr counted) 0 (same.map _)

/-- The totals of contents filled rowset by rowset. There is a data size exactly when the sum of the
sizes is a word, whatever the order, and once it is missing it stays so. There is a number of rows
exactly when the rows of no first part leave their word, which for counts that are not negative the
sum decides too. Where a total is there before and after an addition, it grows by the addition. -/
theorem totals_of_rowsets (version : Version) (versionHash : Int64) (rowsets : List Rowset) :
    let filled (rowsets : List Rowset) := (empty version versionHash).pushAll rowsets
    let e := filled rowsets
    (e.dataSize? = none ↔ Word.greatest (α := UInt64) < exactDataSize rowsets) ∧
    (∀ total, e.dataSize? = some total → total.toNat = exactDataSize rowsets) ∧
    (e.dataSize? = none → ∀ more, (e.pushAll more).dataSize? = none) ∧
    (∀ shuffled, rowsets.Perm shuffled → (filled shuffled).dataSize? = e.dataSize?) ∧
    (e.rows? = none ↔ ∃ part, part <+: rowsets ∧ ¬ Fits Int64 (exactRows part)) ∧
    (∀ total, e.rows? = some total → total.toInt = exactRows rowsets) ∧
    ((∀ r ∈ rowsets, 0 ≤ r.rows.toInt) →
      (e.rows? = none ↔ Word.greatest (α := Int64) < exactRows rowsets) ∧
      ∀ shuffled, rowsets.Perm shuffled → (filled shuffled).rows? = e.rows?) ∧
    (∀ r before after, e.dataSize? = some before → (e.push r).dataSize? = some after →
      after.toNat = before.toNat + r.dataSize.toNat) ∧
    ∀ r before after, e.rows? = some before → (e.push r).rows? = some after →
      after.toInt = before.toInt + r.rows.toInt := by
  intro filled e
  have contents (rowsets : List Rowset) : (filled rowsets).rowsets = rowsets := by simp [filled]
  refine ⟨?_, ?_, ?_, ?_, ?_, ?_, ?_, ?_, ?_⟩
  · rw [dataSize?_eq_none_iff, contents]
  · intro total found
    rw [toNat_dataSize? found, contents]
  · intro missing more
    simp [dataSize?_pushAll, missing]
  · intro shuffled same
    apply dataSize?_perm
    rwa [contents, contents]
  · rw [rows?_eq_none_iff, contents]
  · intro total found
    rw [toInt_rows? found, contents]
  · intro counted
    have counted_contents : ∀ r ∈ e.rowsets, 0 ≤ r.rows.toInt := by rwa [contents]
    refine ⟨?_, fun shuffled same => ?_⟩
    · rw [rows?_eq_none_iff_of_nonneg e counted_contents, contents]
    · apply rows?_perm counted_contents
      rwa [contents, contents]
  · intro r before after found grown
    rw [dataSize?_push, found] at grown
    exact Int.ofNat.inj (Word.add?_eq_some.mp grown)
  · intro r before after found grown
    rw [rows?_push, found] at grown
    exact Word.add?_eq_some.mp grown

/-- A full count of rows falls again with a negative addition, while a data size that has left its
word stays missing. -/
theorem totals_at_the_limits :
    let load (rows : Int64) (dataSize : UInt64) : Rowset := ⟨1, 1, rows, dataSize, 0, false, []⟩
    let filled (rowsets : List Rowset) := (empty ⟨2, 5⟩ 7).pushAll rowsets
    let full := [load 9223372036854775800 18446744073709551600, load 7 10]
    let beyond := full ++ [load (-1) 6]
    let more := load (-1) 5
    (filled full).rows? = some 9223372036854775807 ∧
    (filled full.reverse).rows? = some 9223372036854775807 ∧
    (filled full.reverse).dataSize? = some 18446744073709551610 ∧
    (∀ after, ((filled full).push more).rows? = some after → after.toInt = 9223372036854775806) ∧
    (∀ after, ((filled full).push more).dataSize? = some after →
      after.toNat = 18446744073709551615) ∧
    (filled beyond).dataSize? = none ∧ ((filled beyond).pushAll full).dataSize? = none := by
  intro load filled full beyond more
  have rows_full : (filled full).rows? = some 9223372036854775807 := by decide
  have size_full : (filled full).dataSize? = some 18446744073709551610 := by decide
  have missing : (filled beyond).dataSize? = none := by decide
  have counted : ∀ r ∈ full, 0 ≤ r.rows.toInt := by decide
  have reversed : full.Perm full.reverse := (List.reverse_perm full).symm
  obtain ⟨-, -, -, size_order, -, -, unsigned, size_grows, rows_grow⟩ :=
    totals_of_rowsets ⟨2, 5⟩ 7 full
  obtain ⟨-, -, sticks, -⟩ := totals_of_rowsets ⟨2, 5⟩ 7 beyond
  refine ⟨rows_full, ?_, ?_, ?_, ?_, missing, sticks missing full⟩
  · exact ((unsigned counted).2 _ reversed).trans rows_full
  · exact (size_order _ reversed).trans size_full
  · intro after found
    rw [rows_grow more _ after rows_full found]
    decide
  · intro after found
    rw [size_grows more _ after size_full found]
    decide

end TabletUpkeep.VersionContents
