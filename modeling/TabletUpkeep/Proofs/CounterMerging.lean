import TabletUpkeep.Proofs.CheckedSums
import TabletUpkeep.Tablet.ReadCounters

/-! Merging read counters, one statistics after the other. A counter is never touched on behalf of
another one, so that a merge that breaks off has added the counters before the one that overflows and
no others, and a list of merges adds up every counter by itself. -/
namespace TabletUpkeep.ReadCounters

open Word (Fits exactSum)

/-- All that a record holds, by name and in the order of declaration. -/
def entries (s : ReadCounters) : List (String × Int64) :=
  [("io_ns", s.ioNanos), ("compressed_bytes_read", s.compressedBytesRead),
   ("decompress_ns", s.decompressNanos), ("uncompressed_bytes_read", s.uncompressedBytesRead),
   ("bytes_read", s.bytesRead), ("block_load_ns", s.blockLoadNanos),
   ("blocks_load", s.blocksLoaded), ("block_fetch_ns", s.blockFetchNanos),
   ("raw_rows_read", s.rawRowsRead), ("rows_vec_cond_filtered", s.rowsVectorFiltered),
   ("vec_cond_ns", s.vectorFilterNanos), ("rows_stats_filtered", s.rowsStatsFiltered),
   ("rows_del_filtered", s.rowsDeleteFiltered), ("index_load_ns", s.indexLoadNanos)]

/-- Counters that read a record entry by entry and leave nothing of it out. -/
structure Complete (cs : List Counter) : Prop where
  entries : ∀ s : ReadCounters, cs.map (fun c => (c.key, c.get s)) = s.entries
  whole : ∀ s t : ReadCounters, (∀ c ∈ cs, c.get s = c.get t) → s = t

theorem counters_complete : Complete counters := ⟨fun _ => rfl, fun _ _ => eq_of_counters⟩

/-- The sum of a counter over two statistics as an integer. -/
def counterSum (total other : ReadCounters) (c : Counter) : Int :=
  (c.get total).toInt + (c.get other).toInt

/-- What a merge comes to. If all sums are words every counter becomes its sum. Otherwise those
before the first one whose sum is no word do, and this one and all after it stay. -/
structure Merged (total other after : ReadCounters) (ok : Bool) : Prop where
  fits : ok = true ↔ ∀ c ∈ counters, Fits Int64 (counterSum total other c)
  sums : ok = true → ∀ c ∈ counters, (c.get after).toInt = counterSum total other c
  breaks : ok = false → ∃ before k rest, counters = before ++ k :: rest ∧
    (∀ c ∈ before, Fits Int64 (counterSum total other c) ∧
      (c.get after).toInt = counterSum total other c) ∧
    ¬ Fits Int64 (counterSum total other k) ∧ ∀ c ∈ k :: rest, c.get after = c.get total

variable {total other after start : ReadCounters} {cs : List Counter}

theorem addCounters_cons (c : Counter) :
    addCounters other (c :: cs) total =
      (Word.add? (c.get total) (c.get other)).elim (total, false)
        fun sum => addCounters other cs (c.set sum total) := by
  rw [addCounters]
  cases Word.add? (c.get total) (c.get other) <;> rfl

theorem get_addCounters_of_apart {d : Counter} (apart : ∀ c ∈ cs, d.Apart c) :
    d.get (addCounters other cs total).1 = d.get total := by
  induction cs generalizing total with
  | nil => rfl
  | cons c cs ih =>
    obtain ⟨first, others⟩ := List.forall_mem_cons.mp apart
    rw [addCounters_cons]
    cases Word.add? (c.get total) (c.get other) with
    | none => rfl
    | some sum => exact (ih others).trans (first sum total).1

/-- The outcome of adding some counters, in terms of the single checked additions. -/
inductive Added (total other : ReadCounters) (cs : List Counter) : ReadCounters × Bool → Prop
  | whole (after : ReadCounters)
      (sums : ∀ c ∈ cs, Word.add? (c.get total) (c.get other) = some (c.get after)) :
      Added total other cs (after, true)
  | broken (after : ReadCounters) (before : List Counter) (k : Counter) (rest : List Counter)
      (split : cs = before ++ k :: rest)
      (sums : ∀ c ∈ before, Word.add? (c.get total) (c.get other) = some (c.get after))
      (unfit : Word.add? (k.get total) (k.get other) = none)
      (kept : ∀ c ∈ k :: rest, c.get after = c.get total) : Added total other cs (after, false)

theorem added (settable : ∀ c ∈ cs, ∀ value s, c.get (c.set value s) = value)
    (apart : cs.Pairwise Counter.Apart) : Added total other cs (addCounters other cs total) := by
  induction cs generalizing total with
  | nil => exact .whole total (by simp)
  | cons c cs ih =>
    obtain ⟨set_c, set_others⟩ := List.forall_mem_cons.mp settable
    obtain ⟨apart_c, apart_others⟩ := List.pairwise_cons.mp apart
    rw [addCounters_cons]
    cases sum_c : Word.add? (c.get total) (c.get other) with
    | none => exact .broken total [] c cs rfl (by simp) sum_c (by simp)
    | some sum =>
      -- what comes after starts from the other counters as they were, and leaves this one alone
      have same : ∀ d ∈ cs, d.get (c.set sum total) = d.get total :=
        fun d among => (apart_c d among sum total).2
      have own : c.get (addCounters other cs (c.set sum total)).1 = sum :=
        (get_addCounters_of_apart apart_c).trans (set_c sum total)
      have later : Added (c.set sum total) other cs (addCounters other cs (c.set sum total)) :=
        ih set_others apart_others
      simp only [Option.elim_some]
      generalize addCounters other cs (c.set sum total) = outcome at own later ⊢
      cases later with
      | whole after sums =>
        refine .whole after (List.forall_mem_cons.mpr ⟨sum_c.trans (congrArg some own.symm), ?_⟩)
        intro d among
        rw [← same d among]
        exact sums d among
      | broken after before k rest split sums unfit kept =>
        have among (d : Counter) (within : d ∈ before ++ k :: rest) :
            d.get (c.set sum total) = d.get total := same d (split ▸ within)
        refine .broken after (c :: before) k rest (by rw [split]; rfl) ?_ ?_ ?_
        · refine List.forall_mem_cons.mpr ⟨sum_c.trans (congrArg some own.symm), ?_⟩
          intro d within
          rw [← among d (by simp [within])]
          exact sums d within
        · rwa [← among k (by simp)]
        · intro d within
          rw [kept d within, among d (List.mem_append_right before within)]

section

variable {outcome : ReadCounters × Bool}

theorem Added.sums (added : Added total other cs outcome) (ok : outcome.2 = true) :
    ∀ c ∈ cs, Word.add? (c.get total) (c.get other) = some (c.get outcome.1) := by
  cases added with
  | whole after sums => exact sums
  | broken after before k rest split sums unfit kept => cases ok

theorem Added.ok (added : Added total other cs outcome)
    (fits : ∀ c ∈ cs, Word.add? (c.get total) (c.get other) ≠ none) : outcome.2 = true := by
  cases added with
  | whole after sums => rfl
  | broken after before k rest split sums unfit kept =>
    exact absurd unfit (fits k (by simp [split]))

theorem fits_counterSum_iff {c : Counter} :
    Fits Int64 (counterSum total other c) ↔ Word.add? (c.get total) (c.get other) ≠ none :=
  (not_iff_comm.mp Word.add?_eq_none.symm).symm

theorem Added.merged (added : Added total other counters outcome) :
    Merged total other outcome.1 outcome.2 := by
  refine ⟨⟨fun ok c among => ?_, fun fits => ?_⟩, fun ok c among => ?_, fun broken => ?_⟩
  · rw [fits_counterSum_iff, added.sums ok c among]
    exact Option.some_ne_none _
  · exact added.ok fun c among => fits_counterSum_iff.mp (fits c among)
  · exact Word.add?_eq_some.mp (added.sums ok c among)
  · cases added with
    | whole after sums => cases broken
    | broken after before k rest split sums unfit kept =>
      refine ⟨before, k, rest, split, fun c among => ⟨?_, ?_⟩, Word.add?_eq_none.mp unfit, kept⟩
      · rw [fits_counterSum_iff, sums c among]
        exact Option.some_ne_none _
      · exact Word.add?_eq_some.mp (sums c among)

end

theorem merge_added (total other : ReadCounters) :
    Added total other counters (merge total other) := added get_set counters_apart

/-- The total that a list of merges leaves, those that break off included. -/
def totalAfter (start : ReadCounters) (merges : List ReadCounters) : ReadCounters :=
  merges.foldl (fun total other => (merge total other).1) start

/-- No merge of a list breaks off. -/
def AllMerged (start : ReadCounters) (merges : List ReadCounters) : Prop :=
  ∀ outcome ∈ mergeAll start merges, outcome.2 = true

variable {merges : List ReadCounters}

theorem mergeAll_getElem? (i : Nat) :
    (mergeAll start merges)[i]? = merges[i]?.map (merge (totalAfter start (merges.take i))) := by
  induction merges generalizing start i with
  | nil => rfl
  | cons s merges ih =>
    cases i with
    | zero => rfl
    | succ i => exact ih i

theorem allMerged_cons (s : ReadCounters) :
    AllMerged start (s :: merges) ↔
      (merge start s).2 = true ∧ AllMerged (merge start s).1 merges := List.forall_mem_cons

/-- Merging a list adds up each counter by itself. -/
theorem AllMerged.sums (all : AllMerged start merges) :
    ∀ c ∈ counters, Word.sumFrom? (c.get start) (merges.map c.get) =
      some (c.get (totalAfter start merges)) := by
  induction merges generalizing start with
  | nil => exact fun _ _ => rfl
  | cons s merges ih =>
    obtain ⟨first, others⟩ := (allMerged_cons s).mp all
    intro c among
    rw [List.map_cons, Word.sumFrom?_cons, (merge_added start s).sums first c among]
    exact ih others c among

theorem allMerged_of_sums
    (sums : ∀ c ∈ counters, Word.sumFrom? (c.get start) (merges.map c.get) ≠ none) :
    AllMerged start merges := by
  induction merges generalizing start with
  | nil => exact List.forall_mem_nil _
  | cons s merges ih =>
    have first : (merge start s).2 = true := by
      apply (merge_added start s).ok
      intro c among unfit
      exact sums c among (by simp [Word.sumFrom?_cons, unfit])
    refine (allMerged_cons s).mpr ⟨first, ih fun c among => ?_⟩
    have whole := sums c among
    rwa [List.map_cons, Word.sumFrom?_cons, (merge_added start s).sums first c among] at whole

theorem allMerged_iff :
    AllMerged start merges ↔
      ∀ c ∈ counters, Word.sumFrom? (c.get start) (merges.map c.get) ≠ none := by
  refine ⟨fun all c among => ?_, allMerged_of_sums⟩
  rw [all.sums c among]
  exact Option.some_ne_none _

/-- Statistics in which nothing counts backwards. -/
def Counting (merges : List ReadCounters) : Prop :=
  ∀ s ∈ merges, ∀ c ∈ counters, 0 ≤ (c.get s).toInt

section

variable {shuffled : List ReadCounters} (counting : Counting merges)

include counting

theorem Counting.column {c : Counter} (among : c ∈ counters) :
    ∀ value ∈ merges.map c.get, 0 ≤ Word.toInt value :=
  List.forall_mem_map.mpr fun s listed => counting s listed c among

theorem Counting.allMerged_iff_le :
    AllMerged start merges ↔ ∀ c ∈ counters,
      (c.get start).toInt + exactSum (merges.map c.get) ≤ Word.greatest (α := Int64) := by
  rw [allMerged_iff]
  refine forall₂_congr fun c among => ?_
  rw [Ne, Word.sumFrom?_eq_none_iff_of_nonneg (counting.column among), Int.not_lt]
  rfl

theorem Counting.allMerged_perm (same : merges.Perm shuffled) :
    AllMerged start shuffled ↔ AllMerged start merges := by
  rw [allMerged_iff, allMerged_iff]
  refine forall₂_congr fun c among => ?_
  rw [Word.sumFrom?_perm (counting.column among) (c.get start) (same.map c.get)]

theorem Counting.totalAfter_perm (same : merges.Perm shuffled) (all : AllMerged start merges) :
    totalAfter start shuffled = totalAfter start merges := by
  refine eq_of_counters fun c among => Option.some.inj ?_
  rw [← all.sums c among, ← ((counting.allMerged_perm same).mpr all).sums c among]
  exact Word.sumFrom?_perm (counting.column among) (c.get start) (same.map c.get)

end

/-- Merging a list of statistics into a total, merge by merge and as a whole. The counters are the
entries of a record, in their order. Each merge adds all of them, or those before the first one that
overflows. If none breaks off, each counter comes to the exact sum; and where no counter is
negative, the exact sums alone decide whether one does, so that every order of the list merges or
fails to, and comes to the same total. -/
theorem merges_exact (start : ReadCounters) (merges : List ReadCounters) :
    Complete counters ∧
    (∀ i other, merges[i]? = some other → ∃ after ok,
      (mergeAll start merges)[i]? = some (after, ok) ∧
        Merged (totalAfter start (merges.take i)) other after ok) ∧
    (AllMerged start merges → ∀ c ∈ counters,
      (c.get (totalAfter start merges)).toInt =
        (c.get start).toInt + exactSum (merges.map c.get)) ∧
    (Counting merges →
      (AllMerged start merges ↔ ∀ c ∈ counters,
        (c.get start).toInt + exactSum (merges.map c.get) ≤ Word.greatest (α := Int64)) ∧
      ∀ shuffled, merges.Perm shuffled →
        (AllMerged start shuffled ↔ AllMerged start merges) ∧
        (AllMerged start merges → totalAfter start shuffled = totalAfter start merges)) := by
  refine ⟨counters_complete, fun i other listed => ?_, fun all c among => ?_,
    fun counting => ⟨?_, ?_⟩⟩
  · refine ⟨_, _, ?_, (merge_added _ other).merged⟩
    rw [mergeAll_getElem?, listed, Option.map_some]
  · exact Word.toInt_of_sumFrom? (all.sums c among)
  · exact counting.allMerged_iff_le
  · exact fun shuffled same => ⟨counting.allMerged_perm same, counting.totalAfter_perm same⟩

/-- Two statistics fill a counter in either order. A third one adds to the counters before it,
stops there, and leaves those behind it alone. -/
theorem full_counter_stops_merge :
    let first : ReadCounters := ⟨1, 2, 3, 4, 9223372036854775800, 6, 7, 8, 9, 10, 11, 12, 13, 14⟩
    let second : ReadCounters := ⟨20, 20, 20, 20, 7, 20, 20, 20, 20, 20, 20, 20, 20, 20⟩
    let third : ReadCounters := ⟨4, 5, 6, 7, 1, 9, 9, 9, 9, 9, 9, 9, 9, 9⟩
    let full := totalAfter {} [first, second]
    let broken : ReadCounters :=
      { full with ioNanos := 25, compressedBytesRead := 27, decompressNanos := 29
                  uncompressedBytesRead := 31 }
    Complete counters ∧
    AllMerged {} [first, second] ∧
    full = ⟨21, 22, 23, 24, 9223372036854775807, 26, 27, 28, 29, 30, 31, 32, 33, 34⟩ ∧
    (∀ c ∈ counters, (c.get full).toInt =
      (c.get {}).toInt + exactSum ([first, second].map c.get)) ∧
    AllMerged {} [second, first] ∧ totalAfter {} [second, first] = full ∧
    (mergeAll {} [first, second, third])[2]? = some (broken, false) ∧
    Merged full third broken false := by
  intro first second third full broken
  obtain ⟨complete, -, sums, orders⟩ := merges_exact {} [first, second]
  obtain ⟨-, each, -, -⟩ := merges_exact {} [first, second, third]
  have counting : Counting [first, second] := by
    unfold Counting
    decide
  have all : AllMerged {} [first, second] := by
    unfold AllMerged
    decide
  have breaks : (mergeAll {} [first, second, third])[2]? = some (broken, false) := by decide
  obtain ⟨again, same⟩ := (orders counting).2 [second, first] (.swap second first [])
  refine ⟨complete, all, by decide, sums all, again.mpr all, same all, breaks, ?_⟩
  obtain ⟨after, ok, found, merged⟩ := each 2 third rfl
  cases breaks.symm.trans found
  exact merged

end TabletUpkeep.ReadCounters
