import TabletUpkeep.Proofs.MountLookup
import TabletUpkeep.Proofs.UsageRatio

/-! The fullest of the mounts in use. The usages that count are those of the mounts that hold a
directory; the peak is the greatest of them and depends on nothing else, neither on the order of
the directories nor on repetitions nor on directories that no mount holds. -/
namespace TabletUpkeep

/-- The usages of the mounts that hold a directory, in the order of the directories. -/
def usagesInUse (resolve : String → String) (dirs : List String) (mounts : List Mount) :
    List Float :=
  dirs.filterMap fun dir => (mountFor? (resolve dir) mounts).map Mount.usage

/-- The peak over usages seen before, if any, and further ones. -/
def highest (before : Option Float) (usages : List Float) : Option Float :=
  usages.foldl (fun before usage => some (higher before usage)) before

/-- One of the usages, which no other exceeds. -/
structure Greatest (usages : List Float) (usage : Float) : Prop where
  among : usage ∈ usages
  bound : ∀ other ∈ usages, other ≤ usage

/-- Floats that are ratios. -/
def AreRatios (usages : List Float) : Prop := ∀ usage ∈ usages, ∃ q, Ratio usage q

variable {resolve : String → String} {dirs : List String} {mounts : List Mount}

theorem mem_usagesInUse {usage : Float} :
    usage ∈ usagesInUse resolve dirs mounts ↔
      ∃ dir ∈ dirs, ∃ m, mountFor? (resolve dir) mounts = some m ∧ usage = m.usage := by
  simp only [usagesInUse, List.mem_filterMap, Option.map_eq_some_iff, @eq_comm _ usage]

theorem usagesInUse_ratios (resolve : String → String) (dirs : List String)
    (mounts : List Mount) : AreRatios (usagesInUse resolve dirs mounts) := by
  intro usage among
  obtain ⟨_, _, m, _, rfl⟩ := mem_usagesInUse.mp among
  exact usage_ratio m

/-- The peak after one more directory. -/
def raised (resolve : String → String) (mounts : List Mount) (before : Option Float)
    (dir : String) : Option Float :=
  (mountFor? (resolve dir) mounts).elim before fun m => some (higher before m.usage)

theorem foldl_raised (before : Option Float) :
    dirs.foldl (raised resolve mounts) before =
      highest before (usagesInUse resolve dirs mounts) := by
  induction dirs generalizing before with
  | nil => rfl
  | cons dir dirs ih =>
    rw [List.foldl_cons, ih, usagesInUse, usagesInUse, List.filterMap_cons, raised]
    cases mountFor? (resolve dir) mounts <;> rfl

theorem peakUsage_eq (resolve : String → String) (dirs : List String) (mounts : List Mount) :
    peakUsage resolve dirs mounts =
      (highest none (usagesInUse resolve dirs mounts)).elim
        (.error (.io ("no mounted filesystem found for data dirs " ++ Text.quotedList dirs)))
        .ok := by
  rw [← foldl_raised, peakUsage, List.foldl_ext _ (raised resolve mounts) none]
  · cases dirs.foldl (raised resolve mounts) none <;> rfl
  · intro before dir _
    rw [raised]
    cases mountFor? (resolve dir) mounts <;> rfl

/-- Of two ratios the higher one is neither below the first nor below the second. -/
theorem higher_spec {first second : Float} {p q : ℚ} (left : Ratio first p)
    (right : Ratio second q) :
    Ratio (higher (some first) second) (max p q) ∧
      (higher (some first) second = first ∨ higher (some first) second = second) := by
  have lt_iff := left.denotes.lt_iff right.denotes
  unfold higher
  dsimp only
  split_ifs with less
  · rw [max_eq_right (lt_iff.mp less).le]
    exact ⟨right, .inr rfl⟩
  · rw [max_eq_left (not_lt.mp (lt_iff.not.mp less))]
    exact ⟨left, .inl rfl⟩

/-- Going on from a usage, the peak is the greatest of that one and the further ones. The higher of
the first two takes the place of the one to go on from. -/
theorem highest_greatest {before : Float} {usages : List Float}
    (ratios : AreRatios (before :: usages)) :
    ∃ usage, highest (some before) usages = some usage ∧ Greatest (before :: usages) usage := by
  induction usages generalizing before with
  | nil =>
    obtain ⟨q, ratio⟩ := ratios before List.mem_cons_self
    refine ⟨before, rfl, List.mem_cons_self, ?_⟩
    intro other among
    obtain rfl := List.mem_singleton.mp among
    exact (ratio.denotes.le_iff ratio.denotes).mpr le_rfl
  | cons first usages ih =>
    obtain ⟨p, left⟩ := ratios before (by simp)
    obtain ⟨q, right⟩ := ratios first (by simp)
    obtain ⟨ratio, either⟩ := higher_spec left right
    have still : AreRatios (higher (some before) first :: usages) := by
      intro usage among
      rcases List.mem_cons.mp among with rfl | later
      · exact ⟨_, ratio⟩
      · exact ratios usage (by simp [later])
    obtain ⟨usage, found, among, bound⟩ := ih still
    obtain ⟨r, peak⟩ := still usage among
    have above := (ratio.denotes.le_iff peak.denotes).mp (bound _ List.mem_cons_self)
    refine ⟨usage, found, ?_, ?_⟩
    · rcases List.mem_cons.mp among with same | later
      · rcases either with earlier | further
        · simp [same, earlier]
        · simp [same, further]
      · simp [later]
    · refine List.forall_mem_cons.mpr ⟨?_, List.forall_mem_cons.mpr ⟨?_, ?_⟩⟩
      · exact (left.denotes.le_iff peak.denotes).mpr ((le_max_left p q).trans above)
      · exact (right.denotes.le_iff peak.denotes).mpr ((le_max_right p q).trans above)
      · exact fun other later => bound other (List.mem_cons_of_mem _ later)

theorem Greatest.unique {usages : List Float} {usage other : Float} (ratios : AreRatios usages)
    (one : Greatest usages usage) (two : Greatest usages other) : usage = other := by
  obtain ⟨p, left⟩ := ratios usage one.among
  obtain ⟨q, right⟩ := ratios other two.among
  have above := (left.denotes.le_iff right.denotes).mp (two.bound usage one.among)
  have below := (right.denotes.le_iff left.denotes).mp (one.bound other two.among)
  obtain rfl := above.antisymm below
  exact left.inj right

theorem highest_eq_none_iff {usages : List Float} (ratios : AreRatios usages) :
    highest none usages = none ↔ usages = [] := by
  cases usages with
  | nil => exact iff_of_true rfl rfl
  | cons first usages =>
    obtain ⟨peak, found, -⟩ := highest_greatest ratios
    have some : highest none (first :: usages) = some peak := found
    simp [some]

theorem highest_eq_some_iff {usages : List Float} (ratios : AreRatios usages) (usage : Float) :
    highest none usages = some usage ↔ Greatest usages usage := by
  cases usages with
  | nil =>
    refine iff_of_false (Option.some_ne_none usage).symm fun greatest => ?_
    exact List.not_mem_nil greatest.among
  | cons first usages =>
    obtain ⟨peak, found, greatest⟩ := highest_greatest ratios
    have same : highest none (first :: usages) = some peak := found
    rw [same, Option.some_inj]
    constructor
    · rintro rfl
      exact greatest
    · exact greatest.unique ratios

section

variable (resolve dirs mounts)

theorem peakUsage_ok_iff (usage : Float) :
    peakUsage resolve dirs mounts = .ok usage ↔
      Greatest (usagesInUse resolve dirs mounts) usage := by
  rw [peakUsage_eq, ← highest_eq_some_iff (usagesInUse_ratios resolve dirs mounts)]
  cases highest none (usagesInUse resolve dirs mounts) <;> simp

theorem peakUsage_error_iff (cause : UpkeepError) :
    peakUsage resolve dirs mounts = .error cause ↔
      cause = .io ("no mounted filesystem found for data dirs " ++ Text.quotedList dirs) ∧
        usagesInUse resolve dirs mounts = [] := by
  rw [peakUsage_eq, ← highest_eq_none_iff (usagesInUse_ratios resolve dirs mounts)]
  cases highest none (usagesInUse resolve dirs mounts) <;> simp [eq_comm]

theorem usagesInUse_eq_nil_iff :
    usagesInUse resolve dirs mounts = [] ↔
      ∀ dir ∈ dirs, ∀ m ∈ mounts, m.holds (resolve dir) = false := by
  simp only [usagesInUse, List.filterMap_eq_nil_iff, Option.map_eq_none_iff,
    mountFor?_eq_none_iff]

end

/-- Two samples that come to one usage, or to an I/O error each. -/
inductive Agree : Except UpkeepError Float → Except UpkeepError Float → Prop
  | ok (usage : Float) : Agree (.ok usage) (.ok usage)
  | io (text other : String) : Agree (.error (.io text)) (.error (.io other))

/-- The usages that count decide the outcome, in whatever order and however often they come. -/
theorem agree_of_usages {others : List String}
    (same : ∀ usage, usage ∈ usagesInUse resolve others mounts ↔
      usage ∈ usagesInUse resolve dirs mounts) :
    Agree (peakUsage resolve others mounts) (peakUsage resolve dirs mounts) := by
  cases found : peakUsage resolve dirs mounts with
  | ok usage =>
    obtain ⟨among, bound⟩ := (peakUsage_ok_iff ..).mp found
    have too : peakUsage resolve others mounts = .ok usage :=
      (peakUsage_ok_iff ..).mpr ⟨(same usage).mpr among, fun other within =>
        bound other ((same other).mp within)⟩
    rw [too]
    exact .ok usage
  | error cause =>
    obtain ⟨rfl, empty⟩ := (peakUsage_error_iff ..).mp found
    have none : usagesInUse resolve others mounts = [] := by
      simp only [List.eq_nil_iff_forall_not_mem, same, empty, List.not_mem_nil, not_false_eq_true,
        implies_true]
    rw [(peakUsage_error_iff ..).mpr ⟨rfl, none⟩]
    exact .io _ _

/-- A directory with a mount makes a difference, and no other one does. -/
theorem mem_usagesInUse_of_held {others : List String}
    (held : ∀ dir, (∃ m ∈ mounts, m.holds (resolve dir) = true) → dir ∈ dirs → dir ∈ others)
    {usage : Float} (among : usage ∈ usagesInUse resolve dirs mounts) :
    usage ∈ usagesInUse resolve others mounts := by
  obtain ⟨dir, listed, m, found, rfl⟩ := mem_usagesInUse.mp among
  refine mem_usagesInUse.mpr ⟨dir, held dir ?_ listed, m, found, rfl⟩
  obtain ⟨place, longest⟩ := mountFor?_eq_some_iff.mp found
  exact ⟨m, List.mem_of_getElem? longest.listed, (m.holds_iff _).mpr longest.begins⟩

/-- The peak is the greatest usage of a mount that holds a directory, and an error where there is
none, whatever the true places of the directories are. What no mount holds does not count, order
and repetition do not count either, and further directories never lower the peak. -/
theorem peak_of_mounts_in_use (resolve : String → String) (dirs : List String)
    (mounts : List Mount) :
    (∀ cause, peakUsage resolve dirs mounts = .error cause ↔
      cause = .io ("no mounted filesystem found for data dirs " ++ Text.quotedList dirs) ∧
        ∀ dir ∈ dirs, ∀ m ∈ mounts, m.holds (resolve dir) = false) ∧
    (∀ usage, peakUsage resolve dirs mounts = .ok usage ↔
      (∃ dir ∈ dirs, ∃ m, mountFor? (resolve dir) mounts = some m ∧ usage = m.usage) ∧
        ∀ dir ∈ dirs, ∀ m, mountFor? (resolve dir) mounts = some m → m.usage ≤ usage) ∧
    (∀ usage, peakUsage resolve dirs mounts = .ok usage → InUnit usage) ∧
    (∀ others : List String,
      (∀ dir, (∃ m ∈ mounts, m.holds (resolve dir) = true) → (dir ∈ others ↔ dir ∈ dirs)) →
      Agree (peakUsage resolve others mounts) (peakUsage resolve dirs mounts)) ∧
    ∀ more : List String, dirs ⊆ more → ∀ usage, peakUsage resolve dirs mounts = .ok usage →
      ∃ peak, peakUsage resolve more mounts = .ok peak ∧ usage ≤ peak := by
  refine ⟨fun cause => ?_, fun usage => ?_, fun usage found => ?_, fun others held => ?_,
    fun more part usage found => ?_⟩
  · rw [peakUsage_error_iff, usagesInUse_eq_nil_iff]
  · rw [peakUsage_ok_iff]
    constructor
    · rintro ⟨among, bound⟩
      refine ⟨mem_usagesInUse.mp among, fun dir listed m holding => ?_⟩
      exact bound _ (mem_usagesInUse.mpr ⟨dir, listed, m, holding, rfl⟩)
    · rintro ⟨among, bound⟩
      refine ⟨mem_usagesInUse.mpr among, fun other within => ?_⟩
      obtain ⟨dir, listed, m, holding, rfl⟩ := mem_usagesInUse.mp within
      exact bound dir listed m holding
  · have greatest := (peakUsage_ok_iff ..).mp found
    obtain ⟨q, ratio⟩ := usagesInUse_ratios _ _ _ usage greatest.among
    exact ratio.inUnit
  · refine agree_of_usages fun usage => ⟨?_, ?_⟩
    · exact mem_usagesInUse_of_held fun dir holding => (held dir holding).mp
    · exact mem_usagesInUse_of_held fun dir holding => (held dir holding).mpr
  · have among := ((peakUsage_ok_iff ..).mp found).among
    have still := mem_usagesInUse_of_held (fun dir _ listed => part listed) among
    cases later : peakUsage resolve more mounts with
    | ok peak => exact ⟨peak, rfl, ((peakUsage_ok_iff ..).mp later).bound usage still⟩
    | error cause =>
      rw [((peakUsage_error_iff ..).mp later).2] at still
      cases still

/-- A directory on no mount, another order and a repetition change nothing, and neither does a
mount without any space lower the peak. -/
theorem peak_beside_empty_mount :
    let mounts : List Mount := [⟨"/data1", 1000, 250⟩, ⟨"/data2", 10, 20⟩, ⟨"/data3", 0, 0⟩]
    let dirs := ["/data2/a", "/data1/b"]
    let others := ["/data1/b", "/elsewhere", "/data2/a", "/data1/b"]
    peakUsage id dirs mounts = .ok 0.75 ∧ InUnit 0.75 ∧
    Agree (peakUsage id others mounts) (.ok 0.75) ∧
    (∃ peak, peakUsage id (dirs ++ ["/data3/c"]) mounts = .ok peak ∧ 0.75 ≤ peak) ∧
    peakUsage id [] mounts = .error (.io "no mounted filesystem found for data dirs []") := by
  intro mounts dirs others
  obtain ⟨-, -, range, agree, grows⟩ := peak_of_mounts_in_use id dirs mounts
  obtain ⟨missing, -⟩ := peak_of_mounts_in_use id [] mounts
  have found : peakUsage id dirs mounts = .ok 0.75 := by decide +kernel
  have held (dir : String) (holding : ∃ m ∈ mounts, m.holds dir = true) :
      dir ∈ others ↔ dir ∈ dirs := by
    have elsewhere : dir ≠ "/elsewhere" := by
      rintro rfl
      revert holding
      decide
    simp [others, dirs, elsewhere, or_comm]
  refine ⟨found, range _ found, found ▸ agree others held, ?_, ?_⟩
  · exact grows _ (List.subset_append_left _ _) _ found
  · exact (missing _).mpr ⟨rfl, by simp⟩

end TabletUpkeep
