import TabletUpkeep.Supervisor.Plan

/-! The names of the workers of a node. A compaction worker is named by its tier and its number in
the pool, every other worker by its kind; no two workers get the same name. -/
namespace TabletUpkeep

namespace Post

/-- The number can be read back off the name. -/
theorem compactionName_injective (tier : Tier) (i j : Nat)
    (same : compactionName tier i = compactionName tier j) : i = j := by
  have digits := (String.append_right_inj (tier.text ++ "-compaction-")).mp same
  rw [Nat.toString_eq_ofList_toDigits, Nat.toString_eq_ofList_toDigits, String.ofList_inj] at digits
  simpa using congrArg (Nat.ofDigitChars 10 · 0) digits

theorem compactionName_tier (a b : Tier) (i j : Nat)
    (same : compactionName a i = compactionName b j) : a = b := by
  cases a <;> cases b
  case base.base => rfl
  case cumulative.cumulative => rfl
  all_goals simp [compactionName, Tier.text, ← String.toList_inj, String.toList_append] at same

theorem compactionName_inj {a b : Tier} {i j : Nat} :
    compactionName a i = compactionName b j ↔ a = b ∧ i = j := by
  constructor
  · intro same
    obtain rfl := compactionName_tier a b i j same
    exact ⟨rfl, compactionName_injective a i j same⟩
  · rintro ⟨rfl, rfl⟩
    rfl

theorem compactionName_ne_text (tier : Tier) (i : Nat) (kind : DutyKind) :
    compactionName tier i ≠ kind.text := by
  intro same
  cases tier <;> cases kind
  all_goals simp [compactionName, Tier.text, DutyKind.text, ← String.toList_inj,
    String.toList_append] at same

end Post

namespace Schedule

theorem pool_names (p : Premises) (tier : Tier) (threads : Nat) (secs : UInt64) :
    (pool p tier threads secs).map Post.name =
      (List.range threads).map (Post.compactionName tier) := by
  simp [pool, Post.compaction, Function.comp_def]

theorem pool_names_nodup (p : Premises) (tier : Tier) (threads : Nat) (secs : UInt64) :
    ((pool p tier threads secs).map Post.name).Nodup := by
  rw [pool_names]
  apply List.pairwise_map.mpr
  exact List.nodup_range.imp fun apart same => apart (Post.compactionName_injective tier _ _ same)

theorem single_name_not_mem_pool (p : Premises) (tier : Tier) (threads : Nat) (secs : UInt64)
    (kind : DutyKind) : kind.text ∉ (pool p tier threads secs).map Post.name := by
  rw [pool_names]
  intro member
  obtain ⟨i, _, same⟩ := List.mem_map.mp member
  exact Post.compactionName_ne_text tier i kind same

theorem pool_names_apart (p : Premises) (threads others : Nat) (secs otherSecs : UInt64)
    (name : String) (left : name ∈ (pool p .base threads secs).map Post.name) :
    name ∉ (pool p .cumulative others otherSecs).map Post.name := by
  rw [pool_names] at left ⊢
  intro right
  obtain ⟨i, _, rfl⟩ := List.mem_map.mp left
  obtain ⟨j, _, same⟩ := List.mem_map.mp right
  exact absurd (Post.compactionName_tier _ _ _ _ same) (by decide)

theorem mem_posts {s : Schedule} {p : Premises} {post : Post} :
    post ∈ s.posts p ↔
      post = .single (.trashSweep { bounds := s.sweep, unit := p.unit, curve := p.curve }) ∨
      post = routinePost p.unit .diskStatMonitor s.diskStatInterval ∨
      post = routinePost p.unit .unusedIndex s.unusedIndexInterval ∨
      post ∈ pool p .base s.baseThreads s.baseInterval ∨
      post ∈ pool p .cumulative s.cumulativeThreads s.cumulativeInterval ∨
      post = routinePost p.unit .fdCacheClean s.fdCacheInterval := by
  simp [posts]

theorem mem_pool {p : Premises} {tier : Tier} {threads : Nat} {secs : UInt64} {post : Post} :
    post ∈ pool p tier threads secs ↔
      ∃ i < threads, Post.compaction tier (Duration.ofUnits secs p.unit) p.grouped i = post := by
  simp [pool]

theorem posts_names (s : Schedule) (p : Premises) :
    (s.posts p).map Post.name =
      [DutyKind.text .trashSweep, DutyKind.text .diskStatMonitor, DutyKind.text .unusedIndex] ++
      (pool p .base s.baseThreads s.baseInterval).map Post.name ++
      (pool p .cumulative s.cumulativeThreads s.cumulativeInterval).map Post.name ++
      [DutyKind.text .fdCacheClean] := by
  simp only [posts, List.map_append, List.map_cons, List.map_nil]
  rfl

theorem posts_names_nodup (s : Schedule) (p : Premises) : ((s.posts p).map Post.name).Nodup := by
  have base := single_name_not_mem_pool p .base s.baseThreads s.baseInterval
  have cumulative := single_name_not_mem_pool p .cumulative s.cumulativeThreads s.cumulativeInterval
  rw [posts_names]
  refine List.nodup_append.mpr ⟨List.nodup_append.mpr ⟨List.nodup_append.mpr
    ⟨by decide, pool_names_nodup .., ?_⟩, pool_names_nodup .., ?_⟩, by simp, ?_⟩
  · rintro name single _ pooled rfl
    simp only [List.mem_cons, List.not_mem_nil, or_false] at single
    rcases single with rfl | rfl | rfl <;> exact base _ pooled
  · rintro name early _ pooled rfl
    rcases List.mem_append.mp early with single | first
    · simp only [List.mem_cons, List.not_mem_nil, or_false] at single
      rcases single with rfl | rfl | rfl <;> exact cumulative _ pooled
    · exact pool_names_apart p _ _ _ _ name first pooled
  · rintro name early _ last rfl
    obtain rfl := List.mem_singleton.mp last
    simp only [List.mem_append] at early
    rcases early with (single | first) | second
    · exact absurd single (by decide)
    · exact base _ first
    · exact cumulative _ second

end Schedule

end TabletUpkeep
