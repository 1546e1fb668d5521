import Mathlib.Data.List.Forall2
import TabletUpkeep.Disk.Usage
import TabletUpkeep.Proofs.PathSpelling

/-! Which mount a path lies on. Of the mount points that begin a path each begins every longer
one, so there is one longest among them, and the place in the list decides only between points that
have the same components. Everything about a mount point but its components is without effect. -/
namespace TabletUpkeep

section

variable {α β : Type} {key : α → Nat} {xs : List α} {a : α}

theorem lastMax?_eq_none_iff : lastMax? key xs = none ↔ xs = [] := by
  cases xs with
  | nil => simp [lastMax?]
  | cons first rest =>
    rw [lastMax?]
    cases lastMax? key rest <;> simp

/-- No key before the last greatest one is greater, and every key after it is smaller. -/
theorem split_of_lastMax? (found : lastMax? key xs = some a) :
    ∃ before after, xs = before ++ a :: after ∧ (∀ b ∈ before, key b ≤ key a) ∧
      ∀ b ∈ after, key b < key a := by
  induction xs generalizing a with
  | nil => cases found
  | cons first rest ih =>
    rw [lastMax?] at found
    cases later : lastMax? key rest with
    | none =>
      rw [later] at found
      obtain rfl := Option.some.inj found
      obtain rfl := lastMax?_eq_none_iff.mp later
      exact ⟨[], [], rfl, by simp, by simp⟩
    | some b =>
      -- of two equal keys the later one stays, so only a greater one takes its place
      obtain ⟨before, after, split, below, above⟩ := ih later
      rw [later] at found
      dsimp only at found
      split_ifs at found with smaller
      · obtain rfl := Option.some.inj found
        refine ⟨first :: before, after, by rw [split]; rfl, ?_, above⟩
        exact List.forall_mem_cons.mpr ⟨smaller, below⟩
      · obtain rfl := Option.some.inj found
        refine ⟨[], rest, rfl, by simp, fun c among => ?_⟩
        have most : key c ≤ key b := by
          rw [split, List.mem_append, List.mem_cons] at among
          rcases among with before | rfl | after
          · exact below c before
          · exact Nat.le_refl _
          · exact Nat.le_of_lt (above c after)
        omega

theorem lastMax?_map (f : β → α) (ys : List β) :
    lastMax? key (ys.map f) = (lastMax? (key ∘ f) ys).map f := by
  induction ys with
  | nil => rfl
  | cons b rest ih =>
    rw [List.map_cons, lastMax?, lastMax?, ih]
    cases lastMax? (key ∘ f) rest with
    | none => rfl
    | some c => exact (congrArg some (apply_ite f ..)).symm

end

/-- The components of the mount point. -/
def Mount.parts (m : Mount) : List Component := Path.components m.point

theorem Mount.length_parts (m : Mount) : m.parts.length = m.depth := rfl

/-- A mount, with its place, that holds a path. The components of every other mount that holds the
path begin those of this one, and where they are the same the other one comes before. -/
structure Longest (path : String) (mounts : List Mount) (place : Nat) (m : Mount) : Prop where
  listed : mounts[place]? = some m
  begins : m.parts <+: Path.components path
  longest : ∀ other ∈ mounts, other.parts <+: Path.components path → other.parts <+: m.parts
  last : ∀ later other, mounts[later]? = some other → other.parts = m.parts → later ≤ place

variable {path : String} {mounts : List Mount} {place : Nat} {m : Mount}

theorem Mount.holds_iff (m : Mount) (path : String) :
    m.holds path = true ↔ m.parts <+: Path.components path :=
  Path.startsWith_iff path m.point

/-- The mounts that hold a path, with their places. -/
def holders (path : String) (mounts : List Mount) : List (Mount × Nat) :=
  mounts.zipIdx.filter (·.1.holds path)

theorem mem_holders :
    (m, place) ∈ holders path mounts ↔
      mounts[place]? = some m ∧ m.parts <+: Path.components path := by
  rw [holders, List.mem_filter, List.mk_mem_zipIdx_iff_getElem?, Mount.holds_iff]

theorem holders_ordered (path : String) (mounts : List Mount) :
    (holders path mounts).Pairwise fun x y => x.2 < y.2 := by
  refine List.Pairwise.filter _ (List.pairwise_map.mp ?_)
  rw [List.zipIdx_map_snd]
  exact List.pairwise_lt_range' 1

theorem mountFor?_eq_map :
    mountFor? path mounts = (lastMax? (·.1.depth) (holders path mounts)).map (·.1) := by
  have listed : mounts = mounts.zipIdx.map Prod.fst := (List.zipIdx_map_fst 0 mounts).symm
  rw [mountFor?]
  conv_lhs => rw [listed]
  rw [List.filter_map, lastMax?_map]
  rfl

theorem mountIndexFor?_eq_map :
    mountIndexFor? path mounts = (lastMax? (·.1.depth) (holders path mounts)).map (·.2) := rfl

theorem longest_of_lastMax?
    (found : lastMax? (·.1.depth) (holders path mounts) = some (m, place)) :
    Longest path mounts place m := by
  obtain ⟨before, after, split, below, above⟩ := split_of_lastMax? found
  have here : (m, place) ∈ holders path mounts := by
    rw [split]
    exact List.mem_append_right _ List.mem_cons_self
  obtain ⟨listed, begins⟩ := mem_holders.mp here
  refine ⟨listed, begins, ?_, ?_⟩
  · -- two beginnings of one path are in order by their lengths
    intro other among begun
    obtain ⟨another, there⟩ := List.mem_iff_getElem?.mp among
    have holds : (other, another) ∈ holders path mounts := mem_holders.mpr ⟨there, begun⟩
    have shallow : other.depth ≤ m.depth := by
      rw [split, List.mem_append, List.mem_cons] at holds
      rcases holds with earlier | same | later
      · exact below (other, another) earlier
      · cases same
        exact Nat.le_refl _
      · exact Nat.le_of_lt (above (other, another) later)
    rw [← Mount.length_parts, ← Mount.length_parts] at shallow
    exact List.prefix_of_prefix_length_le begun begins shallow
  · intro later other there same
    have holds : (other, later) ∈ holders path mounts := mem_holders.mpr ⟨there, same ▸ begins⟩
    have ordered := holders_ordered path mounts
    rw [split, List.mem_append, List.mem_cons] at holds
    rw [split, List.pairwise_append] at ordered
    rcases holds with earlier | same | after
    · exact Nat.le_of_lt (ordered.2.2 _ earlier _ List.mem_cons_self)
    · cases same
      exact Nat.le_refl _
    · have deeper : other.depth < m.depth := above (other, later) after
      rw [← Mount.length_parts, ← Mount.length_parts, same] at deeper
      exact absurd deeper (Nat.lt_irrefl _)

theorem Longest.unique {another : Nat} {other : Mount} (one : Longest path mounts place m)
    (two : Longest path mounts another other) : place = another := by
  have begun : other.parts <+: m.parts :=
    one.longest other (List.mem_of_getElem? two.listed) two.begins
  have begins : m.parts <+: other.parts :=
    two.longest m (List.mem_of_getElem? one.listed) one.begins
  have same : other.parts = m.parts :=
    begun.eq_of_length (Nat.le_antisymm begun.length_le begins.length_le)
  exact Nat.le_antisymm (two.last place m one.listed same.symm)
    (one.last another other two.listed same)

theorem lastMax?_holders_iff :
    lastMax? (·.1.depth) (holders path mounts) = some (m, place) ↔
      Longest path mounts place m := by
  refine ⟨longest_of_lastMax?, fun longest => ?_⟩
  cases found : lastMax? (·.1.depth) (holders path mounts) with
  | none =>
    have here := mem_holders.mpr ⟨longest.listed, longest.begins⟩
    rw [lastMax?_eq_none_iff.mp found] at here
    cases here
  | some pair =>
    obtain ⟨other, another⟩ := pair
    have two := longest_of_lastMax? found
    obtain rfl := longest.unique two
    obtain rfl := Option.some.inj (longest.listed.symm.trans two.listed)
    rfl

theorem mountIndexFor?_eq_some_iff :
    mountIndexFor? path mounts = some place ↔ ∃ m, Longest path mounts place m := by
  simp only [mountIndexFor?_eq_map, Option.map_eq_some_iff, Prod.exists, lastMax?_holders_iff]
  constructor
  · rintro ⟨m, _, longest, rfl⟩
    exact ⟨m, longest⟩
  · rintro ⟨m, longest⟩
    exact ⟨m, place, longest, rfl⟩

theorem mountFor?_eq_some_iff :
    mountFor? path mounts = some m ↔ ∃ place, Longest path mounts place m := by
  simp only [mountFor?_eq_map, Option.map_eq_some_iff, Prod.exists, lastMax?_holders_iff]
  constructor
  · rintro ⟨_, place, longest, rfl⟩
    exact ⟨place, longest⟩
  · rintro ⟨place, longest⟩
    exact ⟨m, place, longest, rfl⟩

theorem mountFor?_eq_none_iff :
    mountFor? path mounts = none ↔ ∀ m ∈ mounts, m.holds path = false := by
  simp only [mountFor?, lastMax?_eq_none_iff, List.filter_eq_nil_iff, Bool.not_eq_true]

theorem mountFor?_isSome_iff :
    (mountFor? path mounts).isSome = true ↔ ∃ m ∈ mounts, m.parts <+: Path.components path := by
  rw [Option.isSome_iff_ne_none, Ne, mountFor?_eq_none_iff]
  simp only [← Mount.holds_iff, not_forall, Bool.not_eq_false, exists_prop]

/-- The mount that is found stands at the place that is found. -/
theorem mountFor?_eq_bind :
    mountFor? path mounts = (mountIndexFor? path mounts).bind (mounts[·]?) := by
  rw [mountFor?_eq_map, mountIndexFor?_eq_map]
  cases last : lastMax? (·.1.depth) (holders path mounts) with
  | none => rfl
  | some pair => exact (lastMax?_holders_iff.mp last).listed.symm

/-- Nothing but the components decides which place is found. -/
theorem mountIndexFor?_eq_of_parts (path : String) (mounts : List Mount) :
    mountIndexFor? path mounts =
      (lastMax? (·.1.length) ((mounts.map Mount.parts).zipIdx.filter
        (·.1.isPrefixOf (Path.components path)))).map (·.2) := by
  rw [List.zipIdx_map, List.filter_map, lastMax?_map, Option.map_map]
  rfl

theorem map_parts_of_respelt {respelt : List Mount}
    (same : List.Forall₂ (fun m n => Path.Respelt m.point n.point) mounts respelt) :
    mounts.map Mount.parts = respelt.map Mount.parts := by
  rw [← List.forall₂_eq_eq_eq, List.forall₂_map_left_iff, List.forall₂_map_right_iff]
  exact same.imp fun _ _ => Path.Respelt.components_eq

/-- Where no two mount points have the same components, their places do not matter. -/
theorem exists_longest_iff (distinct : (mounts.map Mount.parts).Nodup) :
    (∃ place, Longest path mounts place m) ↔
      m ∈ mounts ∧ m.parts <+: Path.components path ∧
        ∀ other ∈ mounts, other.parts <+: Path.components path → other.parts <+: m.parts := by
  constructor
  · rintro ⟨place, longest⟩
    exact ⟨List.mem_of_getElem? longest.listed, longest.begins, longest.longest⟩
  · rintro ⟨among, begins, longest⟩
    obtain ⟨place, listed⟩ := List.mem_iff_getElem?.mp among
    refine ⟨place, listed, begins, longest, ?_⟩
    intro later other there same
    have one : (mounts.map Mount.parts)[place]? = some m.parts := by
      rw [List.getElem?_map, listed, Option.map_some]
    have two : (mounts.map Mount.parts)[later]? = some m.parts := by
      rw [List.getElem?_map, there, Option.map_some, same]
    have within := (List.getElem?_eq_some_iff.mp two).1
    exact Nat.le_of_eq ((List.getElem?_inj within distinct).mp (two.trans one.symm))

theorem mountFor?_perm {shuffled : List Mount} (distinct : (mounts.map Mount.parts).Nodup)
    (same : mounts.Perm shuffled) : mountFor? path shuffled = mountFor? path mounts := by
  have too : (shuffled.map Mount.parts).Nodup := (same.map Mount.parts).nodup_iff.mp distinct
  refine Option.ext fun m => ?_
  rw [mountFor?_eq_some_iff, mountFor?_eq_some_iff, exists_longest_iff distinct,
    exists_longest_iff too]
  simp only [same.mem_iff]

/-- A path lies on the mount with the longest point that begins it, and on the last such mount in
the list where there are several. A mount does not hold what only goes on from its own name; no
spelling of the path or of a mount point changes the place that is found; and neither does the
order of the list change the mount, unless two mount points have the same components. -/
theorem lies_on_longest_mount (path : String) (mounts : List Mount) :
    ((mountFor? path mounts).isSome = true ↔
      ∃ m ∈ mounts, m.parts <+: Path.components path) ∧
    (∀ m, mountFor? path mounts = some m ↔ ∃ place, Longest path mounts place m) ∧
    (∀ place, mountIndexFor? path mounts = some place ↔ ∃ m, Longest path mounts place m) ∧
    (∀ (m : Mount) (c : Char) (rest : List Char), path.toList = m.point.toList ++ c :: rest →
      c ≠ '/' → m.point ≠ "" → ¬ ['/'] <:+ m.point.toList → ¬ ['/', '.'] <:+ m.point.toList →
      m.holds path = false) ∧
    (∀ (another : String) (respelt : List Mount), Path.Respelt path another →
      List.Forall₂ (fun m n => Path.Respelt m.point n.point) mounts respelt →
      mountIndexFor? another respelt = mountIndexFor? path mounts ∧
        mountFor? another respelt = (mountIndexFor? path mounts).bind (respelt[·]?)) ∧
    ∀ shuffled : List Mount, (mounts.map Mount.parts).Nodup → mounts.Perm shuffled →
      mountFor? path shuffled = mountFor? path mounts := by
  refine ⟨mountFor?_isSome_iff, fun _ => mountFor?_eq_some_iff,
    fun _ => mountIndexFor?_eq_some_iff, ?_, ?_, fun _ => mountFor?_perm⟩
  · intro m c rest longer inner some closed undotted
    exact Path.not_startsWith_sibling longer inner (String.toList_eq_nil_iff.not.mpr some) closed
      undotted
  · intro another respelt spelling spellings
    have place : mountIndexFor? another respelt = mountIndexFor? path mounts := by
      rw [mountIndexFor?_eq_of_parts, mountIndexFor?_eq_of_parts, spelling.components_eq,
        map_parts_of_respelt spellings]
    exact ⟨place, place ▸ mountFor?_eq_bind⟩

/-- A directory beside a mount point is on the root, however it is spelt and whatever the order of
the mounts. -/
theorem sibling_on_root :
    let root : Mount := ⟨"/", 100, 90⟩
    let data : Mount := ⟨"/data1", 1000, 250⟩
    mountFor? "/data10/x" [root, data] = some root ∧ data.holds "/data10/x" = false ∧
    mountFor? "/data10//x/." [root, { data with point := "/./data1/" }] = some root ∧
    mountFor? "/data10/x" [data, root] = some root := by
  intro root data
  obtain ⟨-, -, -, sibling, respelling, order⟩ := lies_on_longest_mount "/data10/x" [root, data]
  have found : mountFor? "/data10/x" [root, data] = some root := by decide
  have inFront : mountIndexFor? "/data10/x" [root, data] = some 0 := by decide
  have dotless : Path.Shortens "/data10//x/.".toList "/data10//x/".toList :=
    .lastDot "/data10//x".toList
  have closed : Path.Shortens "/data10//x/".toList "/data10//x".toList :=
    .lastSlash "/data10//x".toList (by decide)
  have once : Path.Shortens "/data10//x".toList "/data10/x".toList :=
    .slash "/data10".toList "x".toList
  have spelling : Path.Respelt "/data10/x" "/data10//x/." :=
    .symm _ _ (.trans _ _ _ (.rel _ _ dotless) (.trans _ _ _ (.rel _ _ closed) (.rel _ _ once)))
  have undotted : Path.Shortens "/./data1/".toList "/data1/".toList := .dot [] "data1/".toList
  have bare : Path.Shortens "/data1/".toList "/data1".toList :=
    .lastSlash "/data1".toList (by decide)
  have point : Path.Respelt "/data1" "/./data1/" :=
    .symm _ _ (.trans _ _ _ (.rel _ _ undotted) (.rel _ _ bare))
  obtain ⟨-, other⟩ := respelling _ [root, { data with point := "/./data1/" }] spelling
    (.cons (.refl _) (.cons point .nil))
  refine ⟨found, ?_, ?_, ?_⟩
  · exact sibling data '0' "/x".toList (by decide) (by decide) (by decide) (by decide) (by decide)
  · rw [other, inFront]
    rfl
  · exact (order [data, root] (by decide) (.swap data root [])).trans found

end TabletUpkeep
