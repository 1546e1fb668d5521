import TabletUpkeep.Proofs.SchemaBalance

/-! Guards against the end of the word. As long as there is room, every guard that is alive is
counted. The call that finds no room has no answer, but it has already counted up: the count wraps
to zero under the guards that are alive, and from then on they are no longer counted. Raw counting
down is left out here, since it takes the count below the guards by itself. -/
namespace TabletUpkeep.GuardedCounter

/-- The answers to actions performed one after the other. -/
def answers (g : GuardedCounter) : List Action → List Answer
  | [] => []
  | a :: rest => (g.act a).1 :: answers (g.act a).2 rest

/-- How many of the actions, from the start on, found no room for one more. -/
def overflows (actions : List Action) : Nat := (answers {} actions).count .overflow

theorem answers_append (g : GuardedCounter) (xs ys : List Action) :
    g.answers (xs ++ ys) = g.answers xs ++ (g.run xs).answers ys := by
  induction xs generalizing g with
  | nil => rfl
  | cons a rest ih =>
    rw [List.cons_append, answers, answers, ih, run_cons]
    rfl

theorem overflows_append (xs ys : List Action) :
    overflows (xs ++ ys) = overflows xs + ((run {} xs).answers ys).count .overflow := by
  rw [overflows, answers_append, List.count_append]
  rfl

theorem overflows_snoc (actions : List Action) (a : Action) :
    overflows (actions ++ [a]) =
      overflows actions + if ((run {} actions).act a).1 = .overflow then 1 else 0 := by
  simp [overflows_append, answers, List.count_singleton]

theorem no_overflow_before {before actions : List Action} (first : before <+: actions)
    (fitting : overflows actions = 0) : overflows before = 0 := by
  obtain ⟨rest, rfl⟩ := first
  rw [overflows_append] at fitting
  omega

/-- Counting up at the greatest count has no answer, and leaves a count of zero. -/
theorem increment_full {c : SchemaChanges} (full : c.active.toNat = 4294967295) :
    c.increment = (none, ⟨0⟩) := by
  have greatest : c.active = 4294967295 := UInt32.toNat_inj.mp full
  rw [SchemaChanges.increment, greatest]
  rfl

theorem act_full {g : GuardedCounter} {a : Action} (up : a = .increment ∨ a = .enter)
    (full : g.counter.active.toNat = 4294967295) :
    g.act a = (.overflow, { g with counter := ⟨0⟩ }) := by
  have wrapped := increment_full full
  rcases up with rfl | rfl
  · rw [act, wrapped]
    rfl
  · rw [act, enter, wrapped]
    rfl

theorem liveGuards_leave {guards : List Bool} {slot : Nat} (alive : guards[slot]? = some true) :
    (guards.set slot false).count true + 1 = guards.count true := by
  have gone := count_false_set guards slot
  have before := List.count_true_add_count_false guards
  have after := List.count_true_add_count_false (guards.set slot false)
  rw [if_pos alive] at gone
  rw [List.length_set] at after
  omega

/-- What an action does to the count and to the guards alive, raw counting down apart. Only one
that counts up can find no room, and it finds none exactly when the count is the greatest. -/
inductive Acted (g : GuardedCounter) : Action → Answer × GuardedCounter → Prop
  | counted {c : SchemaChanges} : c.active.toNat = g.counter.active.toNat + 1 →
      Acted g .increment (.count c.active, { g with counter := c })
  | entered {c : SchemaChanges} : c.active.toNat = g.counter.active.toNat + 1 →
      Acted g .enter (.slot g.guards.length, ⟨c, g.guards ++ [true]⟩)
  | refused {a : Action} : a = .increment ∨ a = .enter → g.counter.active.toNat = 4294967295 →
      Acted g a (.overflow, { g with counter := ⟨0⟩ })
  | left {slot : Nat} {c : SchemaChanges} {guards : List Bool} :
      c.active.toNat = g.counter.active.toNat - 1 →
      guards.count true + 1 = g.guards.count true → Acted g (.leave slot) (.left true, ⟨c, guards⟩)
  | stale {slot : Nat} : Acted g (.leave slot) (.left false, g)

theorem acted (g : GuardedCounter) {a : Action} (guarded : a ≠ .decrement) :
    Acted g a (g.act a) := by
  have bound := g.counter.active.toNat_lt
  cases a with
  | decrement => exact absurd rfl guarded
  | increment =>
    by_cases full : g.counter.active.toNat = 4294967295
    · rw [act_full (.inl rfl) full]
      exact .refused (.inl rfl) full
    · obtain ⟨answer, sum⟩ := toNat_increment (c := g.counter) (by omega)
      rw [act, answer]
      exact .counted sum
  | enter =>
    by_cases full : g.counter.active.toNat = 4294967295
    · rw [act_full (.inr rfl) full]
      exact .refused (.inr rfl) full
    · obtain ⟨answer, sum⟩ := toNat_increment (c := g.counter) (by omega)
      rw [act, enter, answer]
      exact .entered sum
  | leave slot =>
    rw [act, leave]
    split
    next alive => exact .left (toNat_decrement g.counter) (liveGuards_leave alive)
    next => exact .stale

/-- A call that finds no room found the greatest count, and leaves a count of zero under the same
guards. -/
theorem act_overflow {g : GuardedCounter} {a : Action} (guarded : a ≠ .decrement)
    (refused : (g.act a).1 = .overflow) :
    (a = .increment ∨ a = .enter) ∧ g.counter.active.toNat = 4294967295 ∧
      (g.act a).2 = { g with counter := ⟨0⟩ } := by
  have possible := acted g guarded
  generalize g.act a = result at possible refused ⊢
  cases possible with
  | refused counting full => exact ⟨counting, full, rfl⟩
  | counted _ => cases refused
  | entered _ => cases refused
  | left _ _ => cases refused
  | stale => cases refused

/-- How the count stands to the guards alive: it falls short of them by what the overflows so far
have taken from it, and where there was none it is exact. -/
structure Counts (actions : List Action) (g : GuardedCounter) : Prop where
  short : g.liveGuards ≤ g.counter.active.toNat + 4294967295 * overflows actions
  exact_until : overflows actions = 0 →
    g.counter.active.toNat = actions.count .increment + g.liveGuards

theorem run_counts (actions : List Action) (guarded : .decrement ∉ actions) :
    Counts actions (run {} actions) := by
  induction actions using List.reverseRecOn with
  | nil => exact ⟨Nat.zero_le _, fun _ => rfl⟩
  | append_singleton actions a ih =>
    rw [List.mem_append, List.mem_singleton, not_or] at guarded
    obtain ⟨short, exact_until⟩ := ih guarded.1
    have possible := acted (run {} actions) (Ne.symm guarded.2)
    suffices both : _ ∧ _ from ⟨both.1, both.2⟩
    rw [run_snoc, overflows_snoc, List.count_append]
    unfold liveGuards at short exact_until ⊢
    generalize (run {} actions).act a = result at possible ⊢
    cases possible with
    | counted sum => simp; omega
    | entered sum => simp; omega
    | refused _ full => simp; omega
    | left less fewer => simp; omega
    | stale => simpa using ⟨short, exact_until⟩

theorem overflows_eq_zero_iff (actions : List Action) : overflows actions = 0 ↔
    ∀ before a after, actions = before ++ a :: after → ((run {} before).act a).1 ≠ .overflow := by
  constructor
  · rintro fitting before a after rfl
    have first : overflows (before ++ [a]) = 0 := by
      rw [List.append_cons, overflows_append] at fitting
      omega
    rw [overflows_snoc] at first
    intro refused
    simp [refused] at first
  · intro answered
    induction actions using List.reverseRecOn with
    | nil => rfl
    | append_singleton actions a ih =>
      have early := ih fun before b after split =>
        answered before b (after ++ [a]) (by simp [split])
      rw [overflows_snoc, early, if_neg (answered actions a [] rfl)]

/-- As long as no call finds the word full, the count is the raw ups and one for each guard that is
alive. A call that does find it full has no answer and yields no guard, but leaves a count of zero,
and each such call can hide as many guards as the word has room for. So these two hold of a run,
that the count is never below the guards alive and that a call without an answer changes nothing,
if and only if it has no such call. -/
theorem guards_counted_until_overflow (actions : List Action) (guarded : .decrement ∉ actions) :
    let g := run {} actions
    (overflows actions = 0 →
      g.counter.active.toNat = actions.count .increment + g.liveGuards) ∧
    g.liveGuards ≤ g.counter.active.toNat + 4294967295 * overflows actions ∧
    (∀ a, a ≠ .decrement →
      ((g.act a).1 = .overflow ↔
        (a = .increment ∨ a = .enter) ∧ g.counter.active.toNat = 4294967295) ∧
      ((g.act a).1 = .overflow → (g.act a).2 = { g with counter := ⟨0⟩ })) ∧
    ((∀ before, before <+: actions →
        (run {} before).liveGuards ≤ (run {} before).counter.active.toNat) ∧
      (∀ before a after, actions = before ++ a :: after →
        ((run {} before).act a).1 = .overflow →
        ((run {} before).act a).2.counter = (run {} before).counter) ↔
      overflows actions = 0) := by
  intro g
  obtain ⟨short, exact_until⟩ := run_counts actions guarded
  refine ⟨exact_until, short, ?_, ?_, ?_⟩
  · intro a counting
    refine ⟨⟨fun refused => ?_, fun ⟨up, full⟩ => ?_⟩, fun refused => ?_⟩
    · obtain ⟨up, full, -⟩ := act_overflow counting refused
      exact ⟨up, full⟩
    · rw [act_full up full]
    · exact (act_overflow counting refused).2.2
  · rintro ⟨-, unchanged⟩
    rw [overflows_eq_zero_iff]
    intro before a after split refused
    have counting : a ≠ .decrement := by
      rintro rfl
      exact guarded (by simp [split])
    obtain ⟨-, full, wrapped⟩ := act_overflow counting refused
    have same := unchanged before a after split refused
    rw [wrapped] at same
    rw [← same] at full
    cases full
  · intro fitting
    refine ⟨fun before first => ?_, fun before a after split refused => ?_⟩
    · obtain ⟨so_far, -⟩ := run_counts before fun member => guarded (first.subset member)
      rw [no_overflow_before first fitting] at so_far
      simpa using so_far
    · exact absurd refused ((overflows_eq_zero_iff actions).mp fitting before a after split)

/-- Two guards and a raw count; the first guard goes, twice. -/
theorem guards_counted_beside_increment :
    let actions : List Action := [.enter, .increment, .enter, .leave 0, .leave 0]
    .decrement ∉ actions ∧ overflows actions = 0 ∧
    (run {} actions).counter.active.toNat = 1 + 1 ∧ (run {} actions).liveGuards ≤ 2 ∧
    ((run {} actions).act .enter).1 ≠ .overflow := by
  intro actions
  have guarded : .decrement ∉ actions := by decide
  have fitting : overflows actions = 0 := by decide
  obtain ⟨counted, short, refusals, -⟩ := guards_counted_until_overflow actions guarded
  rw [fitting] at short
  refine ⟨guarded, fitting, counted fitting, short, fun refused => ?_⟩
  have full := ((refusals .enter (by decide)).1.mp refused).2
  exact absurd full (by decide)

/-- Guards taken one after the other, up to the greatest count. -/
theorem run_entered {n : Nat} (fits : n ≤ 4294967295) :
    (run {} (.replicate n .enter)).counter.active.toNat = n ∧
    (run {} (.replicate n .enter)).liveGuards = n := by
  induction n with
  | zero => exact ⟨rfl, rfl⟩
  | succ n ih =>
    obtain ⟨count, live⟩ := ih (by omega)
    obtain ⟨answer, sum⟩ := toNat_increment (c := (run {} (.replicate n .enter)).counter) (by omega)
    rw [List.replicate_succ', run_snoc, act, enter, answer]
    rw [liveGuards] at live ⊢
    refine ⟨sum.trans (by rw [count]), ?_⟩
    simp [live]

/-- As many guards as the word has room for. -/
def fullHouse : List Action := .replicate 4294967295 .enter

theorem run_fullHouse : (run {} fullHouse).counter.active.toNat = 4294967295 ∧
    (run {} fullHouse).liveGuards = 4294967295 := by
  rw [fullHouse]
  exact run_entered (Nat.le_refl 4294967295)

theorem refused_guard {actions : List Action}
    (full : (run {} actions).counter.active.toNat = 4294967295) :
    ((run {} actions).act .enter).1 = .overflow ∧
    (run {} (actions ++ [.enter])).counter.active.toNat = 0 ∧
    (run {} (actions ++ [.enter])).liveGuards = (run {} actions).liveGuards := by
  rw [run_snoc, act_full (.inr rfl) full]
  exact ⟨rfl, rfl, rfl⟩

/-- With all these guards alive one more is refused, and after that none of them is counted: the
call that had no answer took the count from the greatest to zero. -/
theorem guards_uncounted_after_overflow :
    .decrement ∉ fullHouse ++ [.enter] ∧
    (run {} fullHouse).counter.active.toNat = 4294967295 ∧
    ((run {} fullHouse).act .enter).1 = .overflow ∧
    (run {} (fullHouse ++ [.enter])).counter.active.toNat = 0 ∧
    (run {} (fullHouse ++ [.enter])).liveGuards = 4294967295 ∧
    ¬ (run {} (fullHouse ++ [.enter])).liveGuards ≤
      (run {} (fullHouse ++ [.enter])).counter.active.toNat := by
  have guarded : .decrement ∉ fullHouse ++ [.enter] := by
    rw [List.mem_append, fullHouse, List.mem_replicate]
    rintro (⟨-, same⟩ | member)
    · cases same
    · simp at member
  obtain ⟨count, live⟩ := run_fullHouse
  obtain ⟨refused, wrapped, same⟩ := refused_guard count
  refine ⟨guarded, count, refused, wrapped, same.trans live, ?_⟩
  rw [wrapped, same, live]
  decide

end TabletUpkeep.GuardedCounter
