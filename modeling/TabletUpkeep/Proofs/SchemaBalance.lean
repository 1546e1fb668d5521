import Mathlib.Data.Bool.Count
import Mathlib.Data.List.Infix
import Mathlib.Data.List.Induction
import TabletUpkeep.State.SchemaChange

/-! What the number of schema changes amounts to. Counting down stops at zero, so the count is not
the balance of ups and downs: each time the balance falls to a new depth below zero, the step that
took it there is forgiven. The count is therefore the height of the balance above its lowest point
so far. The actions of any number of threads reach the counter in some order, and the list of
actions is that order. -/
namespace TabletUpkeep.GuardedCounter

/-- The guards after an action, as long as nobody is refused one. -/
def guardsAfter (guards : List Bool) : Action → List Bool
  | .enter => guards ++ [true]
  | .leave slot => guards.set slot false
  | .increment | .decrement => guards

def guardsOf (actions : List Action) : List Bool := actions.foldl guardsAfter []

/-- The actions that count up, less those that count down. Of the guards, those count down that
have gone; one that leaves a second time does nothing. -/
def balance (actions : List Action) : Int :=
  (actions.count .increment + actions.count .enter : Nat) -
    (actions.count .decrement + (guardsOf actions).count false : Nat)

/-- The lowest balance on the way, the one at the start included. -/
def lowest (actions : List Action) : Int := (actions.inits.map balance).foldl min 0

def height (actions : List Action) : Int := balance actions - lowest actions

/-- What an action adds to the balance, given the guards before it. -/
def change (guards : List Bool) : Action → Int
  | .increment | .enter => 1
  | .decrement => -1
  | .leave slot => if guards[slot]? = some true then -1 else 0

theorem guardsOf_snoc (actions : List Action) (a : Action) :
    guardsOf (actions ++ [a]) = guardsAfter (guardsOf actions) a := by
  simp [guardsOf]

theorem run_snoc (g : GuardedCounter) (actions : List Action) (a : Action) :
    g.run (actions ++ [a]) = ((g.run actions).act a).2 := by
  simp [run]

theorem count_false_set (guards : List Bool) (slot : Nat) :
    (guards.set slot false).count false =
      guards.count false + if guards[slot]? = some true then 1 else 0 := by
  induction guards generalizing slot with
  | nil => simp
  | cons guard rest ih =>
    cases slot with
    | zero => cases guard <;> simp
    | succ slot =>
      rw [List.set_cons_succ, List.count_cons, List.count_cons, ih, List.getElem?_cons_succ]
      omega

theorem balance_snoc (actions : List Action) (a : Action) :
    balance (actions ++ [a]) = balance actions + change (guardsOf actions) a := by
  simp only [balance, guardsOf_snoc, List.count_append, List.count_singleton]
  cases a with
  | increment => simp [guardsAfter, change]; omega
  | decrement => simp [guardsAfter, change]; omega
  | enter => simp [guardsAfter, change]; omega
  | leave slot =>
    simp only [guardsAfter, change, count_false_set]
    by_cases alive : (guardsOf actions)[slot]? = some true
    · simp [alive]; omega
    · simp [alive]

theorem lowest_snoc (actions : List Action) (a : Action) :
    lowest (actions ++ [a]) = min (lowest actions) (balance (actions ++ [a])) := by
  simp [lowest, List.inits_append]

/-- The height goes with the balance, but not below zero. -/
theorem height_snoc (actions : List Action) (a : Action) :
    height (actions ++ [a]) = max (height actions + change (guardsOf actions) a) 0 := by
  rw [height, lowest_snoc, balance_snoc, height]
  omega

theorem height_nonneg (actions : List Action) : 0 ≤ height actions := by
  induction actions using List.reverseRecOn with
  | nil => decide
  | append_singleton actions a _ =>
    rw [height_snoc]
    exact Int.le_max_right _ _

/-- Each guard that was taken is alive or gone. -/
theorem length_guardsOf (actions : List Action) :
    (guardsOf actions).length = actions.count .enter := by
  induction actions using List.reverseRecOn with
  | nil => rfl
  | append_singleton actions a ih =>
    rw [guardsOf_snoc, List.count_append, ← ih]
    cases a <;> simp [guardsAfter]

theorem balance_eq (actions : List Action) :
    balance actions = (actions.count .increment : Int) - actions.count .decrement +
      (guardsOf actions).count true := by
  have taken : (guardsOf actions).count true + (guardsOf actions).count false =
      actions.count .enter := by
    rw [← length_guardsOf]
    exact List.count_true_add_count_false _
  rw [balance]
  omega

theorem lowest_eq_zero {actions : List Action}
    (above : ∀ before, before <+: actions → 0 ≤ balance before) : lowest actions = 0 := by
  induction actions using List.reverseRecOn with
  | nil => rfl
  | append_singleton actions a ih =>
    have early : ∀ before, before <+: actions → 0 ≤ balance before := fun before first =>
      above before (first.trans (List.prefix_append actions [a]))
    have last : 0 ≤ balance (actions ++ [a]) := above _ List.prefix_rfl
    rw [lowest_snoc, ih early]
    omega

/-- The counter holds the height of what was done to it. -/
structure Tracks (actions : List Action) (g : GuardedCounter) : Prop where
  guards : g.guards = guardsOf actions
  count : (g.counter.active.toNat : Int) = height actions

theorem toNat_increment {c : SchemaChanges} (fits : c.active.toNat + 1 ≤ 4294967295) :
    c.increment.1 = some (c.active + 1) ∧ (c.active + 1).toNat = c.active.toNat + 1 := by
  have sum : (c.active + 1).toNat = c.active.toNat + 1 := by
    rw [UInt32.toNat_add]
    exact Nat.mod_eq_of_lt (by simp; omega)
  refine ⟨?_, sum⟩
  rw [SchemaChanges.increment, Word.add?_eq_some]
  simp [Word.toInt, sum]

theorem toNat_decrement (c : SchemaChanges) :
    c.decrement.2.active.toNat = c.active.toNat - 1 := by
  unfold SchemaChanges.decrement
  split
  next zero => simp [zero]
  next positive =>
    have one_le : 1 ≤ c.active := by
      rw [UInt32.le_iff_toNat_le]
      have nonzero : c.active.toNat ≠ 0 := fun zero => positive (UInt32.toNat_inj.mp zero)
      rw [UInt32.toNat_one]
      omega
    simp [UInt32.toNat_sub_of_le _ _ one_le]

theorem height_up {actions : List Action} {a : Action} (up : change (guardsOf actions) a = 1) :
    height (actions ++ [a]) = height actions + 1 := by
  have positive := height_nonneg actions
  rw [height_snoc, up]
  omega

theorem height_down {actions : List Action} {a : Action}
    (down : change (guardsOf actions) a = -1) :
    height (actions ++ [a]) = max (height actions - 1) 0 := by
  rw [height_snoc, down]
  rfl

theorem height_still {actions : List Action} {a : Action}
    (still : change (guardsOf actions) a = 0) : height (actions ++ [a]) = height actions := by
  have positive := height_nonneg actions
  rw [height_snoc, still]
  omega

section

variable {actions : List Action} {g : GuardedCounter}

/-- Where there is room for one more, counting up counts up. -/
theorem Tracks.increment (tracks : Tracks actions g) (fits : height actions + 1 ≤ 4294967295) :
    g.counter.increment = (some (g.counter.active + 1), ⟨g.counter.active + 1⟩) ∧
      ((g.counter.active + 1).toNat : Int) = height actions + 1 := by
  have count := tracks.count
  obtain ⟨answer, sum⟩ := toNat_increment (c := g.counter) (by omega)
  refine ⟨Prod.ext answer rfl, ?_⟩
  rw [sum]
  omega

theorem Tracks.decrement (tracks : Tracks actions g) :
    (g.counter.decrement.2.active.toNat : Int) = max (height actions - 1) 0 := by
  have count := tracks.count
  rw [toNat_decrement]
  omega

/-- A guard that has gone is not counted again. -/
theorem set_of_gone {guards : List Bool} {slot : Nat} (gone : guards[slot]? ≠ some true) :
    guards.set slot false = guards := by
  refine List.ext_getElem? fun i => ?_
  rw [List.getElem?_set]
  split
  next same =>
    subst same
    split
    next bound =>
      rw [List.getElem?_eq_getElem bound] at gone ⊢
      simpa using gone
    next beyond => exact (List.getElem?_eq_none (Nat.le_of_not_lt beyond)).symm
  next => rfl

/-- An action that fits is answered, and the counter follows it. -/
theorem Tracks.act (tracks : Tracks actions g) (a : Action)
    (fits : height (actions ++ [a]) ≤ 4294967295) :
    Tracks (actions ++ [a]) (g.act a).2 ∧ (g.act a).1 ≠ .overflow ∧
      (a = .increment ∨ a = .decrement → (g.act a).1 = .count (g.act a).2.counter.active) := by
  have guards : guardsOf (actions ++ [a]) = guardsAfter g.guards a := by
    rw [guardsOf_snoc, tracks.guards]
  cases a with
  | increment =>
    have next : height (actions ++ [.increment]) = height actions + 1 := height_up rfl
    obtain ⟨counted, sum⟩ := tracks.increment (by omega)
    simp only [GuardedCounter.act, counted]
    exact ⟨⟨guards.symm, sum.trans next.symm⟩, Answer.noConfusion, fun _ => rfl⟩
  | decrement =>
    have next : height (actions ++ [.decrement]) = max (height actions - 1) 0 := height_down rfl
    refine ⟨⟨guards.symm, tracks.decrement.trans next.symm⟩, Answer.noConfusion, fun _ => ?_⟩
    exact congrArg Answer.count (SchemaChanges.decrement_fst g.counter)
  | enter =>
    have next : height (actions ++ [.enter]) = height actions + 1 := height_up rfl
    obtain ⟨counted, sum⟩ := tracks.increment (by omega)
    simp only [GuardedCounter.act, GuardedCounter.enter, counted]
    exact ⟨⟨guards.symm, sum.trans next.symm⟩, by simp, by simp⟩
  | leave slot =>
    simp only [GuardedCounter.act, leave]
    split
    next alive =>
      have next : height (actions ++ [.leave slot]) = max (height actions - 1) 0 :=
        height_down (by simp [change, ← tracks.guards, alive])
      exact ⟨⟨guards.symm, tracks.decrement.trans next.symm⟩, by simp, by simp⟩
    next gone =>
      have next : height (actions ++ [.leave slot]) = height actions :=
        height_still (by simp [change, ← tracks.guards, gone])
      refine ⟨⟨?_, tracks.count.trans next.symm⟩, by simp, by simp⟩
      rw [guards]
      exact (set_of_gone gone).symm

end

theorem run_tracks {actions : List Action}
    (fits : ∀ before, before <+: actions → height before ≤ 4294967295) :
    Tracks actions (run {} actions) := by
  induction actions using List.reverseRecOn with
  | nil => exact ⟨rfl, rfl⟩
  | append_singleton actions a ih =>
    rw [run_snoc]
    have tracks := ih fun before first => fits before (first.trans (List.prefix_append actions [a]))
    exact (tracks.act a (fits _ List.prefix_rfl)).1

/-- After any actions that never take the count beyond its word, in whatever order threads perform
them, the count is the balance of the actions less its lowest value on the way. Every count that
is returned is the count right after its action. Where the actions that count down without a guard
never outnumber those that count up without one, the count is their difference and one for each
guard that is alive. -/
theorem count_follows_balance (actions : List Action)
    (fits : ∀ before, before <+: actions → height before ≤ Word.greatest (α := UInt32)) :
    let g := run {} actions
    (g.counter.active.toNat : Int) = balance actions - lowest actions ∧
    (∀ before a after, actions = before ++ a :: after →
      ((run {} before).act a).1 ≠ .overflow ∧
      (a = .increment ∨ a = .decrement →
        ((run {} before).act a).1 = .count (run {} (before ++ [a])).counter.active)) ∧
    ((∀ before, before <+: actions → before.count .decrement ≤ before.count .increment) →
      (g.counter.active.toNat : Int) =
        (actions.count .increment : Int) - actions.count .decrement + g.liveGuards ∧
      (actions.count .increment = actions.count .decrement → g.liveGuards = 0 →
        g.counter.active = 0)) := by
  intro g
  have tracks : Tracks actions g := run_tracks fits
  refine ⟨tracks.count, ?_, ?_⟩
  · rintro before a after rfl
    have early : ∀ first, first <+: before ++ [a] → height first ≤ 4294967295 := fun first start =>
      fits first (start.trans ⟨after, by simp⟩)
    have so_far : Tracks before (run {} before) :=
      run_tracks fun first start => early first (start.trans (List.prefix_append before [a]))
    rw [run_snoc]
    exact (so_far.act a (early _ List.prefix_rfl)).2
  · intro more_ups
    have above : ∀ before, before <+: actions → 0 ≤ balance before := by
      intro before first
      have ups := more_ups before first
      rw [balance_eq]
      omega
    have count : (g.counter.active.toNat : Int) =
        (actions.count .increment : Int) - actions.count .decrement + g.liveGuards := by
      rw [tracks.count, height, lowest_eq_zero above, balance_eq, liveGuards, tracks.guards]
      omega
    refine ⟨count, fun balanced unguarded => UInt32.toNat_inj.mp ?_⟩
    rw [balanced, unguarded] at count
    simpa using count

/-- The first of these actions and the fourth count down from zero and are forgiven, so two are
counted at the end although the balance is zero. In the second run the balance of raw actions is
zero, and the guard that is left is what is counted. -/
theorem forgiven_and_guarded :
    let forgiven : List Action := [.decrement, .enter, .leave 0, .decrement, .increment, .enter]
    let guarded : List Action := [.increment, .enter, .enter, .leave 1, .decrement]
    (∀ before, before <+: forgiven → height before ≤ Word.greatest (α := UInt32)) ∧
    (∀ before, before <+: guarded → height before ≤ Word.greatest (α := UInt32)) ∧
    ((run {} forgiven).counter.active.toNat : Int) = 0 - -2 ∧
    ((run {} (forgiven.take 3)).act .decrement).1 = .count 0 ∧
    (∀ before, before <+: guarded → before.count .decrement ≤ before.count .increment) ∧
    ((run {} guarded).counter.active.toNat : Int) = 1 - 1 + 1 := by
  intro forgiven guarded
  have low : ∀ before ∈ forgiven.inits, height before ≤ Word.greatest (α := UInt32) := by decide
  have low' : ∀ before ∈ guarded.inits, height before ≤ Word.greatest (α := UInt32) := by decide
  have ups : ∀ before ∈ guarded.inits, before.count .decrement ≤ before.count .increment := by
    decide
  have fits before (first : before <+: forgiven) := low before ((List.mem_inits ..).mpr first)
  have fits' before (first : before <+: guarded) := low' before ((List.mem_inits ..).mpr first)
  have more_ups before (first : before <+: guarded) := ups before ((List.mem_inits ..).mpr first)
  obtain ⟨count, answers, -⟩ := count_follows_balance forgiven fits
  obtain ⟨-, -, guardedCount⟩ := count_follows_balance guarded fits'
  refine ⟨fits, fits', count, ?_, more_ups, (guardedCount more_ups).1⟩
  exact (answers (forgiven.take 3) .decrement [.increment, .enter] rfl).2 (.inr rfl)

end TabletUpkeep.GuardedCounter
