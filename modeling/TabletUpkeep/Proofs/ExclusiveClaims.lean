import Mathlib.Data.Set.Card
import TabletUpkeep.State.Claims

/-! Who holds what at a claim desk. A claim is alive from the attempt that was granted it until
the slot of that attempt is released. Both are read off the actions, so liveness does not depend
on what the desk remembers. The set of claimed pairs keeps no account of holders, and releases by
pair; it is exact all the same, because a pair never has two live claims. -/
namespace TabletUpkeep.ClaimDesk

/-- Each attempt takes the next slot, whether it is granted or not. -/
def attempts (actions : List Action) : Nat :=
  actions.countP fun
    | .claim _ => true
    | _ => false

/-- The attempt of this slot was granted the pair, and its slot has not been released since. -/
def Live (actions : List Action) (slot : Nat) (key : ClaimKey) : Prop :=
  ∃ before after, actions = before ++ .claim key :: after ∧ attempts before = slot ∧
    ((run {} before).act (.claim key)).1 = true ∧ .release slot ∉ after

def Holds (d : ClaimDesk) (slot : Nat) (key : ClaimKey) : Prop := d.slots[slot]? = some (some key)

/-- The held set and the slots account for the same claims. Exclusiveness is part of it: without
it a release by pair could take away another slot's claim. -/
structure Exact (d : ClaimDesk) : Prop where
  distinct : d.claims.held.Nodup
  held_iff : ∀ key, key ∈ d.claims.held ↔ ∃ slot, d.Holds slot key
  exclusive : ∀ slot other key, d.Holds slot key → d.Holds other key → slot = other

theorem initial_exact : Exact {} := by
  constructor <;> simp [Holds]

@[simp] theorem isHeld_iff (c : Claims) (key : ClaimKey) : c.isHeld key = true ↔ key ∈ c.held := by
  simp [Claims.isHeld]

theorem claim_granted {d : ClaimDesk} (free : key ∉ d.claims.held) :
    d.act (.claim key) = (true, ⟨⟨key :: d.claims.held⟩, d.slots ++ [some key]⟩) := by
  simp [act, Claims.claim?, free]

theorem claim_refused {d : ClaimDesk} (taken : key ∈ d.claims.held) :
    d.act (.claim key) = (false, { d with slots := d.slots ++ [none] }) := by
  simp [act, Claims.claim?, taken]

theorem claim_granted_iff (d : ClaimDesk) (key : ClaimKey) :
    (d.act (.claim key)).1 = true ↔ key ∉ d.claims.held := by
  by_cases taken : key ∈ d.claims.held
  · simp [claim_refused taken, taken]
  · simp [claim_granted taken, taken]

theorem release_live {d : ClaimDesk} (held : d.Holds slot key) :
    d.act (.release slot) = (true, ⟨d.claims.release key, d.slots.set slot none⟩) := by
  simp only [act]
  rw [held]

/-- A slot that was refused, released before or never taken holds nothing. -/
theorem release_stale {d : ClaimDesk} (stale : ∀ key, ¬ d.Holds slot key) :
    d.act (.release slot) = (false, d) := by
  simp only [act]
  split
  next key held => exact absurd held (stale key)
  next => rfl

theorem holds_granted (d : ClaimDesk) (claims : Claims) (added key : ClaimKey) (slot : Nat) :
    (ClaimDesk.mk claims (d.slots ++ [some added])).Holds slot key ↔
      d.Holds slot key ∨ slot = d.slots.length ∧ added = key := by
  simp only [Holds, List.getElem?_append, List.getElem?_singleton]
  by_cases old : slot < d.slots.length
  · simp [old, Nat.ne_of_lt old]
  · have position : slot - d.slots.length = 0 ↔ slot = d.slots.length := by omega
    simp [old, position]

theorem holds_refused (d : ClaimDesk) (key : ClaimKey) (slot : Nat) :
    { d with slots := d.slots ++ [none] }.Holds slot key ↔ d.Holds slot key := by
  simp only [Holds, List.getElem?_append, List.getElem?_singleton]
  by_cases old : slot < d.slots.length <;> simp [old]

theorem holds_released (d : ClaimDesk) (claims : Claims) (released slot : Nat) (key : ClaimKey) :
    (ClaimDesk.mk claims (d.slots.set released none)).Holds slot key ↔
      d.Holds slot key ∧ slot ≠ released := by
  simp only [Holds, List.getElem?_set]
  by_cases same : released = slot
  · subst released
    simp
  · simp [same, Ne.symm same]

/-- A new slot is taken beyond all others, and holds a pair that none of them holds. -/
theorem claim_exact {d : ClaimDesk} (key : ClaimKey) (exact : d.Exact) :
    (d.act (.claim key)).2.Exact := by
  by_cases taken : key ∈ d.claims.held
  · rw [claim_refused taken]
    refine ⟨exact.distinct, ?_, ?_⟩
    · intro other
      simpa only [holds_refused] using exact.held_iff other
    · intro slot other pair first second
      have before := (holds_refused ..).mp first
      exact exact.exclusive slot other pair before ((holds_refused ..).mp second)
  · rw [claim_granted taken]
    have unheld : ∀ slot, ¬ d.Holds slot key := fun slot held =>
      taken ((exact.held_iff key).mpr ⟨slot, held⟩)
    refine ⟨List.nodup_cons.mpr ⟨taken, exact.distinct⟩, ?_, ?_⟩
    · intro other
      simp only [List.mem_cons, exact.held_iff other, holds_granted, exists_or, exists_eq_left]
      rw [or_comm]
      simp [eq_comm]
    · intro slot other pair first second
      rcases (holds_granted ..).mp first with old | ⟨new, rfl⟩
      · rcases (holds_granted ..).mp second with old' | ⟨_, rfl⟩
        · exact exact.exclusive slot other pair old old'
        · exact absurd old (unheld slot)
      · rcases (holds_granted ..).mp second with old' | ⟨new', _⟩
        · exact absurd old' (unheld other)
        · exact new.trans new'.symm

theorem release_exact {d : ClaimDesk} (slot : Nat) (exact : d.Exact) :
    (d.act (.release slot)).2.Exact := by
  by_cases stale : ∀ key, ¬ d.Holds slot key
  · rw [release_stale stale]
    exact exact
  · obtain ⟨key, held⟩ := Classical.not_forall_not.mp stale
    rw [release_live held]
    refine ⟨exact.distinct.erase key, ?_, ?_⟩
    · intro other
      simp only [Claims.release, exact.distinct.mem_erase_iff, exact.held_iff other, holds_released]
      constructor
      · rintro ⟨different, position, atPosition⟩
        refine ⟨position, atPosition, ?_⟩
        rintro rfl
        exact different (Option.some.inj (Option.some.inj (atPosition.symm.trans held)))
      · rintro ⟨position, atPosition, apart⟩
        refine ⟨?_, position, atPosition⟩
        rintro rfl
        exact apart (exact.exclusive position slot other atPosition held)
    · intro first second pair left right
      exact exact.exclusive first second pair ((holds_released ..).mp left).1
        ((holds_released ..).mp right).1

theorem act_exact {d : ClaimDesk} (a : Action) (exact : d.Exact) : (d.act a).2.Exact := by
  cases a with
  | claim key => exact claim_exact key exact
  | release slot => exact release_exact slot exact
  | isHeld key => exact exact

theorem run_exact {d : ClaimDesk} (exact : d.Exact) (actions : List Action) :
    (d.run actions).Exact := by
  induction actions generalizing d with
  | nil => exact exact
  | cons a rest ih => exact ih (act_exact a exact)

theorem run_snoc (d : ClaimDesk) (actions : List Action) (a : Action) :
    d.run (actions ++ [a]) = ((d.run actions).act a).2 := by
  simp [run, List.foldl_append]

theorem run_append (d : ClaimDesk) (xs ys : List Action) :
    d.run (xs ++ ys) = (d.run xs).run ys := List.foldl_append

theorem slots_length (actions : List Action) : (run {} actions).slots.length = attempts actions := by
  induction actions using List.reverseRecOn with
  | nil => rfl
  | append_singleton actions a ih =>
    rw [run_snoc]
    cases a with
    | claim key =>
      by_cases taken : key ∈ (run {} actions).claims.held
      · simp [claim_refused taken, attempts, ih]
      · simp [claim_granted taken, attempts, ih]
    | release slot =>
      simp only [act]
      split <;> simp [attempts, ih]
    | isHeld key => simp [act, attempts, ih]

/-- A claim is alive after one more action if it was and is not the one released, or if it is the
one that was just granted. -/
theorem live_snoc (actions : List Action) (a : Action) (slot : Nat) (key : ClaimKey) :
    Live (actions ++ [a]) slot key ↔
      (Live actions slot key ∧ a ≠ .release slot) ∨
      (a = .claim key ∧ attempts actions = slot ∧ ((run {} actions).act (.claim key)).1 = true) := by
  constructor
  · rintro ⟨before, after, split, position, granted, unreleased⟩
    rcases List.eq_nil_or_concat' after with rfl | ⟨earlier, last, rfl⟩
    · obtain ⟨rfl, same⟩ := List.append_inj' split rfl
      exact .inr ⟨by simpa using same, position, granted⟩
    · rw [← List.cons_append, ← List.append_assoc] at split
      obtain ⟨rfl, same⟩ := List.append_inj' split rfl
      simp only [List.mem_append, List.cons.injEq, and_true] at unreleased same
      refine .inl ⟨⟨before, earlier, rfl, position, granted, fun h => unreleased (.inl h)⟩, ?_⟩
      rintro rfl
      exact unreleased (.inr (by simp [← same]))
  · rintro (⟨⟨before, after, rfl, position, granted, unreleased⟩, other⟩ | ⟨rfl, position, granted⟩)
    · refine ⟨before, after ++ [a], by simp, position, granted, ?_⟩
      simp only [List.mem_append, List.mem_singleton, not_or]
      exact ⟨unreleased, other.symm⟩
    · exact ⟨actions, [], rfl, position, granted, by simp⟩

/-- What the slots hold is what is alive by the record of the actions. -/
theorem live_iff_holds (actions : List Action) (slot : Nat) (key : ClaimKey) :
    Live actions slot key ↔ (run {} actions).Holds slot key := by
  induction actions using List.reverseRecOn with
  | nil => simp [Live, Holds]
  | append_singleton actions a ih =>
    rw [live_snoc, run_snoc, ih]
    cases a with
    | claim added =>
      rw [← slots_length]
      by_cases taken : added ∈ (run {} actions).claims.held
      · rw [claim_refused taken, holds_refused]
        simp only [ne_eq, reduceCtorEq, not_false_eq_true, and_true, Action.claim.injEq,
          or_iff_left_iff_imp]
        rintro ⟨rfl, _, granted⟩
        exact absurd taken ((claim_granted_iff ..).mp granted)
      · rw [claim_granted taken, holds_granted]
        simp only [ne_eq, reduceCtorEq, not_false_eq_true, and_true, Action.claim.injEq,
          claim_granted_iff]
        constructor
        · rintro (old | ⟨rfl, position, _⟩)
          · exact .inl old
          · exact .inr ⟨position.symm, rfl⟩
        · rintro (old | ⟨position, rfl⟩)
          · exact .inl old
          · exact .inr ⟨rfl, position.symm, taken⟩
    | release released =>
      simp only [reduceCtorEq, false_and, or_false, ne_eq, Action.release.injEq]
      by_cases stale : ∀ key, ¬ (run {} actions).Holds released key
      · rw [release_stale stale]
        constructor
        · exact fun h => h.1
        · refine fun held => ⟨held, ?_⟩
          rintro rfl
          exact stale key held
      · obtain ⟨_, held⟩ := Classical.not_forall_not.mp stale
        rw [release_live held, holds_released]
        exact and_congr_right fun _ => not_congr eq_comm
    | isHeld asked => simp [act]

theorem live_release (actions : List Action) (released slot : Nat) (key : ClaimKey) :
    Live (actions ++ [.release released]) slot key ↔ Live actions slot key ∧ slot ≠ released := by
  rw [live_snoc]
  simp only [reduceCtorEq, false_and, or_false, ne_eq, Action.release.injEq]
  exact and_congr_right fun _ => not_congr eq_comm

theorem live_releases (actions : List Action) (slots : List Nat) (slot : Nat) (key : ClaimKey) :
    Live (actions ++ slots.map .release) slot key ↔ Live actions slot key ∧ slot ∉ slots := by
  induction slots generalizing actions with
  | nil => simp
  | cons released rest ih =>
    rw [List.map_cons, List.append_cons, ih, live_release]
    simp only [List.mem_cons, not_or, and_assoc]

theorem held_iff_live (actions : List Action) (key : ClaimKey) :
    key ∈ (run {} actions).claims.held ↔ ∃ slot, Live actions slot key := by
  simp only [live_iff_holds]
  exact (run_exact initial_exact actions).held_iff key

theorem live_unique (actions : List Action) (slot other : Nat) (key : ClaimKey)
    (first : Live actions slot key) (second : Live actions other key) : slot = other :=
  (run_exact initial_exact actions).exclusive slot other key
    ((live_iff_holds ..).mp first) ((live_iff_holds ..).mp second)

/-- The held pairs are one for each live claim: a claim is known by its pair. -/
theorem size_eq_live (actions : List Action) :
    {claim : Nat × ClaimKey | Live actions claim.1 claim.2}.encard =
      (run {} actions).claims.size := by
  have known : Set.InjOn Prod.snd {claim : Nat × ClaimKey | Live actions claim.1 claim.2} := by
    rintro ⟨slot, key⟩ first ⟨other, _⟩ second rfl
    rw [live_unique actions slot other key first second]
  have image : Prod.snd '' {claim : Nat × ClaimKey | Live actions claim.1 claim.2} =
      ((run {} actions).claims.held.toFinset : Set ClaimKey) := by
    ext key
    simp [held_iff_live]
  rw [← known.encard_image, image, Set.encard_coe_eq_coe_finsetCard,
    List.toFinset_card_of_nodup (run_exact initial_exact actions).distinct]
  rfl

/-- Exclusive claims, after any actions in any order, whoever took them. A pair is held exactly
while a claim on it is alive, and never by two; attempts, questions and the size answer by that.
A release takes its own claim only, none at all if its slot holds none, and once every live claim
is released nothing is held. -/
theorem claims_exclusive (actions : List Action) :
    let d := run {} actions
    (∀ key, key ∈ d.claims.held ↔ ∃ slot, Live actions slot key) ∧
    (∀ slot other key, Live actions slot key → Live actions other key → slot = other) ∧
    (∀ key, (d.act (.claim key)).1 = true ↔ ∀ slot, ¬ Live actions slot key) ∧
    (∀ key, (d.act (.isHeld key)).1 = true ↔ ∃ slot, Live actions slot key) ∧
    {claim : Nat × ClaimKey | Live actions claim.1 claim.2}.encard = d.claims.size ∧
    (∀ released slot key, Live (actions ++ [.release released]) slot key ↔
      Live actions slot key ∧ slot ≠ released) ∧
    (∀ released slot key, Live actions slot key → slot ≠ released →
      key ∈ (d.act (.release released)).2.claims.held) ∧
    (∀ slot, (∀ key, ¬ Live actions slot key) → d.act (.release slot) = (false, d)) ∧
    (∀ slots : List Nat, (∀ slot key, Live actions slot key → slot ∈ slots) →
      (d.run (slots.map .release)).claims.held = []) := by
  intro d
  refine ⟨held_iff_live actions, live_unique actions, ?_, ?_, size_eq_live actions,
    live_release actions, ?_, ?_, ?_⟩
  · intro key
    rw [claim_granted_iff, held_iff_live, not_exists]
  · intro key
    exact (isHeld_iff d.claims key).trans (held_iff_live actions key)
  · intro released slot key live apart
    rw [← run_snoc, held_iff_live]
    exact ⟨slot, (live_release ..).mpr ⟨live, apart⟩⟩
  · intro slot stale
    exact release_stale fun key held => stale key ((live_iff_holds ..).mpr held)
  · intro slots covered
    rw [← run_append]
    apply List.eq_nil_iff_forall_not_mem.mpr
    intro key held
    obtain ⟨slot, live⟩ := (held_iff_live ..).mp held
    obtain ⟨before, missed⟩ := (live_releases ..).mp live
    exact missed (covered slot key before)

/-- A pair claimed in slot 0, refused in slot 1, released and claimed again in slot 2. Slots 0 and 1
are stale then, so releasing them leaves the later claim; releasing all three ends it. -/
theorem reclaimed_pair_survives :
    let key : ClaimKey := (.base, ⟨10001, 7⟩)
    let actions : List Action := [.claim key, .claim key, .release 0, .claim key]
    let d := run {} actions
    Live actions 2 key ∧ (∀ slot, Live actions slot key → slot = 2) ∧
      key ∈ (d.act (.release 0)).2.claims.held ∧ d.act (.release 1) = (false, d) ∧
      (d.run ([2, 1, 0].map .release)).claims.held = [] := by
  intro key actions d
  have live : Live actions 2 key :=
    ⟨[.claim key, .claim key, .release 0], [], rfl, rfl, by decide, by simp⟩
  have only (slot : Nat) (other : ClaimKey) (claimed : Live actions slot other) : slot = 2 := by
    have held : d.slots[slot]? = some (some other) := (live_iff_holds ..).mp claimed
    rw [show d.slots = [none, none, some key] by decide] at held
    rcases slot with _ | _ | _ | slot <;> simp_all
  obtain ⟨_, unique, _, _, _, _, kept, stale, emptied⟩ := claims_exclusive actions
  refine ⟨live, fun slot other => unique slot 2 key other live, kept 0 2 key live (by decide),
    stale 1 ?_, emptied [2, 1, 0] ?_⟩
  · intro other claimed
    exact absurd (only 1 other claimed) (by decide)
  · intro slot other claimed
    simp [only slot other claimed]

end TabletUpkeep.ClaimDesk
