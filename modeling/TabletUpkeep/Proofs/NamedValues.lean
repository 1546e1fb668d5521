import Mathlib.Data.List.Forall2
import Mathlib.Data.List.Nodup

/-! Looking names up in a list in which each stands once. What is found does not depend on the order
of the list, and a list with its values read holds under each name what is read there. -/
namespace TabletUpkeep

theorem mapM_eq_some_iff_forall₂ {α β : Type} {f : α → Option β} {items : List α} {read : List β} :
    items.mapM f = some read ↔ List.Forall₂ (fun item value => f item = some value) items read := by
  induction items generalizing read with
  | nil => simp [eq_comm]
  | cons item items ih =>
    rw [List.mapM_cons, List.forall₂_cons_left_iff]
    constructor
    · intro mapped
      obtain ⟨value, first, mapped⟩ := Option.bind_eq_some_iff.mp mapped
      obtain ⟨values, others, mapped⟩ := Option.bind_eq_some_iff.mp mapped
      exact ⟨value, values, first, ih.mp others, (Option.some.inj mapped).symm⟩
    · rintro ⟨value, values, first, others, rfl⟩
      simp [first, ih.mpr others]

variable {α β : Type} {entries shuffled : List (String × α)} {name : String} {value : α}

theorem lookup_cons_of (entry : String × α) :
    (entry :: entries).lookup name =
      if name = entry.1 then some entry.2 else entries.lookup name := by
  obtain ⟨key, value⟩ := entry
  by_cases same : name = key <;> simp [List.lookup_cons, beq_false_of_ne, same]

theorem mem_of_lookup (found : entries.lookup name = some value) : (name, value) ∈ entries := by
  induction entries with
  | nil => cases found
  | cons entry entries ih =>
    rw [lookup_cons_of] at found
    split_ifs at found with same
    · obtain rfl := Option.some.inj found
      simp [same]
    · exact List.mem_cons_of_mem _ (ih found)

theorem lookup_eq_some_iff_mem (distinct : (entries.map Prod.fst).Nodup) :
    entries.lookup name = some value ↔ (name, value) ∈ entries := by
  refine ⟨mem_of_lookup, fun listed => ?_⟩
  induction entries with
  | nil => cases listed
  | cons entry entries ih =>
    obtain ⟨fresh, others⟩ := List.nodup_cons.mp distinct
    rcases List.mem_cons.mp listed with rfl | later
    · simp
    · have apart : name ≠ entry.1 := by
        rintro rfl
        exact fresh (List.mem_map.mpr ⟨_, later, rfl⟩)
      rw [lookup_cons_of, if_neg apart, ih others later]

theorem lookup_eq_none_iff_not_mem :
    entries.lookup name = none ↔ name ∉ entries.map Prod.fst := by
  induction entries with
  | nil => simp
  | cons entry entries ih =>
    rw [lookup_cons_of, List.map_cons, List.mem_cons]
    by_cases same : name = entry.1 <;> simp only [same, if_true, if_false, ih, true_or, false_or]
    simp

theorem lookup_perm (distinct : (entries.map Prod.fst).Nodup) (same : entries.Perm shuffled)
    (name : String) : shuffled.lookup name = entries.lookup name := by
  have shuffled_distinct := (same.map Prod.fst).nodup_iff.mp distinct
  refine Option.ext fun value => ?_
  rw [lookup_eq_some_iff_mem distinct, lookup_eq_some_iff_mem shuffled_distinct, same.mem_iff]

section

variable {read : α → Option β} {values : List (String × β)}

/-- The list with every value read, if each of them can be read. -/
def readValues? (read : α → Option β) (entries : List (String × α)) : Option (List (String × β)) :=
  entries.mapM fun entry => (read entry.2).map (entry.1, ·)

theorem readValues?_cons (entry : String × α) :
    readValues? read (entry :: entries) =
      (read entry.2).bind fun value => (readValues? read entries).map ((entry.1, value) :: ·) := by
  rw [readValues?, List.mapM_cons]
  cases read entry.2 with
  | none => rfl
  | some value => exact Option.map_eq_bind.symm

theorem readValues?_isSome_iff :
    (readValues? read entries).isSome = true ↔ ∀ entry ∈ entries, (read entry.2).isSome = true := by
  induction entries with
  | nil => simp [readValues?]
  | cons entry entries ih =>
    rw [readValues?_cons, List.forall_mem_cons, ← ih]
    cases read entry.2 <;> simp

theorem readValues?_eq_some_iff :
    readValues? read entries = some values ↔
      List.Forall₂ (fun entry value => value.1 = entry.1 ∧ read entry.2 = some value.2)
        entries values := by
  have same (entry : String × α) (value : String × β) :
      (read entry.2).map (entry.1, ·) = some value ↔
        value.1 = entry.1 ∧ read entry.2 = some value.2 := by
    obtain ⟨name, value⟩ := value
    simp [Option.map_eq_some_iff, and_comm, eq_comm]
  simp only [readValues?, mapM_eq_some_iff_forall₂, same]

theorem names_of_readValues? (all : readValues? read entries = some values) :
    values.map Prod.fst = entries.map Prod.fst := by
  rw [readValues?_eq_some_iff] at all
  induction all with
  | nil => rfl
  | cons here _ ih => simp [here.1, ih]

theorem lookup_of_readValues? (all : readValues? read entries = some values) (name : String) :
    values.lookup name = (entries.lookup name).bind read := by
  rw [readValues?_eq_some_iff] at all
  induction all with
  | nil => rfl
  | cons here _ ih =>
    rw [lookup_cons_of, lookup_cons_of, ih, here.1]
    split_ifs
    · exact here.2.symm
    · rfl

end

end TabletUpkeep
