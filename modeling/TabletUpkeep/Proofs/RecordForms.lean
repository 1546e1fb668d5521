import TabletUpkeep.Json.Value
import TabletUpkeep.Proofs.NamedValues

/-! The JSON forms of a record, described without the reader: an object has the fields under their
names in any order and beside any others, an array has them in their order and nothing else. Where
no object names anything twice the reader takes exactly these forms. -/
namespace TabletUpkeep

theorem map_eq_map_iff_forall₂ {α β γ : Type} {f : α → γ} {g : β → γ} {xs : List α} {ys : List β} :
    xs.map f = ys.map g ↔ List.Forall₂ (fun x y => f x = g y) xs ys := by
  rw [← List.forall₂_eq_eq_eq, List.forall₂_map_left_iff, List.forall₂_map_right_iff]

section

variable {α β : Type} {related : α → β → Prop} {xs : List α} {ys : List β} {i : Nat}

theorem forall₂_congr_of_mem {other : α → β → Prop}
    (same : ∀ x ∈ xs, ∀ y, related x y ↔ other x y) :
    List.Forall₂ related xs ys ↔ List.Forall₂ other xs ys := by
  induction xs generalizing ys with
  | nil => rw [List.forall₂_nil_left_iff, List.forall₂_nil_left_iff]
  | cons x xs ih =>
    obtain ⟨here, later⟩ := List.forall_mem_cons.mp same
    simp only [List.forall₂_cons_left_iff, here, ih later]

theorem related_at (all : List.Forall₂ related xs ys) {x : α} {y : β} (left : xs[i]? = some x)
    (right : ys[i]? = some y) : related x y := by
  obtain ⟨xs_long, rfl⟩ := List.getElem?_eq_some_iff.mp left
  obtain ⟨ys_long, rfl⟩ := List.getElem?_eq_some_iff.mp right
  exact all.get xs_long ys_long

theorem exists_left_at (all : List.Forall₂ related xs ys) {y : β} (right : ys[i]? = some y) :
    ∃ x, xs[i]? = some x := by
  have within := (List.getElem?_eq_some_iff.mp right).1
  exact ⟨_, List.getElem?_eq_getElem (all.length_eq ▸ within)⟩

theorem exists_right_at (all : List.Forall₂ related xs ys) (within : i < xs.length) :
    ∃ y, ys[i]? = some y :=
  ⟨_, List.getElem?_eq_getElem (all.length_eq ▸ within)⟩

end

namespace Json

/-- No object names anything twice, at any depth. -/
inductive DistinctKeys : Json → Prop
  | null : DistinctKeys .null
  | boolean (value : Bool) : DistinctKeys (.boolean value)
  | integer (value : Int) : DistinctKeys (.integer value)
  | otherNumber : DistinctKeys .otherNumber
  | text (value : String) : DistinctKeys (.text value)
  | array {items : List Json} (each : ∀ item ∈ items, DistinctKeys item) :
      DistinctKeys (.array items)
  | object {members : List (String × Json)} (distinct : (members.map Prod.fst).Nodup)
      (each : ∀ member ∈ members, DistinctKeys member.2) : DistinctKeys (.object members)

attribute [simp] DistinctKeys.null DistinctKeys.boolean DistinctKeys.integer
  DistinctKeys.otherNumber DistinctKeys.text

@[simp] theorem distinctKeys_array_iff (items : List Json) :
    (array items).DistinctKeys ↔ ∀ item ∈ items, item.DistinctKeys :=
  ⟨fun | .array each => each, .array⟩

@[simp] theorem distinctKeys_object_iff (members : List (String × Json)) :
    (object members).DistinctKeys ↔
      (members.map Prod.fst).Nodup ∧ ∀ member ∈ members, member.2.DistinctKeys :=
  ⟨fun | .object distinct each => ⟨distinct, each⟩, fun ⟨distinct, each⟩ => .object distinct each⟩

/-- A JSON value lays out the fields of a record and, if by their places, no more. -/
inductive LaysOut (names : List String) : List Json → Json → Prop
  | named {fields : List Json} {members : List (String × Json)}
      (listed : List.Forall₂ (fun name field => (name, field) ∈ members) names fields) :
      LaysOut names fields (.object members)
  | placed {fields : List Json} (length : fields.length = names.length) :
      LaysOut names fields (.array fields)

/-- A record all fields of which are there, each in its form. -/
def IsRecord (names : List String) (forms : List (Json → Prop)) (v : Json) : Prop :=
  ∃ fields, LaysOut names fields v ∧ List.Forall₂ (fun form field => form field) forms fields

/-- A JSON value has a value for the field at a place of a record, whatever it has for the others. -/
inductive HasField (names : List String) (place : Nat) (field : Json) : Json → Prop
  | named {members : List (String × Json)} {name : String} (name_eq : names[place]? = some name)
      (listed : (name, field) ∈ members) : HasField names place field (.object members)
  | placed {items : List Json} (listed : items[place]? = some field) :
      HasField names place field (.array items)

/-- A record in which a field is missing, or is broken in the way that is given for it. -/
inductive Breaks (names : List String) (broken : List (Json → Prop)) (v : Json) : Prop
  | missing (place : Nat) (within : place < names.length)
      (absent : ∀ field, ¬ HasField names place field v)
  | broken (place : Nat) (field : Json) (breaks : Json → Prop)
      (breaks_eq : broken[place]? = some breaks)
      (listed : HasField names place field v) (bad : breaks field)

variable {names : List String} {fields items : List Json} {v : Json}

theorem byPosition_eq_iff (short : items.length ≤ names.length) :
    Described.byPosition names items = fields.map some ↔
      items = fields ∧ fields.length = names.length := by
  have laid (i : Nat) (within : i < names.length) :
      (Described.byPosition names items)[i]? = some items[i]? := by
    simp [Described.byPosition, within]
  constructor
  · intro same
    have length : fields.length = names.length := by
      rw [← Described.length_byPosition names items, same, List.length_map]
    refine ⟨List.ext_getElem? fun i => ?_, length⟩
    by_cases within : i < names.length
    · have here := laid i within
      rw [same, List.getElem?_map] at here
      simpa [length, within] using here.symm
    · rw [List.getElem?_eq_none (by omega), List.getElem?_eq_none (by omega)]
  · rintro ⟨rfl, length⟩
    refine List.ext_getElem? fun i => ?_
    by_cases within : i < names.length
    · simp [laid i within, length, within]
    · have beyond := Described.length_byPosition names items
      rw [List.getElem?_eq_none (by omega), List.getElem?_eq_none (by simp; omega)]

/-- The reader lays out a record just where the record has that layout. -/
theorem fields?_eq_some_iff (distinct : v.DistinctKeys) :
    v.fields? names = some (fields.map some) ↔ LaysOut names fields v := by
  cases distinct with
  | object keys each =>
    rw [fields?, Option.some_inj, map_eq_map_iff_forall₂]
    simp only [lookup_eq_some_iff_mem keys]
    exact ⟨.named, fun | .named listed => listed⟩
  | @array items each =>
    rw [fields?]
    split_ifs with short
    · rw [Option.some_inj, byPosition_eq_iff short]
      constructor
      · rintro ⟨rfl, length⟩
        exact .placed length
      · rintro ⟨⟩
        exact ⟨rfl, ‹_›⟩
    · refine iff_of_false not_false ?_
      rintro ⟨⟩
      omega
  | _ => exact iff_of_false nofun nofun

theorem LaysOut.length_eq (laid : LaysOut names fields v) : fields.length = names.length := by
  cases laid with
  | named listed => exact listed.length_eq.symm
  | placed length => exact length

section

variable {place : Nat} {field : Json}

theorem HasField.distinctKeys (listed : HasField names place field v) (distinct : v.DistinctKeys) :
    field.DistinctKeys := by
  cases listed with
  | named name_eq listed =>
    cases distinct with
    | object keys each => exact each _ listed
  | placed listed =>
    cases distinct with
    | array each => exact each field (List.mem_of_getElem? listed)

theorem LaysOut.hasField (laid : LaysOut names fields v) (listed : fields[place]? = some field) :
    HasField names place field v := by
  cases laid with
  | named members =>
    obtain ⟨name, name_eq⟩ := exists_left_at members listed
    exact .named name_eq (related_at members name_eq listed)
  | placed length => exact .placed listed

/-- Where no name stands twice there is one value for each field. -/
theorem LaysOut.getElem?_eq (laid : LaysOut names fields v) (distinct : v.DistinctKeys)
    (listed : HasField names place field v) : fields[place]? = some field := by
  cases laid with
  | named members =>
    cases distinct with
    | object keys each =>
      cases listed with
      | named name_eq listed =>
        have within := (List.getElem?_eq_some_iff.mp name_eq).1
        obtain ⟨another, found⟩ := exists_right_at members within
        have other := (lookup_eq_some_iff_mem keys).mpr (related_at members name_eq found)
        have this := (lookup_eq_some_iff_mem keys).mpr listed
        rw [found, ← other, this]
  | placed length =>
    cases listed with
    | placed listed => exact listed

theorem LaysOut.distinctKeys (laid : LaysOut names fields v) (distinct : v.DistinctKeys)
    (among : field ∈ fields) : field.DistinctKeys := by
  obtain ⟨place, listed⟩ := List.mem_iff_getElem?.mp among
  exact (laid.hasField listed).distinctKeys distinct

end

/-- A reader takes exactly the values in a form, where no object names anything twice. -/
def Reads {α : Type} (read : Json → Option α) (form : α → Json → Prop) : Prop :=
  ∀ v, v.DistinctKeys → ∀ a, read v = some a ↔ form a v

/-- What is written for a value is in its form and names nothing twice. -/
def Writes {α : Type} (write : α → Json) (form : α → Json → Prop) : Prop :=
  ∀ a, (write a).DistinctKeys ∧ form a (write a)

/-- Nothing in the form is broken in the given way. -/
def Excludes (form breaks : Json → Prop) : Prop := ∀ v, v.DistinctKeys → form v → ¬ breaks v

section

variable {α : Type} {read : Json → Option α} {write : α → Json} {form : α → Json → Prop}

theorem Reads.read_write (reads : Reads read form) (writes : Writes write form) (a : α) :
    read (write a) = some a := by
  obtain ⟨distinct, formed⟩ := writes a
  exact (reads _ distinct a).mpr formed

theorem Reads.refuses (reads : Reads read form) {breaks : Json → Prop}
    (apart : ∀ a, Excludes (form a) breaks) (distinct : v.DistinctKeys) (bad : breaks v) :
    read v = none := by
  rw [Option.eq_none_iff_forall_ne_some]
  intro a found
  exact apart a v distinct ((reads v distinct a).mp found) bad

end

/-- Values of a type as JSON: what is written is read back; what is read is what is in one of the
forms, and writing it again gives the same value; what is broken is refused. -/
structure Lossless {α : Type} (write : α → Json) (read : Json → Option α) (form : α → Json → Prop)
    (breaks : Json → Prop) : Prop where
  read_write : ∀ a, read (write a) = some a
  reads : ∀ v, v.DistinctKeys → ∀ a, read v = some a ↔ form a v
  rewrites : ∀ v, v.DistinctKeys → ∀ a, read v = some a → read (write a) = some a
  refuses : ∀ v, v.DistinctKeys → breaks v → read v = none

theorem Reads.lossless {α : Type} {read : Json → Option α} {write : α → Json}
    {form : α → Json → Prop} {breaks : Json → Prop} (reads : Reads read form)
    (writes : Writes write form) (apart : ∀ a, Excludes (form a) breaks) :
    Lossless write read form breaks := by
  refine ⟨reads.read_write writes, reads, fun v _ a _ => reads.read_write writes a, ?_⟩
  exact fun v distinct bad => reads.refuses apart distinct bad

section

variable {accepts forms broken : List (Json → Prop)}

/-- A record is read field by field. -/
theorem isRecord_iff (distinct : v.DistinctKeys)
    (same : List.Forall₂
      (fun accept form => ∀ field, field.DistinctKeys → (accept field ↔ form field))
      accepts forms) :
    (∃ fields, v.fields? names = some (fields.map some) ∧
      List.Forall₂ (fun accept field => accept field) accepts fields) ↔ IsRecord names forms v := by
  refine exists_congr fun fields => ?_
  rw [fields?_eq_some_iff distinct]
  refine and_congr_right fun laid => ?_
  have each : ∀ field ∈ fields, field.DistinctKeys := fun _ => laid.distinctKeys distinct
  clear laid
  induction same generalizing fields with
  | nil => rw [List.forall₂_nil_left_iff]
  | cons first others ih =>
    cases fields with
    | nil => exact iff_of_false nofun nofun
    | cons field fields =>
      obtain ⟨here, later⟩ := List.forall_mem_cons.mp each
      rw [List.forall₂_cons, List.forall₂_cons]
      exact and_congr (first field here) (ih fields later)

/-- A record in its form has no broken field, if none of the single forms is broken. -/
theorem record_excludes (apart : List.Forall₂ Excludes forms broken) :
    Excludes (IsRecord names forms) (Breaks names broken) := by
  rintro v distinct ⟨fields, laid, formed⟩
    (⟨place, within, absent⟩ | ⟨place, field, breaks, breaks_eq, listed, bad⟩)
  · have listed := List.getElem?_eq_getElem (laid.length_eq ▸ within)
    exact absent _ (laid.hasField listed)
  · obtain ⟨form, form_eq⟩ := exists_left_at apart breaks_eq
    have found := laid.getElem?_eq distinct listed
    exact related_at apart form_eq breaks_eq field (listed.distinctKeys distinct)
      (related_at formed form_eq found) bad

end

/-- An object that names fields in their order is a record of them. -/
theorem laysOut_zip (length : fields.length = names.length) :
    LaysOut names fields (.object (names.zip fields)) :=
  .named (List.forall₂_iff_zip.mpr ⟨length.symm, id⟩)

theorem distinctKeys_zip (keys : names.Nodup) (length : fields.length = names.length)
    (each : ∀ field ∈ fields, field.DistinctKeys) : (object (names.zip fields)).DistinctKeys := by
  refine .object ?_ fun member among => each _ (List.of_mem_zip among).2
  rwa [List.map_fst_zip (Nat.le_of_eq length.symm)]

end Json

end TabletUpkeep
