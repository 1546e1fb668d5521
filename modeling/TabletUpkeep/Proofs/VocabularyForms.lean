import Mathlib.Data.Option.Basic
import TabletUpkeep.Json.Vocabulary
import TabletUpkeep.Proofs.CheckedSums
import TabletUpkeep.Proofs.RecordForms

/-! The storage vocabulary in JSON. A value is read from each of its forms and from nothing else, and
one of these forms is what is written for it. A record that lacks a field or has an integer beyond
its word, however deep inside another one, is no form of anything. -/
namespace TabletUpkeep

open Described

namespace Json

/-- The form of a word. -/
def IsWord {α : Type} [Word α] (a : α) (v : Json) : Prop := v = .integer (Word.toInt a)

def IsText (s : String) (v : Json) : Prop := v = .text s

def IsBoolean (b : Bool) (v : Json) : Prop := v = .boolean b

/-- An array with one item for each value of a list. -/
def IsArray {α : Type} (form : α → Json → Prop) (values : List α) (v : Json) : Prop :=
  ∃ items, v = .array items ∧ List.Forall₂ (fun item a => form a item) items values

/-- An integer that is no word of the kind. -/
def IsOutside (α : Type) [Word α] (v : Json) : Prop := ∃ n, v = .integer n ∧ ¬ Word.Fits α n

/-- What texts and truth values are: there is no way for them to be broken. -/
def Unbroken (_ : Json) : Prop := False

/-- An array with a broken item. -/
def HasBroken (breaks : Json → Prop) (v : Json) : Prop :=
  ∃ items, v = .array items ∧ ∃ item ∈ items, breaks item

variable {α : Type} [Word α] {v : Json}

theorem reads_word : Reads (word? : Json → Option α) IsWord := by
  rintro v - a
  cases v with
  | integer n =>
    change Word.ofInt? n = some a ↔ Json.integer n = .integer (Word.toInt a)
    rw [Word.ofInt?_eq_some, integer.injEq, eq_comm]
  | _ => simp [word?, Described.integer?, integer?, IsWord]

theorem reads_text : Reads Described.text? IsText := by
  rintro v - s
  cases v <;> simp [Described.text?, text?, IsText]

theorem reads_boolean : Reads Described.boolean? IsBoolean := by
  rintro v - b
  cases v <;> simp [Described.boolean?, boolean?, IsBoolean]

theorem reads_array {β : Type} {read : Json → Option β} {form : β → Json → Prop}
    (reads : Reads read form) : Reads (list? read) (IsArray form) := by
  intro v distinct values
  cases distinct with
  | @array items each =>
    have same : list? read (.array items) = items.mapM read := rfl
    simp only [same, mapM_eq_some_iff_forall₂, IsArray, array.injEq, exists_eq_left']
    refine forall₂_congr_of_mem fun item among a => ?_
    exact reads item (each item among) a
  | _ => simp [list?, Described.items?, items?, IsArray]

theorem word_excludes (a : α) : Excludes (IsWord a) (IsOutside α) := by
  rintro v - word ⟨n, rfl, unfit⟩
  obtain rfl := Json.integer.inj word
  exact unfit (Word.fits_toInt a)

theorem excludes_unbroken (form : Json → Prop) : Excludes form Unbroken :=
  fun _ _ _ => id

section

variable {β : Type} {form : β → Json → Prop}

theorem array_excludes {breaks : Json → Prop} (apart : ∀ b, Excludes (form b) breaks)
    (values : List β) : Excludes (IsArray form values) (HasBroken breaks) := by
  rintro v distinct ⟨items, rfl, formed⟩ ⟨others, same, item, among, bad⟩
  obtain rfl := Json.array.inj same
  obtain ⟨place, listed⟩ := List.mem_iff_getElem?.mp among
  have within := (List.getElem?_eq_some_iff.mp listed).1
  obtain ⟨value, value_eq⟩ := exists_right_at formed within
  cases distinct with
  | array each => exact apart value item (each item among) (related_at formed listed value_eq) bad

theorem array_formed {write : β → Json} (writes : Writes write form) (values : List β) :
    (array (values.map write)).DistinctKeys ∧ IsArray form values (.array (values.map write)) := by
  refine ⟨.array (List.forall_mem_map.mpr fun b _ => (writes b).1), _, rfl, ?_⟩
  rw [List.forall₂_map_left_iff, List.forall₂_same]
  exact fun b _ => (writes b).2

end

end Json

namespace Version

def Form (x : Version) : Json → Prop :=
  Json.IsRecord ["start", "end"] [Json.IsWord x.first, Json.IsWord x.last]

/-- A version that lacks a bound or has one beyond its word. -/
def Broken : Json → Prop :=
  Json.Breaks ["start", "end"] [Json.IsOutside Int64, Json.IsOutside Int64]

theorem reads : Json.Reads ofJson? Form := by
  intro v distinct x
  rw [Form, ← Json.isRecord_iff distinct
    (.cons (Json.reads_word · · x.first) (.cons (Json.reads_word · · x.last) .nil))]
  constructor
  · intro read
    obtain ⟨fields, laid, read⟩ := Option.bind_eq_some_iff.mp read
    split at read
    · simp only [bind, pure, required, Option.bind_eq_some_iff, Option.some_inj] at read
      obtain ⟨_, ⟨first, rfl, first_read⟩, _, ⟨last, rfl, last_read⟩, rfl⟩ := read
      exact ⟨[first, last], laid, .cons first_read (.cons last_read .nil)⟩
    · cases read
  · rintro ⟨_, laid, _ | ⟨first_read, _ | ⟨last_read, _ | _⟩⟩⟩
    simp only [List.map_cons, List.map_nil] at laid
    simp [ofJson?, laid, required, first_read, last_read]

theorem excludes (x : Version) : Json.Excludes x.Form Broken :=
  Json.record_excludes (.cons (Json.word_excludes x.first) (.cons (Json.word_excludes x.last) .nil))

theorem writes : Json.Writes toJson Form := by
  refine fun x => ⟨?_, _, Json.laysOut_zip rfl, .cons rfl (.cons rfl .nil)⟩
  simp [toJson]

end Version

namespace KeyRange

def Form (r : KeyRange) : Json → Prop :=
  Json.IsRecord ["min", "max"] [Json.IsText r.min, Json.IsText r.max]

/-- A key range that lacks a bound. -/
def Broken : Json → Prop := Json.Breaks ["min", "max"] [Json.Unbroken, Json.Unbroken]

theorem reads : Json.Reads ofJson? Form := by
  intro v distinct r
  rw [Form, ← Json.isRecord_iff distinct
    (.cons (Json.reads_text · · r.min) (.cons (Json.reads_text · · r.max) .nil))]
  constructor
  · intro read
    obtain ⟨fields, laid, read⟩ := Option.bind_eq_some_iff.mp read
    split at read
    · simp only [bind, pure, required, Option.bind_eq_some_iff, Option.some_inj] at read
      obtain ⟨_, ⟨min, rfl, min_read⟩, _, ⟨max, rfl, max_read⟩, rfl⟩ := read
      exact ⟨[min, max], laid, .cons min_read (.cons max_read .nil)⟩
    · cases read
  · rintro ⟨_, laid, _ | ⟨min_read, _ | ⟨max_read, _ | _⟩⟩⟩
    simp only [List.map_cons, List.map_nil] at laid
    simp [ofJson?, laid, required, min_read, max_read]

theorem excludes (r : KeyRange) : Json.Excludes r.Form Broken :=
  Json.record_excludes (.cons (Json.excludes_unbroken _) (.cons (Json.excludes_unbroken _) .nil))

theorem writes : Json.Writes toJson Form := by
  refine fun r => ⟨?_, _, Json.laysOut_zip rfl, .cons rfl (.cons rfl .nil)⟩
  simp [toJson]

end KeyRange

namespace Rowset

def Form (r : Rowset) : Json → Prop :=
  Json.IsRecord fieldNames
    [Json.IsWord r.id, Json.IsWord r.segments, Json.IsWord r.rows, Json.IsWord r.dataSize,
     Json.IsWord r.indexSize, Json.IsBoolean r.isEmpty, Json.IsArray KeyRange.Form r.keyRanges]

/-- A rowset that lacks a field or has a broken one. -/
def Broken : Json → Prop :=
  Json.Breaks fieldNames
    [Json.IsOutside Int32, Json.IsOutside Int32, Json.IsOutside Int64, Json.IsOutside UInt64,
     Json.IsOutside UInt64, Json.Unbroken, Json.HasBroken KeyRange.Broken]

theorem reads : Json.Reads ofJson? Form := by
  intro v distinct r
  rw [Form, ← Json.isRecord_iff distinct
    (.cons (Json.reads_word · · r.id) (.cons (Json.reads_word · · r.segments)
      (.cons (Json.reads_word · · r.rows) (.cons (Json.reads_word · · r.dataSize)
        (.cons (Json.reads_word · · r.indexSize) (.cons (Json.reads_boolean · · r.isEmpty)
          (.cons (Json.reads_array KeyRange.reads · · r.keyRanges) .nil)))))))]
  constructor
  · intro read
    obtain ⟨fields, laid, read⟩ := Option.bind_eq_some_iff.mp read
    split at read
    · simp only [bind, pure, required, Option.bind_eq_some_iff, Option.some_inj] at read
      obtain ⟨_, ⟨id, rfl, id_read⟩, _, ⟨segments, rfl, segments_read⟩, _, ⟨rows, rfl, rows_read⟩,
        _, ⟨dataSize, rfl, dataSize_read⟩, _, ⟨indexSize, rfl, indexSize_read⟩,
        _, ⟨isEmpty, rfl, isEmpty_read⟩, _, ⟨keyRanges, rfl, keyRanges_read⟩, rfl⟩ := read
      exact ⟨[id, segments, rows, dataSize, indexSize, isEmpty, keyRanges], laid,
        .cons id_read (.cons segments_read (.cons rows_read (.cons dataSize_read
          (.cons indexSize_read (.cons isEmpty_read (.cons keyRanges_read .nil))))))⟩
    · cases read
  · rintro ⟨_, laid, _ | ⟨id_read, _ | ⟨segments_read, _ | ⟨rows_read, _ | ⟨dataSize_read,
      _ | ⟨indexSize_read, _ | ⟨isEmpty_read, _ | ⟨keyRanges_read, _ | _⟩⟩⟩⟩⟩⟩⟩⟩
    simp only [List.map_cons, List.map_nil] at laid
    simp [ofJson?, laid, required, id_read, segments_read, rows_read, dataSize_read, indexSize_read,
      isEmpty_read, keyRanges_read]

theorem excludes (r : Rowset) : Json.Excludes r.Form Broken :=
  Json.record_excludes
    (.cons (Json.word_excludes r.id) (.cons (Json.word_excludes r.segments)
      (.cons (Json.word_excludes r.rows) (.cons (Json.word_excludes r.dataSize)
        (.cons (Json.word_excludes r.indexSize) (.cons (Json.excludes_unbroken _)
          (.cons (Json.array_excludes KeyRange.excludes r.keyRanges) .nil)))))))

theorem writes : Json.Writes toJson Form := by
  intro r
  obtain ⟨distinct, formed⟩ := Json.array_formed KeyRange.writes r.keyRanges
  refine ⟨Json.distinctKeys_zip (by decide) rfl ?_, _, Json.laysOut_zip rfl, ?_⟩
  · simpa using distinct
  · exact .cons rfl (.cons rfl (.cons rfl (.cons rfl (.cons rfl (.cons rfl (.cons formed .nil))))))

end Rowset

namespace VersionContents

def Form (e : VersionContents) : Json → Prop :=
  Json.IsRecord fieldNames
    [e.version.Form, Json.IsWord e.versionHash, Json.IsArray Rowset.Form e.rowsets]

/-- Contents that lack a field or have a broken one. -/
def Broken : Json → Prop :=
  Json.Breaks fieldNames [Version.Broken, Json.IsOutside Int64, Json.HasBroken Rowset.Broken]

theorem reads : Json.Reads ofJson? Form := by
  intro v distinct e
  rw [Form, ← Json.isRecord_iff distinct
    (.cons (Version.reads · · e.version) (.cons (Json.reads_word · · e.versionHash)
      (.cons (Json.reads_array Rowset.reads · · e.rowsets) .nil)))]
  constructor
  · intro read
    obtain ⟨fields, laid, read⟩ := Option.bind_eq_some_iff.mp read
    split at read
    · simp only [bind, pure, required, Option.bind_eq_some_iff, Option.some_inj] at read
      obtain ⟨_, ⟨version, rfl, version_read⟩, _, ⟨hash, rfl, hash_read⟩,
        _, ⟨rowsets, rfl, rowsets_read⟩, rfl⟩ := read
      exact ⟨[version, hash, rowsets], laid,
        .cons version_read (.cons hash_read (.cons rowsets_read .nil))⟩
    · cases read
  · rintro ⟨_, laid, _ | ⟨version_read, _ | ⟨hash_read, _ | ⟨rowsets_read, _ | _⟩⟩⟩⟩
    simp only [List.map_cons, List.map_nil] at laid
    simp [ofJson?, laid, required, version_read, hash_read, rowsets_read]

theorem excludes (e : VersionContents) : Json.Excludes e.Form Broken :=
  Json.record_excludes
    (.cons e.version.excludes (.cons (Json.word_excludes e.versionHash)
      (.cons (Json.array_excludes Rowset.excludes e.rowsets) .nil)))

theorem writes : Json.Writes toJson Form := by
  intro e
  obtain ⟨version_distinct, version_formed⟩ := Version.writes e.version
  obtain ⟨distinct, formed⟩ := Json.array_formed Rowset.writes e.rowsets
  refine ⟨Json.distinctKeys_zip (by decide) rfl ?_, _, Json.laysOut_zip rfl, ?_⟩
  · simpa [version_distinct] using distinct
  · exact .cons version_formed (.cons rfl (.cons formed .nil))

end VersionContents

namespace ReadCounters

def Form (s : ReadCounters) : Json → Prop :=
  Json.IsRecord fieldNames (counters.map fun c => Json.IsWord (c.get s))

/-- Statistics that lack a counter or have one beyond its word. -/
def Broken : Json → Prop :=
  Json.Breaks fieldNames (counters.map fun _ => Json.IsOutside Int64)

variable {cs : List Counter} {fields : List Json} {start s : ReadCounters}

/-- Setting counters in turn leaves each at the value given for it. -/
theorem setAll?_eq_some {given : List (Option Json)}
    (settable : ∀ c ∈ cs, ∀ value s, c.get (c.set value s) = value)
    (apart : cs.Pairwise Counter.Apart) (set : setAll? cs given start = some s) :
    (∃ fields, given = fields.map some ∧
      List.Forall₂ (fun c field => word? field = some (c.get s)) cs fields) ∧
    ∀ d : Counter, (∀ c ∈ cs, d.Apart c) → d.get s = d.get start := by
  induction cs generalizing given start with
  | nil =>
    cases given with
    | nil =>
      obtain rfl := Option.some.inj set
      exact ⟨⟨[], rfl, .nil⟩, fun _ _ => rfl⟩
    | cons field given => cases set
  | cons c cs ih =>
    obtain ⟨set_c, set_others⟩ := List.forall_mem_cons.mp settable
    obtain ⟨apart_c, apart_others⟩ := List.pairwise_cons.mp apart
    cases given with
    | nil => cases set
    | cons field given =>
      obtain ⟨value, word, set_rest⟩ := Option.bind_eq_some_iff.mp set
      obtain ⟨field, rfl, read⟩ := Option.bind_eq_some_iff.mp word
      obtain ⟨⟨fields, rfl, words⟩, kept⟩ := ih set_others apart_others set_rest
      have own : c.get s = value := (kept c apart_c).trans (set_c value start)
      refine ⟨⟨field :: fields, rfl, .cons (own ▸ read) words⟩, fun d apart_d => ?_⟩
      obtain ⟨here, later⟩ := List.forall_mem_cons.mp apart_d
      exact (kept d later).trans (here value start).1

theorem exists_setAll? (start : ReadCounters) (words : List.Forall₂ (fun (_ : Counter) field =>
    ∃ value : Int64, word? field = some value) cs fields) :
    ∃ s, setAll? cs (fields.map some) start = some s := by
  induction words generalizing start with
  | nil => exact ⟨start, rfl⟩
  | @cons c field cs fields word others ih =>
    obtain ⟨value, read⟩ := word
    obtain ⟨s, set⟩ := ih (c.set value start)
    exact ⟨s, by simp [setAll?, required, read, set]⟩

theorem setAll?_counters_iff :
    setAll? counters (fields.map some) start = some s ↔
      List.Forall₂ (fun c field => word? field = some (c.get s)) counters fields := by
  constructor
  · intro set
    obtain ⟨⟨others, same, words⟩, -⟩ := setAll?_eq_some get_set counters_apart set
    rwa [List.map_injective_iff.mpr (Option.some_injective Json) same]
  · intro words
    obtain ⟨t, set⟩ := exists_setAll? start
      (words.imp fun c field read => ⟨c.get s, read⟩)
    obtain ⟨⟨others, same, others_words⟩, -⟩ := setAll?_eq_some get_set counters_apart set
    obtain rfl := List.map_injective_iff.mpr (Option.some_injective Json) same
    have equal : t = s := by
      refine eq_of_counters fun c among => ?_
      obtain ⟨i, at_i⟩ := List.mem_iff_getElem?.mp among
      obtain ⟨field, field_at⟩ := exists_right_at words (List.getElem?_eq_some_iff.mp at_i).1
      exact Option.some.inj ((related_at others_words at_i field_at).symm.trans
        (related_at words at_i field_at))
    rw [set, equal]

theorem reads : Json.Reads ofJson? Form := by
  intro v distinct s
  have same : List.Forall₂ (fun accept form => ∀ field : Json, field.DistinctKeys →
      (accept field ↔ form field)) (counters.map fun c field => word? field = some (c.get s))
      (counters.map fun c => Json.IsWord (c.get s)) := by
    rw [List.forall₂_map_left_iff, List.forall₂_map_right_iff, List.forall₂_same]
    exact fun c _ field distinct => Json.reads_word field distinct (c.get s)
  rw [Form, ← Json.isRecord_iff distinct same]
  simp only [List.forall₂_map_left_iff]
  constructor
  · intro read
    obtain ⟨given, laid, set⟩ := Option.bind_eq_some_iff.mp read
    obtain ⟨⟨fields, rfl, words⟩, -⟩ := setAll?_eq_some get_set counters_apart set
    exact ⟨fields, laid, words⟩
  · rintro ⟨fields, laid, words⟩
    rw [ofJson?, laid, Option.bind_some, setAll?_counters_iff.mpr words]

theorem excludes (s : ReadCounters) : Json.Excludes s.Form Broken := by
  refine Json.record_excludes ?_
  rw [List.forall₂_map_left_iff, List.forall₂_map_right_iff, List.forall₂_same]
  exact fun c _ => Json.word_excludes (c.get s)

theorem toJson_eq (s : ReadCounters) :
    s.toJson = .object (fieldNames.zip (counters.map fun c => .integer (c.get s).toInt)) := by
  rw [toJson, fieldNames, List.zip_map']

theorem writes : Json.Writes toJson Form := by
  intro s
  have length : (counters.map fun c => Json.integer (c.get s).toInt).length =
      fieldNames.length := rfl
  rw [toJson_eq]
  refine ⟨Json.distinctKeys_zip (by decide) length ?_, _, Json.laysOut_zip length, ?_⟩
  · exact List.forall_mem_map.mpr fun c _ => .integer _
  · rw [List.forall₂_map_left_iff, List.forall₂_map_right_iff, List.forall₂_same]
    exact fun c _ => rfl

end ReadCounters

/-- The contents of a version and read counters lose nothing as JSON. Each of their forms is read as
the value that it is a form of, with the fields of every record in it by their names or by their
places, and nothing is read where a record lacks a field or has an integer beyond its word. -/
theorem vocabulary_lossless :
    Json.Lossless VersionContents.toJson VersionContents.ofJson? VersionContents.Form
      VersionContents.Broken ∧
    Json.Lossless ReadCounters.toJson ReadCounters.ofJson? ReadCounters.Form
      ReadCounters.Broken :=
  ⟨VersionContents.reads.lossless VersionContents.writes VersionContents.excludes,
    ReadCounters.reads.lossless ReadCounters.writes ReadCounters.excludes⟩

/-- Contents by place, with a version by name and in another order and with a name too many, are read
and written as usual; with a key range that lacks its second bound they are refused. -/
theorem mixed_forms_read :
    let rowset (keyRange : Json) : Json := .object
      [("key_ranges", .array [keyRange]), ("empty", .boolean false), ("rowset_id", .integer 1),
       ("index_size", .integer 64), ("num_rows", .integer (-3)), ("num_segments", .integer 1),
       ("data_size", .integer 18446744073709551615)]
    let given (keyRange : Json) : Json := .array
      [.object [("comment", .null), ("end", .integer 5), ("start", .integer (-2))], .integer 7,
       .array [rowset keyRange]]
    let e : VersionContents :=
      ⟨⟨-2, 5⟩, 7, [⟨1, 1, -3, 18446744073709551615, 64, false, [⟨"a", "z"⟩]⟩]⟩
    let whole : Json := .array [.text "a", .text "z"]
    let half : Json := .object [("min", .text "a")]
    (given whole).DistinctKeys ∧ e.Form (given whole) ∧
    VersionContents.ofJson? e.toJson = some e ∧
    VersionContents.Broken (given half) ∧ VersionContents.ofJson? (given half) = none := by
  intro rowset given e whole half
  obtain ⟨⟨read_write, reads, -, refuses⟩, -⟩ := vocabulary_lossless
  have distinct (keyRange : Json) (inner : keyRange.DistinctKeys) :
      (given keyRange).DistinctKeys := by
    simp [given, rowset, inner]
  have found : VersionContents.ofJson? (given whole) = some e := by decide
  have lacking : KeyRange.Broken (.object [("min", .text "a")]) := by
    refine .missing 1 (by decide) fun field listed => ?_
    cases listed with
    | named name_eq listed => simp_all
  have rowset_broken : Rowset.Broken (rowset half) :=
    .broken 6 (.array [half]) _ rfl (.named rfl (by simp)) ⟨_, rfl, half, by simp, lacking⟩
  have broken : VersionContents.Broken (given half) :=
    .broken 2 (.array [rowset half]) _ rfl (.placed rfl)
      ⟨_, rfl, rowset half, by simp, rowset_broken⟩
  have whole_distinct : (given whole).DistinctKeys := distinct whole (by simp [whole])
  refine ⟨whole_distinct, (reads _ whole_distinct e).mp found, read_write e, broken, ?_⟩
  exact refuses _ (distinct half (by simp [half])) broken

end TabletUpkeep
