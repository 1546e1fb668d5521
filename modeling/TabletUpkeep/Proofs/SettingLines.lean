import TabletUpkeep.Proofs.DecimalReading
import TabletUpkeep.Proofs.NamedValues
import TabletUpkeep.Settings.Writing
import TabletUpkeep.Toml.Document

/-! A section of integer settings as a document: each line is one pair, and all of them together
make up one table, in the order of the lines. -/
namespace TabletUpkeep.Toml

/-- Keys that need no quotes. -/
def IsBareKey (key : String) : Prop := key ≠ "" ∧ key.toList.all isBareKeyChar = true

instance (key : String) : Decidable (IsBareKey key) := inferInstanceAs (Decidable (_ ∧ _))

variable {key : String} {rest ending : List Char} {lines : List (String × Int)}

theorem IsBareKey.all (bare : IsBareKey key) : ∀ c ∈ key.toList, isBareKeyChar c = true :=
  List.all_eq_true.mp bare.2

theorem IsBareKey.starts (bare : IsBareKey key) :
    ∃ c s, key.toList = c :: s ∧ isBareKeyChar c = true := by
  cases chars : key.toList with
  | nil => exact absurd (String.toList_eq_nil_iff.mp chars) bare.1
  | cons c s => exact ⟨c, s, rfl, bare.all c (by simp [chars])⟩

theorem IsBareKey.head (bare : IsBareKey key) {c : Char} {s : List Char}
    (starts : key.toList ++ rest = c :: s) : isBareKeyChar c = true := by
  obtain ⟨first, others, chars, first_bare⟩ := bare.starts
  rw [chars] at starts
  exact (List.cons.inj starts).1 ▸ first_bare

theorem skipBlank_of_not_blank {c : Char} (visible : isBlank c = false) (s : List Char) :
    skipBlank (c :: s) = c :: s := by
  simp [skipBlank, visible]

theorem not_blank_of_bare {c : Char} (bare : isBareKeyChar c = true) : isBlank c = false := by
  have no_space : c ≠ ' ' := ne_of_kind bare (by decide)
  have no_tab : c ≠ '\t' := ne_of_kind bare (by decide)
  simp [isBlank, no_space, no_tab]

theorem segment?_bare (bare : IsBareKey key) {c : Char} (stops : isBareKeyChar c = false)
    (s : List Char) : segment? (key.toList ++ c :: s) = some (key, c :: s) := by
  have taken : (key.toList ++ c :: s).takeWhile isBareKeyChar = key.toList := by
    rw [List.takeWhile_append_of_pos bare.all]
    simp [stops]
  have left : (key.toList ++ c :: s).dropWhile isBareKeyChar = c :: s := by
    rw [List.dropWhile_append_of_pos bare.all]
    simp [stops]
  have some_char : key.toList.isEmpty = false := by
    rw [List.isEmpty_eq_false_iff]
    exact fun none => bare.1 (String.toList_eq_nil_iff.mp none)
  unfold segment?
  split
  · exact absurd (bare.head ‹_›) (by decide)
  · exact absurd (bare.head ‹_›) (by decide)
  · simp [taken, left, some_char]

/-- A bare key ends before a character that cannot belong to it. It is the whole key unless a dot
follows. -/
theorem key?_bare (bare : IsBareKey key) {c d : Char} {s after : List Char}
    (stops : isBareKeyChar c = false) (next : skipBlank (c :: s) = d :: after) (no_dot : d ≠ '.') :
    key? (key.toList ++ c :: s) = some ([key], d :: after) := by
  have segment := segment?_bare bare stops s
  obtain ⟨first, others, chars, first_bare⟩ := bare.starts
  have whole : segments? (key.toList ++ c :: s) = some ([key], d :: after) := by
    rw [chars] at segment ⊢
    rw [List.cons_append] at segment ⊢
    unfold segments?
    rw [skipBlank_of_not_blank (not_blank_of_bare first_bare), segment]
    dsimp only
    rw [next]
    split
    · exact absurd (List.cons.inj ‹_›).1 no_dot
    · rfl
  rw [key?, whole]
  rfl

theorem lineText_append (key : String) (n : Int) (rest : List Char) :
    (Settings.lineText (key, n)).toList ++ rest =
      key.toList ++ ' ' :: '=' :: ' ' :: ((toString n).toList ++ rest) := by
  simp [Settings.lineText]

theorem lineText_starts (bare : IsBareKey key) (n : Int) (rest : List Char) :
    ∃ c s, (Settings.lineText (key, n)).toList ++ rest = c :: s ∧ isBareKeyChar c = true := by
  obtain ⟨first, others, chars, first_bare⟩ := bare.starts
  exact ⟨first, _, by rw [lineText_append, chars, List.cons_append], first_bare⟩

theorem skipBlank_toString (n : Int) (rest : List Char) :
    skipBlank (' ' :: ((toString n).toList ++ rest)) = (toString n).toList ++ rest := by
  cases chars : (toString n).toList ++ rest with
  | nil => rfl
  | cons c s =>
    have bare : isBareKeyChar c = true := by
      rcases toString_append_head chars with digit | rfl
      · simp [isBareKeyChar, Char.isAlphanum, digit]
      · rfl
    exact skipBlank_of_not_blank (not_blank_of_bare bare) s

theorem EndsLine.skipBlank_eq (ends : EndsLine rest) : skipBlank rest = rest := by
  rcases ends with rfl | ⟨more, rfl⟩
  · rfl
  · exact skipBlank_of_not_blank rfl more

theorem EndsLine.lineEnd? (ends : EndsLine rest) : lineEnd? rest = some rest.tail := by
  rcases ends with rfl | ⟨more, rfl⟩ <;> rfl

theorem pair?_lineText (bare : IsBareKey key) (depth : Nat) (n : Int) (ends : EndsLine rest) :
    pair? (value? depth) ((Settings.lineText (key, n)).toList ++ rest) =
      (integerItem? n).map fun value => (([key], value), rest) := by
  have read_key : key? ((Settings.lineText (key, n)).toList ++ rest) =
      some ([key], '=' :: ' ' :: ((toString n).toList ++ rest)) := by
    rw [lineText_append]
    exact key?_bare bare rfl rfl (by decide)
  rw [pair?, read_key]
  change (value? depth (skipBlank _)).map _ = _
  rw [skipBlank_toString, value?_toString depth n ends]
  simp [Function.comp_def, ends.skipBlank_eq]

/-- The line of an entry whose key has one segment. -/
def asPair (entry : String × Item) : Expression := .pair [entry.1] entry.2

theorem expression?_lineText (bare : IsBareKey key) (n : Int) (ends : EndsLine rest) :
    expression? ((Settings.lineText (key, n)).toList ++ rest) =
      (integerItem? n).map fun value => (some (asPair (key, value)), rest.tail) := by
  have pair := pair?_lineText bare (nestingLimit - 1) n ends
  have head {c : Char} {s : List Char}
      (starts : (Settings.lineText (key, n)).toList ++ rest = c :: s) :
      isBareKeyChar c = true := by
    rw [lineText_append] at starts
    exact bare.head starts
  unfold expression?
  split
  · exact absurd (head ‹_›) (by decide)
  · exact absurd (head ‹_›) (by decide)
  · exact absurd (head ‹_›) (by decide)
  · exact absurd (head ‹_›) (by decide)
  · rw [pair]
    cases integerItem? n <;> simp [asPair, onLine, ends.lineEnd?]

/-- What stands behind the header of a section. -/
def behindHeader (lines : List (String × Int)) (ending : List Char) : List Char :=
  lines.flatMap (fun line => '\n' :: (Settings.lineText line).toList) ++ ending

/-- A text ends with or without the newline of its last line. -/
def EndsText (ending : List Char) : Prop := ending = [] ∨ ending = ['\n']

theorem behindHeader_endsLine (ending_ok : EndsText ending) (lines : List (String × Int)) :
    EndsLine (behindHeader lines ending) := by
  cases lines with
  | nil =>
    rcases ending_ok with rfl | rfl
    · exact .inl rfl
    · exact .inr ⟨[], rfl⟩
  | cons line lines => exact .inr ⟨_, rfl⟩

theorem expressions?_cons {c : Char} {s : List Char} (visible : isBlank c = false)
    (shorter : ∀ found after, expression? (c :: s) = some (found, after) →
      after.length < (c :: s).length) :
    expressions? (c :: s) = (expression? (c :: s)).bind fun (found, after) =>
      (expressions? after).map (found.toList ++ ·) := by
  rw [expressions?, skipBlank_of_not_blank visible]
  cases read : expression? (c :: s) with
  | none => simp [read]
  | some read_first =>
    obtain ⟨found, after⟩ := read_first
    simp only [read, if_pos (shorter found after read)]
    rfl

theorem expressions?_behindHeader (ending_ok : EndsText ending)
    (bare : ∀ line ∈ lines, IsBareKey line.1) :
    expressions? (behindHeader lines ending).tail =
      (readValues? integerItem? lines).map (List.map asPair) := by
  induction lines with
  | nil =>
    rcases ending_ok with rfl | rfl <;> simp [behindHeader, expressions?, skipBlank, readValues?]
  | cons line lines ih =>
    obtain ⟨first, others⟩ := List.forall_mem_cons.mp bare
    have read_first := expression?_lineText first line.2 (behindHeader_endsLine ending_ok lines)
    obtain ⟨c, s, text, c_bare⟩ := lineText_starts first line.2 (behindHeader lines ending)
    -- a line starts with a character of its key, so it is neither a header nor a comment
    have whole : (behindHeader (line :: lines) ending).tail = c :: s := by
      rw [← text]
      simp [behindHeader]
    have shorter : (behindHeader lines ending).tail.length < (c :: s).length := by
      rw [← text, lineText_append]
      simp
      omega
    rw [text] at read_first
    rw [whole, expressions?_cons (not_blank_of_bare c_bare), read_first]
    · rw [readValues?_cons]
      cases integerItem? line.2 with
      | none => rfl
      | some value => simp [ih others, Function.comp_def]
    · intro found after read
      rw [read_first, Option.map_eq_some_iff] at read
      obtain ⟨value, -, same⟩ := read
      obtain ⟨-, rfl⟩ := Prod.mk.inj same
      exact shorter

theorem header?_bare (bare : IsBareKey key) (rest : List Char) :
    header? (key.toList ++ ']' :: rest) = some (.header [key], rest) := by
  have read_key : key? (key.toList ++ ']' :: rest) = some ([key], ']' :: rest) :=
    key?_bare bare rfl (skipBlank_of_not_blank rfl rest) (by decide)
  unfold header?
  split
  · exact absurd (bare.head ‹_›) (by decide)
  · rw [read_key]
    rfl

theorem expression?_header (bare : IsBareKey key) (ends : EndsLine rest) :
    expression? ('[' :: (key.toList ++ ']' :: rest)) =
      some (some (.header [key]), rest.tail) := by
  change (onLine (header? (key.toList ++ ']' :: rest))).map _ = _
  rw [header?_bare bare, onLine, Option.bind_some]
  dsimp only
  rw [ends.lineEnd?]
  rfl

theorem toList_intercalate_lines (header : String) (lines : List (String × Int)) :
    ("\n".intercalate (header :: lines.map Settings.lineText)).toList =
      header.toList ++ lines.flatMap fun line => '\n' :: (Settings.lineText line).toList := by
  induction lines generalizing header with
  | nil => simp
  | cons line lines ih =>
    have others := ih (Settings.lineText line)
    rw [String.toList_intercalate, List.map_cons] at others ⊢
    rw [List.map_cons, List.map_cons, List.intercalate_cons_cons, others]
    simp

/-- The text of a section, from the name in its header on. -/
theorem toList_sectionText (lines : List (String × Int)) (ending : String) :
    (Settings.sectionText lines ++ ending).toList =
      '[' :: ("maintenance".toList ++ ']' :: behindHeader lines ending.toList) := by
  rw [Settings.sectionText, String.toList_append, toList_intercalate_lines, List.append_assoc]
  rfl

theorem expressions?_sectionText {ending : String} (ending_ok : EndsText ending.toList)
    (bare : ∀ line ∈ lines, IsBareKey line.1) :
    expressions? (Settings.sectionText lines ++ ending).toList =
      (readValues? integerItem? lines).map fun entries =>
        .header ["maintenance"] :: entries.map asPair := by
  have ends := behindHeader_endsLine ending_ok lines
  have named : IsBareKey "maintenance" := by decide
  have read_header := expression?_header named ends
  rw [toList_sectionText, expressions?_cons rfl, read_header]
  · rw [Option.bind_some]
    dsimp only
    rw [expressions?_behindHeader ending_ok bare, Option.map_map]
    rfl
  · intro found after read
    rw [read_header, Option.some.injEq, Prod.mk.injEq] at read
    rw [← read.2]
    simp only [List.length_cons, List.length_append, List.length_tail]
    omega

/-- The document with one section that is still open. -/
def openSection (name : String) (entries : Entries) : Draft :=
  ⟨[name], [(name, .table .header entries)]⟩

theorem add_asPair {name : String} {entries : Entries} {entry : String × Item}
    (fresh : entry.1 ∉ entries.map Prod.fst) :
    (openSection name entries).add (asPair entry) =
      some (openSection name (entries ++ [entry])) := by
  have unset := lookup_eq_none_iff_not_mem.mpr fresh
  simp [Draft.add, asPair, openSection, Item.changeAt, Item.admits, Item.addAt, Item.addValue,
    unset, Entries.put]

theorem foldlM_asPair {name : String} {entries more : Entries}
    (distinct : ((entries ++ more).map Prod.fst).Nodup) :
    (more.map asPair).foldlM Draft.add (openSection name entries) =
      some (openSection name (entries ++ more)) := by
  -- each pair goes behind the entries so far, so these are general in the induction
  induction more generalizing entries with
  | nil => simp
  | cons entry more ih =>
    have fresh : entry.1 ∉ entries.map Prod.fst := by
      rw [List.map_append, List.map_cons, List.nodup_middle, List.nodup_cons] at distinct
      exact fun among => distinct.1 (List.mem_append_left _ among)
    have further : ((entries ++ [entry] ++ more).map Prod.fst).Nodup := by simpa using distinct
    rw [List.map_cons, List.foldlM_cons, add_asPair fresh]
    simpa using ih further

/-- Lines with distinct bare keys make up one table, if all of their integers are words. -/
theorem read?_sectionText {ending : String} (ending_ok : EndsText ending.toList)
    (bare : ∀ line ∈ lines, IsBareKey line.1) (distinct : (lines.map Prod.fst).Nodup) :
    read? (Settings.sectionText lines ++ ending) =
      (readValues? integerItem? lines).map fun entries =>
        .table .header [("maintenance", .table .header entries)] := by
  have listed := expressions?_sectionText ending_ok bare
  rw [toList_sectionText] at listed
  unfold read?
  rw [toList_sectionText]
  change ((expressions? ('[' :: _)).bind _).map _ = _
  rw [listed]
  cases all : readValues? integerItem? lines with
  | none => rfl
  | some entries =>
    have entries_distinct : (([] ++ entries).map Prod.fst).Nodup := by
      rwa [List.nil_append, names_of_readValues? all]
    have opened : Draft.add {} (.header ["maintenance"]) = some (openSection "maintenance" []) :=
      rfl
    rw [Option.map_some, Option.bind_some, List.foldlM_cons, opened]
    change ((entries.map asPair).foldlM Draft.add _).map _ = _
    rw [foldlM_asPair entries_distinct]
    rfl

end TabletUpkeep.Toml
