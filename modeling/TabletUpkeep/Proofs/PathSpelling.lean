import Mathlib.Data.List.Basic
import Mathlib.Logic.Relation
import Mathlib.Tactic.SplitIfs
import TabletUpkeep.Disk.Path

/-! Spellings of a path. A path has its components from the stretches between its slashes and from
the way it begins; a slash too many, a slash at the end and a dot between slashes change neither.
Of the letters only the slash and the dot are looked at, so a letter may as well be a byte. -/
namespace TabletUpkeep.Path

/-- The components that do not depend on the way a path begins. -/
def inside (text : List Char) : List Component := (stretches text).filterMap inner?

/-- The component that a path has for the way it begins, if it has one. -/
def lead (text : List Char) : List Component :=
  if text.head? = some '/' then [.root]
  else if (stretches text).head? = some ['.'] then [.current]
  else []

theorem head?_ne_some {α : Type} {xs : List α} {a : α} (never : ∀ rest, xs ≠ a :: rest) :
    xs.head? ≠ some a := by
  intro first
  obtain ⟨rest, split⟩ := List.head?_eq_some_iff.mp first
  exact never rest split

theorem components_eq (path : String) :
    components path = lead path.toList ++ inside path.toList := by
  unfold components
  dsimp only
  split
  next rooted => simp [lead, rooted, inside]
  next dotted unrooted => simp [lead, head?_ne_some unrooted, dotted, inside]
  next unrooted undotted =>
    simp [lead, head?_ne_some unrooted, head?_ne_some undotted, inside]

theorem stretches_cons {c : Char} (inner : c ≠ '/') (text : List Char) :
    stretches (c :: text) =
      (c :: (stretches text).headD []) :: (stretches text).tail := by
  rw [stretches]
  · cases stretches text <;> rfl
  · intro slash
    exact inner slash

theorem stretches_ne_nil (text : List Char) : stretches text ≠ [] := by
  cases text with
  | nil => simp [stretches]
  | cons c text =>
    by_cases slash : c = '/'
    · subst slash
      simp [stretches]
    · simp [stretches_cons slash]

theorem stretches_append_slash (before after : List Char) :
    stretches (before ++ '/' :: after) = stretches before ++ stretches after := by
  induction before with
  | nil => rfl
  | cons c before ih =>
    by_cases slash : c = '/'
    · subst slash
      simp only [List.cons_append, stretches, ih]
    · obtain ⟨first, others, split⟩ := List.exists_cons_of_ne_nil (stretches_ne_nil before)
      rw [List.cons_append, stretches_cons slash, stretches_cons slash, ih, split]
      rfl

theorem inside_append_slash (before after : List Char) :
    inside (before ++ '/' :: after) = inside before ++ inside after := by
  rw [inside, stretches_append_slash, List.filterMap_append]
  rfl

theorem lead_append_slash (before after : List Char) :
    lead (before ++ '/' :: after) = if before = [] then [.root] else lead before := by
  by_cases empty : before = []
  · subst empty
    rfl
  · have first : (before ++ '/' :: after).head? = before.head? :=
      List.head?_append_of_ne_nil before empty
    have stretch : (stretches (before ++ '/' :: after)).head? = (stretches before).head? := by
      rw [stretches_append_slash, List.head?_append_of_ne_nil _ (stretches_ne_nil before)]
    rw [if_neg empty, lead, lead, first, stretch]

/-- One step to a shorter spelling. -/
inductive Shortens : List Char → List Char → Prop
  | slash (before after : List Char) :
      Shortens (before ++ '/' :: '/' :: after) (before ++ '/' :: after)
  | dot (before after : List Char) :
      Shortens (before ++ '/' :: '.' :: '/' :: after) (before ++ '/' :: after)
  | lastDot (before : List Char) : Shortens (before ++ ['/', '.']) (before ++ ['/'])
  | lastSlash (before : List Char) : before ≠ [] → Shortens (before ++ ['/']) before

/-- Spellings with a common one that such steps lead to, or that differ by more such detours. -/
def Respelt (path other : String) : Prop := Relation.EqvGen Shortens path.toList other.toList

theorem Shortens.components_eq {long short : List Char} (shortens : Shortens long short) :
    lead long ++ inside long = lead short ++ inside short := by
  have empty : inside [] = [] := rfl
  cases shortens with
  | slash before after =>
    have doubled : inside ('/' :: after) = inside after := inside_append_slash [] after
    rw [lead_append_slash, lead_append_slash, inside_append_slash, inside_append_slash, doubled]
  | dot before after =>
    have dotted : inside ('.' :: '/' :: after) = inside after := inside_append_slash ['.'] after
    rw [lead_append_slash, lead_append_slash, inside_append_slash, inside_append_slash, dotted]
  | lastDot before =>
    rw [lead_append_slash, lead_append_slash, inside_append_slash, inside_append_slash]
    rfl
  | lastSlash _ some =>
    rw [lead_append_slash, if_neg some, inside_append_slash, empty, List.append_nil]

theorem Respelt.components_eq {path other : String} (respelt : Respelt path other) :
    components path = components other := by
  have same (text another : List Char) (related : Relation.EqvGen Shortens text another) :
      lead text ++ inside text = lead another ++ inside another := by
    induction related with
    | rel long short shortens => exact shortens.components_eq
    | refl text => rfl
    | symm _ _ _ ih => exact ih.symm
    | trans _ _ _ _ _ first second => exact first.trans second
  rw [Path.components_eq, Path.components_eq]
  exact same _ _ respelt

theorem startsWith_iff (path start : String) :
    startsWith path start = true ↔ components start <+: components path :=
  List.isPrefixOf_iff_prefix

theorem inner?_eq (text : List Char) :
    inner? text =
      if text = [] ∨ text = ['.'] then none
      else if text = ['.', '.'] then some .parent
      else some (.name text) := by
  unfold inner?
  split <;> simp_all

theorem exists_inner? {text : List Char} (some : text ≠ []) (undotted : text ≠ ['.']) :
    ∃ component, inner? text = .some component := by
  rw [inner?_eq, if_neg (not_or.mpr ⟨some, undotted⟩)]
  split <;> exact ⟨_, rfl⟩

theorem inner?_inj {text other : List Char} (found : inner? text ≠ none)
    (same : inner? other = inner? text) : other = text := by
  rw [inner?_eq] at found
  rw [inner?_eq text, inner?_eq other] at same
  split_ifs at same found <;> simp_all

theorem inner?_ne_current (text : List Char) : inner? text ≠ some .current := by
  rw [inner?_eq]
  split
  · simp
  · split <;> simp

/-- The first stretch takes in all letters before the first slash. -/
theorem stretches_append {name : List Char} (slashless : '/' ∉ name) (rest : List Char) :
    stretches (name ++ rest) =
      (name ++ (stretches rest).headD []) :: (stretches rest).tail := by
  induction name with
  | nil =>
    obtain ⟨first, others, split⟩ := List.exists_cons_of_ne_nil (stretches_ne_nil rest)
    rw [List.nil_append, split]
    rfl
  | cons c name ih =>
    rw [List.mem_cons, not_or] at slashless
    rw [List.cons_append, stretches_cons (Ne.symm slashless.1), ih slashless.2]
    rfl

theorem stretches_of_slashless {name : List Char} (slashless : '/' ∉ name) :
    stretches name = [name] := by
  have whole := stretches_append slashless []
  rwa [List.append_nil, stretches, List.headD_cons, List.append_nil] at whole

/-- A name that goes on with another letter is part of a longer first stretch. -/
theorem exists_longer_stretch {name : List Char} {c : Char} (slashless : '/' ∉ name)
    (some : name ≠ []) (inner : c ≠ '/') (rest : List Char) :
    ∃ first others, stretches (name ++ c :: rest) = first :: others ∧
      first ≠ name ∧ first ≠ [] ∧ first ≠ ['.'] := by
  rw [stretches_append slashless, stretches_cons inner]
  refine ⟨_, _, rfl, by simp, by simp, ?_⟩
  intro single
  have long := congrArg List.length single
  have short := List.length_pos_iff.mpr some
  simp at long
  omega

theorem inside_of_stretches {text first : List Char} {others : List (List Char)}
    {component : Component} (split : stretches text = first :: others)
    (stands : inner? first = some component) :
    inside text = component :: others.filterMap inner? := by
  rw [inside, split, List.filterMap_cons_some stands]

/-- A name stands for one component, and a longer name at its place for another one. -/
theorem inside_longer {name : List Char} {c : Char} (slashless : '/' ∉ name) (some : name ≠ [])
    (undotted : name ≠ ['.']) (inner : c ≠ '/') (rest : List Char) :
    ∃ short long others, short ≠ long ∧ inside name = [short] ∧
      inside (name ++ c :: rest) = long :: others := by
  obtain ⟨first, others, split, other, nonempty, dotless⟩ :=
    exists_longer_stretch slashless some inner rest
  obtain ⟨short, here⟩ := exists_inner? some undotted
  obtain ⟨long, there⟩ := exists_inner? nonempty dotless
  refine ⟨short, long, _, ?_, inside_of_stretches (stretches_of_slashless slashless) here,
    inside_of_stretches split there⟩
  rintro rfl
  have stands : inner? name ≠ none := by
    rw [here]
    exact Option.some_ne_none _
  exact other (inner?_inj stands (there.trans here.symm))

theorem slashless_or_exists_last (text : List Char) :
    '/' ∉ text ∨ ∃ before name, text = before ++ '/' :: name ∧ '/' ∉ name := by
  induction text with
  | nil => exact .inl List.not_mem_nil
  | cons c text ih =>
    rcases ih with slashless | ⟨before, name, rfl, slashless⟩
    · by_cases slash : c = '/'
      · exact .inr ⟨[], text, by rw [slash]; rfl, slashless⟩
      · exact .inl (by simp [Ne.symm slash, slashless])
    · exact .inr ⟨c :: before, name, rfl, slashless⟩

theorem lead_eq_nil {text first : List Char} {others : List (List Char)}
    (unrooted : text.head? ≠ some '/') (split : stretches text = first :: others)
    (undotted : first ≠ ['.']) : lead text = [] := by
  rw [lead, if_neg unrooted, split, List.head?_cons, if_neg]
  intro dotted
  exact undotted (Option.some.inj dotted)

theorem head?_of_slashless {name : List Char} (slashless : '/' ∉ name) : name.head? ≠ some '/' :=
  head?_ne_some fun _ split => slashless (split ▸ List.mem_cons_self)

/-- A path that goes on in the middle of a name is not beneath what has that name. -/
theorem not_startsWith_sibling {path start : String} {c : Char} {rest : List Char}
    (longer : path.toList = start.toList ++ c :: rest) (inner : c ≠ '/')
    (some : start.toList ≠ []) (closed : ¬ ['/'] <:+ start.toList)
    (undotted : ¬ ['/', '.'] <:+ start.toList) : startsWith path start = false := by
  rw [← Bool.not_eq_true, startsWith_iff, components_eq, components_eq, longer]
  intro starts
  rcases slashless_or_exists_last start.toList with slashless | ⟨before, name, split, slashless⟩
  · have rootless : start.toList.head? ≠ .some '/' := head?_of_slashless slashless
    obtain ⟨first, others, split, -, nonempty, dotless⟩ :=
      exists_longer_stretch slashless some inner rest
    have leadless : lead (start.toList ++ c :: rest) = [] := by
      refine lead_eq_nil ?_ split dotless
      rwa [List.head?_append_of_ne_nil _ some]
    rw [leadless, List.nil_append] at starts
    by_cases dotted : start.toList = ['.']
    · -- the dot stands for itself here, and is not a component of the longer path
      obtain ⟨long, there⟩ := exists_inner? nonempty dotless
      have current : lead ['.'] ++ inside ['.'] = [.current] := rfl
      rw [inside_of_stretches split there, dotted, current] at starts
      rw [← (List.cons_prefix_cons.mp starts).1] at there
      exact inner?_ne_current first there
    · obtain ⟨short, long, others, different, here, there⟩ :=
        inside_longer slashless some dotted inner rest
      rw [lead_eq_nil rootless (stretches_of_slashless slashless) dotted, here, there] at starts
      exact different (List.cons_prefix_cons.mp starts).1
  · rw [split] at closed undotted starts
    have named : name ≠ [] := by
      rintro rfl
      exact closed (List.suffix_append before _)
    have other : name ≠ ['.'] := by
      rintro rfl
      exact undotted (List.suffix_append before _)
    obtain ⟨short, long, others, different, here, there⟩ :=
      inside_longer slashless named other inner rest
    rw [List.append_assoc, List.cons_append, lead_append_slash, lead_append_slash,
      inside_append_slash, inside_append_slash, here, there, List.prefix_append_right_inj,
      List.prefix_append_right_inj] at starts
    exact different (List.cons_prefix_cons.mp starts).1

end TabletUpkeep.Path
