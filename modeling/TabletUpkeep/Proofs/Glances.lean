import Mathlib.Data.List.Infix
import Mathlib.Logic.Function.Basic
import TabletUpkeep.Loop.Observation

/-! What a snapshot of a running loop is made of. However the accesses come to be ordered, each
field is what the first so many writes of the loop make it, and a field read later has seen no
fewer of them. -/
namespace TabletUpkeep

open LoopTally (Write Field snapshotOrder)

/-- A tally made up field by field, each read after the writes given for it. -/
def LoopTally.pieced (start : LoopTally) (seen : Field → List Write) (fields : List Field) :
    LoopTally :=
  fields.foldl (fun s field => (start.applyAll (seen field)).readField s field) start

theorem LoopTally.pieced_snoc (start : LoopTally) (seen : Field → List Write)
    (fields : List Field) (field : Field) :
    start.pieced seen (fields ++ [field]) =
      (start.applyAll (seen field)).readField (start.pieced seen fields) field := by
  simp [pieced]

theorem LoopTally.pieced_congr (start : LoopTally) {seen seen' : Field → List Write}
    {fields : List Field} (same : ∀ field ∈ fields, seen field = seen' field) :
    start.pieced seen fields = start.pieced seen' fields := by
  refine List.foldl_ext _ _ _ fun s field member => ?_
  rw [same field member]

/-- The fields of a snapshot under way have been read in order, after ever more of the writes. -/
structure Glance.Follows (start : LoopTally) (written : List Write) (g : Glance)
    (fields : List Field) (seen : Field → List Write) : Prop where
  order : fields ++ g.unread = snapshotOrder
  pieces : g.seen = start.pieced seen fields
  growing : fields.Pairwise fun earlier later => seen earlier <+: seen later
  past : ∀ field ∈ fields, seen field <+: written

section

variable {start : LoopTally} {written : List Write} {g : Glance} {fields : List Field}
variable {seen : Field → List Write}

theorem Glance.Follows.wrote (follows : g.Follows start written fields seen) (w : Write) :
    g.Follows start (written ++ [w]) fields seen :=
  { follows with past := fun field member =>
      (follows.past field member).trans (List.prefix_append written [w]) }

/-- No field is read twice. -/
theorem Glance.Follows.unseen (follows : g.Follows start written fields seen) {field : Field}
    {unread : List Field} (rest : g.unread = field :: unread) : field ∉ fields := by
  have distinct : (fields ++ field :: unread).Nodup := by
    rw [← rest, follows.order]
    decide
  intro member
  exact (List.nodup_append.mp distinct).2.2 field member field List.mem_cons_self rfl

/-- The next field is read after all that has been written by then. -/
theorem Glance.Follows.read_next (follows : g.Follows start written fields seen) {field : Field}
    {unread : List Field} (rest : g.unread = field :: unread) {seen' : Field → List Write}
    (now : seen' field = written) (same : ∀ earlier ∈ fields, seen' earlier = seen earlier) :
    (g.read (start.applyAll written)).Follows start written (fields ++ [field]) seen' := by
  have next : g.read (start.applyAll written) =
      ⟨(start.applyAll written).readField g.seen field, unread⟩ := by rw [Glance.read, rest]
  refine ⟨?_, ?_, ?_, ?_⟩
  · rw [next, List.append_assoc, ← follows.order, rest]
    rfl
  · rw [next, LoopTally.pieced_snoc, now, LoopTally.pieced_congr start same, ← follows.pieces]
  · refine List.pairwise_append.mpr ⟨?_, List.pairwise_singleton _ _, ?_⟩
    · refine follows.growing.imp_of_mem fun {x y} first later before => ?_
      rw [same x first, same y later]
      exact before
    · intro earlier member last only
      rw [List.mem_singleton.mp only, now, same earlier member]
      exact follows.past earlier member
  · intro earlier member
    rcases List.mem_append.mp member with old | last
    · rw [same earlier old]
      exact follows.past earlier old
    · rw [List.mem_singleton.mp last, now]

theorem Glance.Follows.read (follows : g.Follows start written fields seen) :
    ∃ fields seen, (g.read (start.applyAll written)).Follows start written fields seen := by
  cases rest : g.unread with
  | nil =>
    have still : g.read (start.applyAll written) = g := by rw [Glance.read, rest]
    rw [still]
    exact ⟨fields, seen, follows⟩
  | cons field unread =>
    refine ⟨_, _, follows.read_next rest (Function.update_self field written seen) ?_⟩
    exact fun earlier member =>
      Function.update_of_ne (ne_of_mem_of_not_mem member (follows.unseen rest)) _ _

end

namespace SharedTally

/-- The writes made so far and those to come are the writes of the loop, and every snapshot
follows the former. -/
structure Follows (start : LoopTally) (all written : List Write) (s : SharedTally) : Prop where
  writes : written ++ s.unwritten = all
  live : s.live = start.applyAll written
  glances : ∀ g ∈ s.glances, ∃ fields seen, g.Follows start written fields seen

theorem follows_act {start : LoopTally} {all written : List Write} {s : SharedTally}
    (follows : s.Follows start all written) (a : Access) :
    ∃ written, (s.act a).Follows start all written := by
  obtain ⟨writes, live, glances⟩ := follows
  cases a with
  | write =>
    cases rest : s.unwritten with
    | nil =>
      have still : s.act .write = s := by rw [act, rest]
      rw [still]
      exact ⟨written, writes, live, glances⟩
    | cons w unwritten =>
      have next : s.act .write = { s with live := s.live.apply w, unwritten } := by
        rw [act, rest]
      rw [next]
      refine ⟨written ++ [w], ?_, ?_, fun g member => ?_⟩
      · rw [List.append_assoc, ← writes, rest]
        rfl
      · rw [LoopTally.applyAll_append, ← live]
        rfl
      · obtain ⟨fields, seen, followed⟩ := glances g member
        exact ⟨fields, seen, followed.wrote w⟩
  | read i =>
    refine ⟨written, writes, live, fun g member => ?_⟩
    obtain ⟨j, found⟩ := List.mem_iff_getElem?.mp member
    have found : (s.glances.modify i (·.read s.live))[j]? = some g := found
    rw [List.getElem?_modify] at found
    obtain ⟨old, at_j, equal⟩ := Option.map_eq_some_iff.mp found
    obtain ⟨fields, seen, followed⟩ := glances old (List.mem_of_getElem? at_j)
    split at equal
    · rw [← equal, live]
      exact followed.read
    · rw [← equal]
      exact ⟨fields, seen, followed⟩

theorem follows_run {start : LoopTally} {all written : List Write} {s : SharedTally}
    (follows : s.Follows start all written) (accesses : List Access) :
    ∃ written, (s.run accesses).Follows start all written := by
  induction accesses generalizing s written with
  | nil => exact ⟨written, follows⟩
  | cons a rest ih =>
    obtain ⟨written, next⟩ := follows_act follows a
    exact ih next

end SharedTally

theorem UpkeepLoop.follows_shared {σ : Type} (l : UpkeepLoop σ) (glances : Nat) :
    (l.shared glances).Follows l.unused (l.trace.flatMap Label.writes) [] := by
  refine ⟨rfl, rfl, fun g member => ?_⟩
  rw [List.eq_of_mem_replicate member]
  exact ⟨[], fun _ => [], rfl, rfl, .nil, by simp⟩

/-- A complete snapshot saw each field after a first part of the loop's writes, and a longer part
the later it read it. -/
theorem UpkeepLoop.glance_pieces {σ : Type} {l : UpkeepLoop σ} {glances : Nat}
    {accesses : List SharedTally.Access} {g : Glance}
    (taken : g ∈ ((l.shared glances).run accesses).glances) (complete : g.unread = []) :
    ∃ seen : Field → List Write, g.seen = l.unused.pieced seen snapshotOrder ∧
      snapshotOrder.Pairwise (fun earlier later => seen earlier <+: seen later) ∧
      ∀ field, seen field <+: l.trace.flatMap Label.writes := by
  obtain ⟨written, follows⟩ := SharedTally.follows_run (l.follows_shared glances) accesses
  obtain ⟨fields, seen, order, pieces, growing, past⟩ := follows.glances g taken
  rw [complete, List.append_nil] at order
  subst order
  have inside : written <+: l.trace.flatMap Label.writes := ⟨_, follows.writes⟩
  refine ⟨seen, pieces, growing, fun field => (past field ?_).trans inside⟩
  cases field <;> decide

end TabletUpkeep
