import TabletUpkeep.Word

/-! Counters collected while scanning storage. Merging adds counter by counter in the order of
declaration; the first sum that does not fit ends the merge and leaves the counters before it
added and the others as they were. -/
namespace TabletUpkeep

structure ReadCounters where
  ioNanos : Int64 := 0
  compressedBytesRead : Int64 := 0
  decompressNanos : Int64 := 0
  uncompressedBytesRead : Int64 := 0
  bytesRead : Int64 := 0
  blockLoadNanos : Int64 := 0
  blocksLoaded : Int64 := 0
  blockFetchNanos : Int64 := 0
  rawRowsRead : Int64 := 0
  rowsVectorFiltered : Int64 := 0
  vectorFilterNanos : Int64 := 0
  rowsStatsFiltered : Int64 := 0
  rowsDeleteFiltered : Int64 := 0
  indexLoadNanos : Int64 := 0
  deriving DecidableEq, Repr

namespace ReadCounters

/-- One counter: how it is read, and how it is replaced. -/
structure Counter where
  key : String
  get : ReadCounters → Int64
  set : Int64 → ReadCounters → ReadCounters

/-- Setting one of two counters leaves the other as it is. -/
def Counter.Apart (c d : Counter) : Prop :=
  ∀ value s, c.get (d.set value s) = c.get s ∧ d.get (c.set value s) = d.get s

/-- The counters in the order of declaration, each under its name in records. -/
def counters : List Counter :=
  [⟨"io_ns", (·.ioNanos), fun v s => { s with ioNanos := v }⟩,
   ⟨"compressed_bytes_read", (·.compressedBytesRead),
     fun v s => { s with compressedBytesRead := v }⟩,
   ⟨"decompress_ns", (·.decompressNanos), fun v s => { s with decompressNanos := v }⟩,
   ⟨"uncompressed_bytes_read", (·.uncompressedBytesRead),
     fun v s => { s with uncompressedBytesRead := v }⟩,
   ⟨"bytes_read", (·.bytesRead), fun v s => { s with bytesRead := v }⟩,
   ⟨"block_load_ns", (·.blockLoadNanos), fun v s => { s with blockLoadNanos := v }⟩,
   ⟨"blocks_load", (·.blocksLoaded), fun v s => { s with blocksLoaded := v }⟩,
   ⟨"block_fetch_ns", (·.blockFetchNanos), fun v s => { s with blockFetchNanos := v }⟩,
   ⟨"raw_rows_read", (·.rawRowsRead), fun v s => { s with rawRowsRead := v }⟩,
   ⟨"rows_vec_cond_filtered", (·.rowsVectorFiltered),
     fun v s => { s with rowsVectorFiltered := v }⟩,
   ⟨"vec_cond_ns", (·.vectorFilterNanos), fun v s => { s with vectorFilterNanos := v }⟩,
   ⟨"rows_stats_filtered", (·.rowsStatsFiltered), fun v s => { s with rowsStatsFiltered := v }⟩,
   ⟨"rows_del_filtered", (·.rowsDeleteFiltered), fun v s => { s with rowsDeleteFiltered := v }⟩,
   ⟨"index_load_ns", (·.indexLoadNanos), fun v s => { s with indexLoadNanos := v }⟩]

theorem get_set : ∀ c ∈ counters, ∀ value s, c.get (c.set value s) = value := by
  simp [counters]

theorem counters_apart : counters.Pairwise Counter.Apart := by
  simp [counters, Counter.Apart]

theorem eq_of_counters {s t : ReadCounters} (same : ∀ c ∈ counters, c.get s = c.get t) :
    s = t := by
  cases s
  cases t
  simpa [counters] using same

def values (s : ReadCounters) : List Int64 := counters.map (·.get s)

/-- Adds the listed counters of `other` in turn. The flag tells whether every sum fitted. -/
def addCounters (other : ReadCounters) :
    List Counter → ReadCounters → ReadCounters × Bool
  | [], total => (total, true)
  | c :: rest, total =>
    match Word.add? (c.get total) (c.get other) with
    | some sum => addCounters other rest (c.set sum total)
    | none => (total, false)

def merge (total other : ReadCounters) : ReadCounters × Bool :=
  addCounters other counters total

/-- The total after each of a list of merges, with its flag. -/
def mergeAll (total : ReadCounters) : List ReadCounters → List (ReadCounters × Bool)
  | [] => []
  | s :: rest => merge total s :: (merge total s).1.mergeAll rest

end ReadCounters

end TabletUpkeep
