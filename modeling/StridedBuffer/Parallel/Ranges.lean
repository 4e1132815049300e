/-! # Splitting work into ranges

`n` items are cut into consecutive half-open ranges, one per worker task. The split is a
single range when splitting is off, when there are fewer than two workers, or when
there are fewer items than the least chunk; otherwise every range but the last holds
`max (⌈n / workers⌉) minChunk 1` items.

Counts, chunk sizes and range ends are signed machine words, and every sum wraps as the
words do: the chunk is computed from `n + workers - 1`, and the loop steps its low end by
the chunk until it reaches `n`. A loop over one word that has not stopped after `2^64`
rounds has met a low end twice and never stops; the split then has no result.
-/

namespace StridedBuffer.Parallel

/-- How work is split. -/
structure Config where
  enabled : Bool
  workers : Int64
  minChunk : Int64

/-- The rounds after which a loop stepping one word has repeated itself. -/
def wordRounds : Nat := Nat.pow 2 64

/-- The ranges handed out from low end `lo` on: `[lo, min (lo + chunk) n)` while `lo < n`,
then the next from `lo + chunk`; `none` when the loop has not stopped within `fuel`
rounds. -/
def chunks (n chunk : Int64) : Nat → Int64 → Option (List (Int64 × Int64))
  | 0, _ => none
  | fuel + 1, lo =>
      if lo < n then (chunks n chunk fuel (lo + chunk)).map ((lo, min (lo + chunk) n) :: ·)
      else some []

/-- The defaults on a machine with `cpus` processors: split when there are several, over
all of them, in chunks of at least `16 * 1024` items. -/
def defaultConfig (cpus : Int64) : Config := ⟨decide (1 < cpus), cpus, 16 * 1024⟩

/-- The chunk of a split over several workers. -/
def chunkSize (cfg : Config) (n : Int64) : Int64 :=
  max (max ((n + cfg.workers - 1) / cfg.workers) cfg.minChunk) 1

/-- Whether `n` items are handed to one task whole. -/
def sequential (cfg : Config) (n : Int64) : Bool :=
  !cfg.enabled || cfg.workers < 2 || n < cfg.minChunk

/-- The ranges `n` items are split into, or `none` when the split never finishes. -/
def ranges (cfg : Config) (n : Int64) : Option (List (Int64 × Int64)) :=
  if n ≤ 0 then some []
  else if sequential cfg n then some [(0, n)]
  else chunks n (chunkSize cfg n) wordRounds 0

/-- The items of a range, from its low end up to before its high end. -/
def span (lo hi : Int64) : List Int64 :=
  (List.range (hi.toInt - lo.toInt).toNat).map fun k => lo + Int64.ofNat k

/-- The items the per-item loop visits, range by range. -/
def items (cfg : Config) (n : Int64) : Option (List Int64) :=
  (ranges cfg n).map fun rs => rs.flatMap fun r => span r.1 r.2

/-- The number of per-item calls the ranges make. -/
def itemCalls (rs : List (Int64 × Int64)) : Int :=
  rs.foldl (fun acc r => acc + (r.2.toInt - r.1.toInt).toNat) 0

end StridedBuffer.Parallel
