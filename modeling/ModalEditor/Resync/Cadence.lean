namespace ModalEditor

/-!
# The cadence of typing

Rolling statistics keep the most recent lengths of time and their sum.  The
cadence of typing keeps the times between keys in them.  Instants may go
backwards; the time between two such keys counts as zero.
-/

/-- The most recent samples, the latest first, and their sum. -/
structure RollingStats where
  samples : List Nat
  sum : Nat
  deriving DecidableEq, Repr, Inhabited

namespace RollingStats

/-- How many samples are kept. -/
def maxSamples : Nat := 120

/-- No samples. -/
def empty : RollingStats := ⟨[], 0⟩

/-- Drops the oldest sample if there is no room for another one. -/
def makeRoom (stats : RollingStats) : RollingStats :=
  if stats.samples.length ≥ maxSamples then
    ⟨stats.samples.dropLast, stats.sum - stats.samples.getLast?.getD 0⟩
  else stats

/-- Adds a sample. -/
def record (stats : RollingStats) (sample : Nat) : RollingStats :=
  let stats := stats.makeRoom
  ⟨sample :: stats.samples, stats.sum + sample⟩

/-- Forgets all samples. -/
def clear (_ : RollingStats) : RollingStats := empty

/-- Number of samples. -/
def count (stats : RollingStats) : Nat := stats.samples.length

/-- The average, rounded down, zero when there are no samples. -/
def average (stats : RollingStats) : Nat := stats.sum / stats.samples.length

/-- The latest sample. -/
def last (stats : RollingStats) : Option Nat := stats.samples.head?

end RollingStats

/-- The times between keys. -/
structure Cadence where
  intervals : RollingStats
  /-- The instant of the last key. -/
  lastKey : Option Nat
  deriving DecidableEq, Repr, Inhabited

namespace Cadence

/-- Before the first key. -/
def empty : Cadence := ⟨RollingStats.empty, none⟩

/-- Takes note of a key.  The second component is the time since the last
one. -/
def record (cadence : Cadence) (now : Nat) : Cadence × Option Nat :=
  let interval := cadence.lastKey.map fun previous => now - previous
  (⟨interval.elim cadence.intervals cadence.intervals.record, some now⟩, interval)

/-- Forgets all keys. -/
def reset (cadence : Cadence) : Cadence := ⟨cadence.intervals.clear, none⟩

/-- The time between the last two keys. -/
def lastInterval (cadence : Cadence) : Option Nat := cadence.intervals.last

/-- The average time between keys. -/
def averageInterval (cadence : Cadence) : Nat := cadence.intervals.average

end Cadence

end ModalEditor
