import Mathlib.Algebra.Ring.Nat
import Mathlib.Data.List.DropRight
import ModalEditor.Proofs.Checked.Basic
import ModalEditor.Resync.Cadence

namespace ModalEditor

/-!
# Rolling statistics are those of the latest samples

The sum of rolling statistics is never computed anew.  A sample that is recorded is added to it
and one that has no room any more is taken away, for as long as the statistics are in use.  The
sum stays that of the samples that are kept, which are the latest ones since all were cleared.
So taking away the oldest of them never goes below zero, and adding another one stays within
the times that a machine can tell as long as the sums of the samples kept at one time do.

The cadence of typing records the times between one key and the next.  Its statistics are those
of the differences of all instants since it was reset, where going backwards counts as zero.
-/

/-- The values of the last items, up to the last item that has none. -/
def latestValues {α β : Type} (value? : α → Option β) (items : List α) : List β :=
  (items.rtakeWhile fun item => (value? item).isSome).filterMap value?

section

variable {α β : Type} (value? : α → Option β) {item : α} {value : β}

theorem latestValues_concat_some (h : value? item = some value) (items : List α) :
    latestValues value? (items ++ [item]) = latestValues value? items ++ [value] := by
  rw [latestValues, List.rtakeWhile_concat_pos _ _ _ (by simp [h]), List.filterMap_append]
  simp [h, latestValues]

theorem latestValues_concat_none (h : value? item = none) (items : List α) :
    latestValues value? (items ++ [item]) = [] := by
  rw [latestValues, List.rtakeWhile_concat_neg _ _ _ (by simp [h])]
  rfl

/-- Where there are more items than are taken from the end, one more goes before these. -/
theorem exists_rtake_succ_eq_cons {items : List α} {n : Nat} (h : n < items.length) :
    ∃ item, items.rtake (n + 1) = item :: items.rtake n := by
  have hFirst : items.length - (n + 1) < items.length := by omega
  have hNext : items.length - (n + 1) + 1 = items.length - n := by omega
  refine ⟨items[items.length - (n + 1)], ?_⟩
  rw [List.rtake, List.drop_eq_getElem_cons hFirst, List.rtake, hNext]

theorem rtake_of_length_le {items : List α} {n : Nat} (h : items.length ≤ n) :
    items.rtake n = items := by
  rw [List.rtake, Nat.sub_eq_zero_of_le h, List.drop_zero]

end

/-- What is done with rolling statistics. -/
inductive StatsCall where
  | record (sample : Nat)
  | clear
  deriving DecidableEq, Repr

namespace StatsCall

def sample? : StatsCall → Option Nat
  | .record sample => some sample
  | .clear => none

/-- The samples recorded since all were cleared last, in order. -/
def recorded (calls : List StatsCall) : List Nat :=
  latestValues sample? calls

theorem recorded_concat_record (calls : List StatsCall) (sample : Nat) :
    recorded (calls ++ [.record sample]) = recorded calls ++ [sample] :=
  latestValues_concat_some sample? rfl calls

theorem recorded_concat_clear (calls : List StatsCall) : recorded (calls ++ [.clear]) = [] :=
  latestValues_concat_none sample? rfl calls

end StatsCall

namespace RollingStats

variable {stats : RollingStats} {samples : List Nat} {sample : Nat}

def serve (stats : RollingStats) : StatsCall → RollingStats
  | .record sample => stats.record sample
  | .clear => stats.clear

/-- Calls in order, from the start. -/
def run (calls : List StatsCall) : RollingStats :=
  calls.foldl serve empty

theorem run_concat (calls : List StatsCall) (call : StatsCall) :
    run (calls ++ [call]) = (run calls).serve call := by
  rw [run, List.foldl_append]
  rfl

/-- Of samples in order, those that are kept. -/
def window (samples : List Nat) : List Nat :=
  samples.rtake maxSamples

/-- Whether statistics are those of the latest ones of some samples. -/
structure IsOf (stats : RollingStats) (latest : List Nat) : Prop where
  samples : stats.samples.reverse = window latest
  sum : stats.sum = (window latest).sum

theorem isOf_empty : empty.IsOf [] := ⟨rfl, rfl⟩

theorem length_window (samples : List Nat) :
    (window samples).length = min samples.length maxSamples := by
  rw [window, List.rtake, List.length_drop]
  omega

theorem IsOf.samples_eq (h : stats.IsOf samples) : stats.samples = (window samples).reverse := by
  rw [← h.samples, List.reverse_reverse]

theorem IsOf.length_samples (h : stats.IsOf samples) :
    stats.samples.length = min samples.length maxSamples := by
  rw [h.samples_eq, List.length_reverse, length_window]

/-- The oldest sample is part of the sum. -/
theorem IsOf.oldest_le_sum (h : stats.IsOf samples) :
    stats.samples.getLast?.getD 0 ≤ stats.sum := by
  rw [h.samples_eq, List.getLast?_reverse, h.sum]
  cases window samples with
  | nil => exact Nat.zero_le _
  | cons oldest later =>
      rw [List.sum_cons]
      exact Nat.le_add_right _ _

theorem IsOf.isFull_iff (h : stats.IsOf samples) :
    stats.samples.length ≥ maxSamples ↔ maxSamples - 1 < samples.length := by
  have hRoom : 0 < maxSamples := Nat.zero_lt_succ _
  rw [h.length_samples]
  omega

/-- With room for another sample there is one sample less than can be kept. -/
theorem IsOf.makeRoom (h : stats.IsOf samples) :
    stats.makeRoom =
      ⟨(samples.rtake (maxSamples - 1)).reverse, (samples.rtake (maxSamples - 1)).sum⟩ := by
  have hSamples := h.samples_eq
  have hSum := h.sum
  rw [RollingStats.makeRoom]
  by_cases hFull : maxSamples - 1 < samples.length
  · -- The oldest sample goes, and with it what it added to the sum.
    obtain ⟨oldest, hOldest⟩ := exists_rtake_succ_eq_cons hFull
    change window samples = _ at hOldest
    rw [hOldest] at hSamples hSum
    rw [if_pos (h.isFull_iff.mpr hFull), hSamples, hSum, List.reverse_cons,
      List.dropLast_concat, List.getLast?_concat, List.sum_cons, Option.getD_some,
      Nat.add_sub_cancel_left]
  · -- All samples are kept, and there is room for one more.
    have hFew : samples.length ≤ maxSamples - 1 := Nat.le_of_not_lt hFull
    have hWindow : window samples = samples :=
      rtake_of_length_le (Nat.le_trans hFew (Nat.sub_le _ _))
    rw [hWindow] at hSamples hSum
    rw [if_neg (mt h.isFull_iff.mp hFull), rtake_of_length_le hFew, ← hSamples, ← hSum]

theorem IsOf.record (h : stats.IsOf samples) (sample : Nat) :
    (stats.record sample).IsOf (samples ++ [sample]) := by
  have hWindow : window (samples ++ [sample]) = samples.rtake (maxSamples - 1) ++ [sample] :=
    List.rtake_concat_succ samples (maxSamples - 1) sample
  rw [RollingStats.record, h.makeRoom]
  constructor
  · rw [hWindow, List.reverse_cons, List.reverse_reverse]
  · rw [hWindow, List.sum_append, List.sum_singleton]

theorem IsOf.serve {calls : List StatsCall} (h : stats.IsOf (StatsCall.recorded calls))
    (call : StatsCall) :
    (stats.serve call).IsOf (StatsCall.recorded (calls ++ [call])) := by
  cases call with
  | record sample =>
      rw [StatsCall.recorded_concat_record]
      exact h.record sample
  | clear =>
      rw [StatsCall.recorded_concat_clear]
      exact isOf_empty

/-- The induction is on the calls from their end, since a call that clears makes all before it
irrelevant. -/
theorem isOf_run (calls : List StatsCall) : (run calls).IsOf (StatsCall.recorded calls) := by
  induction calls using List.reverseRecOn with
  | nil => exact isOf_empty
  | append_singleton calls call ih =>
      rw [run_concat]
      exact ih.serve call

/-- The latest sample is the last one recorded. -/
theorem IsOf.last_eq (h : stats.IsOf samples) : stats.last = samples.getLast? := by
  rw [last, h.samples_eq, List.head?_reverse, window, List.rtake, List.getLast?_drop]
  cases samples with
  | nil => rfl
  | cons sample samples =>
      rw [if_neg]
      simp only [List.length_cons, maxSamples]
      omega

end RollingStats

/-! ## On a machine -/

namespace Checked

/-- The longest time that a machine tells, in nanoseconds: as many seconds as there are
numbers, less one nanosecond. -/
def maxTime : Nat := wordSize * 1000000000 - 1

def addTime (a b : Nat) : Checked Nat :=
  if a + b ≤ maxTime then .ok (a + b) else .error .overflow

/-- Drops the oldest sample if there is no room for another one.  It has to be a part of the
sum. -/
def makeRoom (stats : RollingStats) : Checked RollingStats :=
  if stats.samples.length ≥ RollingStats.maxSamples then do
    let sum ← sub stats.sum (stats.samples.getLast?.getD 0)
    pure ⟨stats.samples.dropLast, sum⟩
  else pure stats

def recordSample (stats : RollingStats) (sample : Nat) : Checked RollingStats := do
  let stats ← makeRoom stats
  let sum ← addTime stats.sum sample
  pure ⟨sample :: stats.samples, sum⟩

def serveStats (stats : RollingStats) : StatsCall → Checked RollingStats
  | .record sample => recordSample stats sample
  | .clear => pure stats.clear

/-- Calls in order, from the start. -/
def runStats (calls : List StatsCall) : Checked RollingStats :=
  calls.foldlM serveStats RollingStats.empty

variable {stats : RollingStats} {samples : List Nat}

theorem makeRoom_eq (h : stats.IsOf samples) : makeRoom stats = .ok stats.makeRoom := by
  rw [makeRoom, RollingStats.makeRoom, sub_eq h.oldest_le_sum, ok_bind, pure_eq, pure_eq]
  exact (apply_ite Except.ok _ _ _).symm

/-- A sample can be recorded if the sum of those that are kept then can be told. -/
theorem recordSample_eq (h : stats.IsOf samples) (sample : Nat)
    (hFits : (stats.record sample).sum ≤ maxTime) :
    recordSample stats sample = .ok (stats.record sample) := by
  have hSum : addTime stats.makeRoom.sum sample = .ok (stats.makeRoom.sum + sample) :=
    if_pos hFits
  rw [recordSample, makeRoom_eq h, ok_bind, hSum, ok_bind]
  rfl

/-- Calls can be served if the sum of the samples kept at one time can always be told. -/
theorem runStats_eq (calls : List StatsCall)
    (h : ∀ earlier, earlier <+: calls → (RollingStats.run earlier).sum ≤ maxTime) :
    runStats calls = .ok (RollingStats.run calls) := by
  induction calls using List.reverseRecOn with
  | nil => rfl
  | append_singleton calls call ih =>
      have hCalls := ih fun earlier hEarlier =>
        h earlier (hEarlier.trans (List.prefix_append calls [call]))
      have hFits := h _ (List.prefix_refl _)
      rw [RollingStats.run_concat] at hFits ⊢
      rw [runStats, List.foldlM_append, ← runStats, hCalls, ok_bind, List.foldlM_cons]
      -- A prefix is served by induction, so only the last call can fail.
      cases call with
      | record sample =>
          rw [serveStats, recordSample_eq (RollingStats.isOf_run calls) sample hFits]
          rfl
      | clear => rfl

end Checked

/-! ## Keys -/

/-- What is done with the cadence of typing. -/
inductive CadenceCall where
  | key (now : Nat)
  | reset
  deriving DecidableEq, Repr

namespace CadenceCall

def now? : CadenceCall → Option Nat
  | .key now => some now
  | .reset => none

/-- The instants of the keys since the last reset, in order. -/
def instants (calls : List CadenceCall) : List Nat :=
  latestValues now? calls

end CadenceCall

/-- The times from each instant to the next one, zero for one that is earlier. -/
def gaps (instants : List Nat) : List Nat :=
  List.zipWith (fun earlier later => later - earlier) instants instants.tail

/-- Another instant adds the time since the last one, if there is one. -/
theorem gaps_concat (instants : List Nat) (now : Nat) :
    gaps (instants ++ [now]) =
      gaps instants ++ (instants.getLast?.map (now - ·)).toList := by
  induction instants with
  | nil => rfl
  | cons first instants ih =>
      cases instants with
      | nil => rfl
      | cons second instants =>
          simp only [gaps, List.cons_append, List.tail_cons, List.zipWith_cons_cons] at ih ⊢
          rw [ih, List.getLast?_cons_cons]

namespace Cadence

variable {cadence : Cadence} {instants : List Nat}

def serve (cadence : Cadence) : CadenceCall → Cadence
  | .key now => (cadence.record now).1
  | .reset => cadence.reset

/-- Calls in order, from the start. -/
def run (calls : List CadenceCall) : Cadence :=
  calls.foldl serve empty

/-- Whether a cadence is that of keys at some instants. -/
structure IsOf (cadence : Cadence) (instants : List Nat) : Prop where
  intervals : cadence.intervals.IsOf (gaps instants)
  lastKey : cadence.lastKey = instants.getLast?

theorem isOf_empty : empty.IsOf [] := ⟨RollingStats.isOf_empty, rfl⟩

/-- A key is the end of a time between keys, unless it is the first one. -/
theorem IsOf.record (h : cadence.IsOf instants) (now : Nat) :
    (cadence.record now).1.IsOf (instants ++ [now]) := by
  refine ⟨?_, List.getLast?_concat.symm⟩
  have hIntervals := h.intervals
  rw [gaps_concat, ← h.lastKey]
  simp only [Cadence.record]
  cases cadence.lastKey with
  | none => simpa using hIntervals
  | some previous => exact hIntervals.record (now - previous)

theorem isOf_run (calls : List CadenceCall) : (run calls).IsOf (CadenceCall.instants calls) := by
  induction calls using List.reverseRecOn with
  | nil => exact isOf_empty
  | append_singleton calls call ih =>
      rw [run, List.foldl_append, CadenceCall.instants]
      cases call with
      | key now =>
          rw [latestValues_concat_some CadenceCall.now? rfl]
          exact ih.record now
      | reset =>
          rw [latestValues_concat_none CadenceCall.now? rfl]
          exact isOf_empty

end Cadence

/-- After any calls rolling statistics have the latest samples since they were cleared, as many
as they keep, in order, and the sum of exactly these, of which the oldest sample is a part.
The average is that sum divided by their number and rounded down, zero if there are none.  A
machine comes to the same statistics without a fault, if it can tell the sums of the samples
kept at one time.  The cadence has in this way the times between the keys since it was reset. -/
theorem rolling_statistics_are_of_latest_samples :
    (∀ calls : List StatsCall,
      let samples := StatsCall.recorded calls
      let stats := RollingStats.run calls
      stats.count = min samples.length RollingStats.maxSamples ∧
        stats.last = samples.getLast? ∧
        stats.samples.reverse = samples.rtake stats.count ∧
        stats.sum = (samples.rtake stats.count).sum ∧
        stats.samples.getLast?.getD 0 ≤ stats.sum ∧
        stats.average = stats.sum / stats.count ∧
        (stats.count = 0 → stats.average = 0) ∧
        ((∀ earlier, earlier <+: calls →
            (RollingStats.window (StatsCall.recorded earlier)).sum ≤ Checked.maxTime) →
          Checked.runStats calls = .ok stats)) ∧
      ∀ calls : List CadenceCall,
        let instants := CadenceCall.instants calls
        let cadence := Cadence.run calls
        cadence.intervals.samples.reverse = RollingStats.window (gaps instants) ∧
          cadence.intervals.sum = (RollingStats.window (gaps instants)).sum ∧
          cadence.lastKey = instants.getLast? := by
  constructor
  · intro calls samples stats
    have hStats : stats.IsOf samples := RollingStats.isOf_run calls
    have hCount : stats.count = min samples.length RollingStats.maxSamples := hStats.length_samples
    have hWindow : samples.rtake stats.count = RollingStats.window samples := by
      have hDropped : samples.length - stats.count =
          samples.length - RollingStats.maxSamples := by omega
      rw [RollingStats.window, List.rtake, List.rtake, hDropped]
    rw [hWindow]
    refine ⟨hCount, hStats.last_eq, hStats.samples, hStats.sum, hStats.oldest_le_sum, rfl,
      fun hNone => ?_, fun hFits => Checked.runStats_eq calls fun earlier hEarlier => ?_⟩
    · show stats.sum / stats.count = 0
      rw [hNone, Nat.div_zero]
    · rw [(RollingStats.isOf_run earlier).sum]
      exact hFits earlier hEarlier
  · intro calls instants cadence
    have hCadence : cadence.IsOf instants := Cadence.isOf_run calls
    exact ⟨hCadence.intervals.samples, hCadence.intervals.sum, hCadence.lastKey⟩

end ModalEditor
