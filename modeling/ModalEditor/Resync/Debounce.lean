namespace ModalEditor

/-!
# Putting off work while typing goes on

Parsing again after every key would compete with the keys.  A request for it is
put off for an interval, and each new request replaces the one before, so that
work is done once typing pauses.  Large files and fast typing stretch the
interval.  Instants and lengths of time are in nanoseconds.
-/

/-- Settings of the interval, in milliseconds and lines. -/
structure DebounceConfig where
  minInterval : Nat
  maxInterval : Nat
  /-- Texts with more lines get a longer interval. -/
  largeFileThreshold : Nat
  /-- Keys closer together count as fast typing. -/
  fastTypingLatency : Nat
  /-- What fast typing adds to the interval. -/
  fastTypingBonus : Nat
  deriving DecidableEq, Repr

namespace DebounceConfig

/-- From 50 to 300 milliseconds, growing from 1000 lines on, and 100 more when
keys are closer together than 100 milliseconds. -/
def default : DebounceConfig := ⟨50, 300, 1000, 100, 100⟩

/-- How far the length of a text moves the interval from the shortest to the
longest one, as a share. -/
def lengthShare (config : DebounceConfig) (lines : Nat) : Float :=
  if lines ≤ config.largeFileThreshold || config.largeFileThreshold == 0 then 0.0
  else
    let share :=
      Float.ofNat (lines - config.largeFileThreshold) /
        Float.ofNat config.largeFileThreshold
    if share < 1.0 then share else 1.0

/-- The interval for a text of some lines, in microseconds.  Keys that follow
each other by less than the latency of fast typing stretch it, up to the longest
interval. -/
def intervalMicros (config : DebounceConfig) (lines : Nat) (latency : Option Nat) : Nat :=
  let shortest := Float.ofNat config.minInterval
  let longest := Float.ofNat (max config.minInterval config.maxInterval)
  let interval := shortest + (longest - shortest) * config.lengthShare lines
  let isFast := latency.any (· < config.fastTypingLatency * 1000000)
  let interval :=
    if isFast then interval + Float.ofNat config.fastTypingBonus else interval
  let bounded := if interval < longest then interval else longest
  (bounded * 1000.0).round.toUInt64.toNat

/-- The interval for a text of some lines, given the time between the last two
keys. -/
def interval (config : DebounceConfig) (lines : Nat) (latency : Option Nat) : Nat :=
  config.intervalMicros lines latency * 1000

end DebounceConfig

/-- A request that waits for its deadline. -/
structure PendingRequest where
  deadline : Nat
  /-- How many requests it replaced since the last one that was due. -/
  coalesced : Nat
  deriving DecidableEq, Repr, Inhabited

/-- The pending request of one buffer, if any. -/
structure Debounce where
  config : DebounceConfig
  pending : Option PendingRequest
  deriving DecidableEq, Repr

namespace Debounce

/-- Nothing is pending. -/
def ofConfig (config : DebounceConfig) : Debounce := ⟨config, none⟩

/-- When the pending request is due. -/
def deadline (debounce : Debounce) : Option Nat :=
  debounce.pending.map (·.deadline)

/-- How many requests the pending one replaced. -/
def coalesced (debounce : Debounce) : Nat :=
  debounce.pending.elim 0 (·.coalesced)

/-- Requests work at an instant.  The request replaces the pending one. -/
def schedule (debounce : Debounce) (now lines : Nat) (latency : Option Nat) : Debounce :=
  { debounce with
    pending := some
      { deadline := now + debounce.config.interval lines latency
        coalesced := debounce.pending.elim 0 (·.coalesced + 1) } }

/-- Drops the pending request. -/
def cancel (debounce : Debounce) : Debounce :=
  { debounce with pending := none }

/-- Asks whether the pending request is due, and drops it if so. -/
def poll (debounce : Debounce) (now : Nat) : Debounce × Bool :=
  if debounce.pending.any (·.deadline ≤ now) then (debounce.cancel, true)
  else (debounce, false)

end Debounce

end ModalEditor
