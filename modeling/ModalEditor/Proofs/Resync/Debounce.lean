import Mathlib.Data.List.DropRight
import ModalEditor.Resync.Debounce

namespace ModalEditor

/-!
# Each request is due once, at the latest deadline

A debounce remembers one deadline and one number.  An onlooker keeps the record of all that
happened: which requests were made and when they were to be due, which polls found work due,
and when the pending request was dropped.  The requests that wait are those after the last
entry that settled all before it.  The debounce has the deadline of the last of them, and its
number is that of the others.  So a poll finds work due exactly if a request waits and the
deadline of the last one has come, however the instants of the polls are ordered: never early,
never twice for the same requests, and never not at all.
-/

/-- What is asked of a debounce.  The instants come in any order. -/
inductive DebounceCall where
  | schedule (now lines : Nat) (latency : Option Nat)
  | poll (now : Nat)
  | cancel
  deriving DecidableEq, Repr

/-- What an onlooker sees of a call. -/
inductive DebounceEvent where
  /-- A request, and when it is to be due. -/
  | requested (deadline : Nat)
  /-- A poll, and whether it found work due. -/
  | polled (now : Nat) (isDue : Bool)
  | cancelled
  deriving DecidableEq, Repr

namespace DebounceEvent

/-- Whether no request from before waits any longer. -/
def settles : DebounceEvent → Bool
  | .requested _ => false
  | .polled _ isDue => isDue
  | .cancelled => true

/-- The deadline that a request was given. -/
def deadline? : DebounceEvent → Option Nat
  | .requested deadline => some deadline
  | .polled _ _ => none
  | .cancelled => none

/-- The deadlines of all requests, in order. -/
def deadlines (record : List DebounceEvent) : List Nat :=
  record.filterMap deadline?

/-- The deadlines of the requests since the last cancel and the last poll that found work
due, in order. -/
def waiting (record : List DebounceEvent) : List Nat :=
  deadlines (record.rtakeWhile fun event => !event.settles)

variable {event : DebounceEvent} {deadline : Nat} {before between record : List DebounceEvent}

theorem deadline?_eq_some_iff : event.deadline? = some deadline ↔ event = .requested deadline := by
  cases event <;> simp [deadline?]

theorem mem_deadlines_iff : deadline ∈ deadlines record ↔ .requested deadline ∈ record := by
  simp [deadlines, deadline?_eq_some_iff]

/-- After an entry that settles all before it no request waits. -/
theorem waiting_concat_of_settles (h : event.settles = true) :
    waiting (record ++ [event]) = [] := by
  rw [waiting, List.rtakeWhile_concat_neg _ _ _ (by simp [h])]
  rfl

/-- Any other entry leaves those that wait, and a request joins them. -/
theorem waiting_concat_of_not_settles (h : event.settles = false) :
    waiting (record ++ [event]) = waiting record ++ event.deadline?.toList := by
  rw [waiting, List.rtakeWhile_concat_pos _ _ _ (by simp [h]), waiting, deadlines, deadlines,
    List.filterMap_append]
  cases hDeadline : event.deadline? <;> simp [hDeadline]

theorem waiting_concat_requested (record : List DebounceEvent) (deadline : Nat) :
    waiting (record ++ [.requested deadline]) = waiting record ++ [deadline] :=
  waiting_concat_of_not_settles rfl

theorem waiting_concat_not_due (record : List DebounceEvent) (now : Nat) :
    waiting (record ++ [.polled now false]) = waiting record := by
  rw [waiting_concat_of_not_settles rfl]
  exact List.append_nil _

/-- Whatever waits after an entry that settles all before it was requested later. -/
theorem waiting_append_of_settles (h : event.settles = true) :
    waiting (before ++ event :: between) = waiting between := by
  -- Whether anything from before waits is decided by the last entries first.
  induction between using List.reverseRecOn with
  | nil => exact waiting_concat_of_settles h
  | append_singleton between last ih =>
      rw [← List.cons_append, ← List.append_assoc]
      cases hLast : last.settles with
      | true => rw [waiting_concat_of_settles hLast, waiting_concat_of_settles hLast]
      | false =>
          rw [waiting_concat_of_not_settles hLast, waiting_concat_of_not_settles hLast, ih]

/-- The requests that wait are the last ones of all. -/
theorem waiting_suffix (record : List DebounceEvent) : waiting record <:+ deadlines record :=
  (List.rtakeWhile_suffix _ record).filterMap deadline?

theorem getLast?_deadlines (h : (waiting record).getLast? = some deadline) :
    (deadlines record).getLast? = some deadline := by
  obtain ⟨others, hOthers⟩ := waiting_suffix record
  rw [← hOthers, List.getLast?_append, h]
  rfl

end DebounceEvent

namespace Debounce

open DebounceEvent

variable {debounce : Debounce} {record : List DebounceEvent}

/-- The debounce after a call, and what was to be seen of the call. -/
def serve (debounce : Debounce) : DebounceCall → Debounce × DebounceEvent
  | .schedule now lines latency =>
      (debounce.schedule now lines latency,
        .requested (now + debounce.config.interval lines latency))
  | .poll now => ((debounce.poll now).1, .polled now (debounce.poll now).2)
  | .cancel => (debounce.cancel, .cancelled)

/-- Whether a debounce remembers of the requests that wait the last deadline and how many
others there are. -/
structure Remembers (debounce : Debounce) (record : List DebounceEvent) : Prop where
  deadline : debounce.deadline = (waiting record).getLast?
  coalesced : debounce.coalesced = (waiting record).length - 1

/-- Work is due if there is a deadline that has come. -/
theorem poll_snd_iff {now : Nat} :
    (debounce.poll now).2 = true ↔ ∃ deadline, debounce.deadline = some deadline ∧
      deadline ≤ now := by
  rw [poll, Debounce.deadline]
  cases debounce.pending with
  | none => simp
  | some pending =>
      by_cases hDue : pending.deadline ≤ now <;> simp [hDue]

/-- A poll that finds work due drops the request, and any other poll changes nothing. -/
theorem poll_fst (debounce : Debounce) (now : Nat) :
    (debounce.poll now).1 = if (debounce.poll now).2 then debounce.cancel else debounce := by
  rw [poll]
  by_cases hDue : debounce.pending.any (·.deadline ≤ now) = true
  · rw [if_pos hDue]
    rfl
  · rw [if_neg hDue]
    rfl

/-- A debounce with nothing pending remembers a record after which no request waits. -/
theorem remembers_of_waiting_eq_nil (hPending : debounce.pending = none)
    (hWaiting : waiting record = []) : debounce.Remembers record := by
  constructor
  · rw [Debounce.deadline, hPending, hWaiting]
    rfl
  · rw [Debounce.coalesced, hPending, hWaiting]
    rfl

theorem Remembers.of_waiting_eq {later : List DebounceEvent} (h : debounce.Remembers record)
    (hWaiting : waiting later = waiting record) : debounce.Remembers later :=
  ⟨hWaiting ▸ h.deadline, hWaiting ▸ h.coalesced⟩

/-- The request that is made replaces the pending one and counts it in. -/
theorem Remembers.schedule (h : debounce.Remembers record) (now lines : Nat)
    (latency : Option Nat) :
    (debounce.schedule now lines latency).Remembers
      (record ++ [.requested (now + debounce.config.interval lines latency)]) := by
  have hDeadline := h.deadline
  have hCoalesced := h.coalesced
  constructor <;> rw [waiting_concat_requested]
  · exact List.getLast?_concat.symm
  · rw [List.length_append, List.length_singleton, Nat.add_sub_cancel]
    simp only [Debounce.deadline, Debounce.coalesced, Debounce.schedule] at hDeadline hCoalesced ⊢
    cases hPending : debounce.pending with
    | none =>
        rw [hPending] at hDeadline
        rw [List.getLast?_eq_none_iff.mp hDeadline.symm]
        rfl
    | some pending =>
        -- A request that is pending is one that waits, so the others are one less.
        rw [hPending] at hDeadline hCoalesced
        have hSome : 0 < (waiting record).length :=
          List.length_pos_of_mem (List.mem_of_getLast? hDeadline.symm)
        simp only [Option.elim_some] at hCoalesced ⊢
        omega

/-- Every call is remembered as it was seen. -/
theorem Remembers.serve (h : debounce.Remembers record) (call : DebounceCall) :
    (debounce.serve call).1.Remembers (record ++ [(debounce.serve call).2]) := by
  cases call with
  | schedule now lines latency => exact h.schedule now lines latency
  | poll now =>
      rw [Debounce.serve, poll_fst]
      cases hDue : (debounce.poll now).2 with
      | true => exact remembers_of_waiting_eq_nil rfl (waiting_concat_of_settles rfl)
      | false => exact h.of_waiting_eq (waiting_concat_not_due record now)
  | cancel => exact remembers_of_waiting_eq_nil rfl (waiting_concat_of_settles rfl)

end Debounce

/-- A debounce and the record of what was asked of it. -/
structure RecordedDebounce where
  debounce : Debounce
  record : List DebounceEvent

namespace RecordedDebounce

open DebounceEvent

def ofConfig (config : DebounceConfig) : RecordedDebounce := ⟨Debounce.ofConfig config, []⟩

/-- Serves a call and takes it down. -/
def serve (recorded : RecordedDebounce) (call : DebounceCall) : RecordedDebounce where
  debounce := (recorded.debounce.serve call).1
  record := recorded.record ++ [(recorded.debounce.serve call).2]

/-- Calls in order. -/
def run (recorded : RecordedDebounce) (calls : List DebounceCall) : RecordedDebounce :=
  calls.foldl serve recorded

theorem remembers_run {recorded : RecordedDebounce}
    (h : recorded.debounce.Remembers recorded.record) (calls : List DebounceCall) :
    (recorded.run calls).debounce.Remembers (recorded.run calls).record := by
  induction calls generalizing recorded with
  | nil => exact h
  | cons call calls ih => exact ih (h.serve call)

/-- After any calls a poll finds work due exactly if requests wait and the deadline of the
last of them has come, which is then the deadline of the latest request of all.  One of the
requests that wait is pending and the others were replaced.  Between two polls that find work
due there is a request. -/
theorem requests_are_due_once_at_latest_deadline (config : DebounceConfig)
    (calls : List DebounceCall) :
    let recorded := (ofConfig config).run calls
    recorded.debounce.coalesced = (waiting recorded.record).length - 1 ∧
      recorded.debounce.deadline = (waiting recorded.record).getLast? ∧
      ∀ now,
        ((recorded.debounce.poll now).2 = true ↔
          ∃ deadline, (waiting recorded.record).getLast? = some deadline ∧ deadline ≤ now) ∧
        ((recorded.debounce.poll now).2 = true →
          (∃ deadline, (deadlines recorded.record).getLast? = some deadline ∧ deadline ≤ now) ∧
          ∀ before earlier between, recorded.record = before ++ .polled earlier true :: between →
            ∃ deadline, .requested deadline ∈ between) := by
  intro recorded
  have hRemembers : recorded.debounce.Remembers recorded.record :=
    remembers_run (Debounce.remembers_of_waiting_eq_nil rfl rfl) calls
  refine ⟨hRemembers.coalesced, hRemembers.deadline, fun now => ?_⟩
  have hDue : (recorded.debounce.poll now).2 = true ↔
      ∃ deadline, (waiting recorded.record).getLast? = some deadline ∧ deadline ≤ now := by
    rw [Debounce.poll_snd_iff, hRemembers.deadline]
  refine ⟨hDue, fun hPoll => ?_⟩
  obtain ⟨deadline, hLast, hCome⟩ := hDue.mp hPoll
  refine ⟨⟨deadline, getLast?_deadlines hLast, hCome⟩, ?_⟩
  intro before earlier between hRecord
  rw [hRecord, waiting_append_of_settles rfl] at hLast
  have hWaits := (waiting_suffix between).subset (List.mem_of_getLast? hLast)
  exact ⟨deadline, mem_deadlines_iff.mp hWaits⟩

end RecordedDebounce

end ModalEditor
