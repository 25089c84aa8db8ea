import SearchFeed.LogBuffer
import SearchFeed.Proofs.Labelled

/-! # The log buffer as a window on what was pushed

Documents enter a log buffer at one end and leave it at the other, whether a
push gives up the oldest one, a drain hands some out, or all of them are
cleared. So what has left is the beginning of what was pushed, each document
once and for one reason, and what waits is the end of it.
-/

namespace SearchFeed

inductive BufferAction where
  | push (document : Document)
  | drain (count : Nat)
  | clear

/-- Why a document is no longer in a log buffer. -/
inductive Departure where
  | evicted
  | drained
  | cleared
deriving DecidableEq

namespace BufferAction

def pushed : BufferAction → List Document
  | .push document => [document]
  | _ => []

/-- The only reason for which an action makes documents leave. -/
def reason : BufferAction → Departure
  | .push _ => .evicted
  | .drain _ => .drained
  | .clear => .cleared

def drained (buffer : LogBuffer) : BufferAction → List Document
  | .drain count => (buffer.drain count).1
  | _ => []

def cleared (buffer : LogBuffer) : BufferAction → Nat
  | .clear => buffer.clear.1
  | _ => 0

end BufferAction

namespace LogBuffer

def act (buffer : LogBuffer) : BufferAction → LogBuffer
  | .push document => buffer.push document
  | .drain count => (buffer.drain count).2
  | .clear => buffer.clear.2

/-- The documents that leave with an action: as many of the oldest as are missing afterwards. -/
def departing (buffer : LogBuffer) (action : BufferAction) : List Document :=
  let known := buffer.entries ++ action.pushed
  known.take (known.length - (buffer.act action).size)

def departures (buffer : LogBuffer) (action : BufferAction) : List (Document × Departure) :=
  (buffer.departing action).map (·, action.reason)

variable (buffer : LogBuffer)

@[simp] theorem capacity_act (action : BufferAction) :
    (buffer.act action).capacity = buffer.capacity := by
  cases action with
  | push document =>
      simp only [act, push]
      split <;> rfl
  | drain count => rfl
  | clear => rfl

/-- What each action takes away: a push gives up the oldest document if the buffer is full. -/
def takenAway : BufferAction → List Document
  | .push _ => if buffer.capacity ≤ buffer.size then buffer.entries.take 1 else []
  | .drain count => (buffer.drain count).1
  | .clear => buffer.entries

/-- Whatever an action takes away has stood before all that stays. -/
theorem takenAway_append (action : BufferAction) :
    buffer.takenAway action ++ (buffer.act action).entries = buffer.entries ++ action.pushed := by
  cases action with
  | push document =>
      simp only [takenAway, act, push, BufferAction.pushed]
      split
      · rw [← List.append_assoc, List.take_append_drop]
      · rfl
  | drain count => simp [takenAway, act, drain, BufferAction.pushed]
  | clear => simp [takenAway, act, clear, BufferAction.pushed]

/-- So just that is missing afterwards. -/
theorem departing_eq (action : BufferAction) :
    buffer.departing action = buffer.takenAway action := by
  simp only [departing, size, ← takenAway_append, List.length_append, Nat.add_sub_cancel,
    List.take_left]

/-- What leaves the window and what stays is what was there and what was pushed. -/
theorem departing_append (action : BufferAction) :
    buffer.departing action ++ (buffer.act action).entries = buffer.entries ++ action.pushed := by
  rw [departing_eq, takenAway_append]

theorem size_act (action : BufferAction) :
    (buffer.departing action).length + (buffer.act action).size =
      buffer.size + action.pushed.length := by
  rw [size, size, ← List.length_append, ← List.length_append, departing_append]

variable {buffer}

/-- A buffer that has room for a document and holds no more than it has room for. -/
structure Fits (buffer : LogBuffer) : Prop where
  capacity_pos : 0 < buffer.capacity
  size_le : buffer.size ≤ buffer.capacity

theorem fits_ofCapacity (capacity : Nat) : (ofCapacity capacity).Fits where
  capacity_pos := Nat.lt_of_lt_of_le Nat.one_pos (Nat.le_max_right capacity 1)
  size_le := Nat.zero_le _

theorem Fits.act (hfits : buffer.Fits) (action : BufferAction) : (buffer.act action).Fits where
  capacity_pos := by
    rw [capacity_act]
    exact hfits.capacity_pos
  size_le := by
    have hroom := hfits.capacity_pos
    have hsize := hfits.size_le
    have hbalance := buffer.size_act action
    rw [capacity_act]
    cases action with
    | push document =>
        rw [departing_eq, takenAway] at hbalance
        split at hbalance
        next hfull =>
          rw [List.length_take] at hbalance
          simp only [BufferAction.pushed, List.length_singleton, size] at hbalance hsize hfull ⊢
          omega
        next hroomy =>
          simp only [BufferAction.pushed, List.length_singleton, List.length_nil] at hbalance
          omega
    | drain count =>
        simp only [BufferAction.pushed, List.length_nil] at hbalance
        omega
    | clear => exact Nat.zero_le _

/-- The count of documents given up goes with those that are. A buffer without room would count a
document that it does not have. -/
theorem Fits.dropped_act (hfits : buffer.Fits) (action : BufferAction) :
    (buffer.act action).dropped = buffer.dropped + .ofNat
      (withLabel .evicted (buffer.departures action)).length := by
  rw [departures, withLabel_map]
  cases action with
  | push document =>
      rw [BufferAction.reason, if_pos rfl, departing_eq]
      simp only [LogBuffer.act, push, takenAway]
      split
      next hfull =>
        obtain ⟨oldest, rest, hentries⟩ : ∃ oldest rest, buffer.entries = oldest :: rest :=
          List.exists_cons_of_length_pos (Nat.lt_of_lt_of_le hfits.capacity_pos hfull)
        rw [hentries]
        rfl
      next => exact (UInt64.add_zero _).symm
  | drain count => exact (UInt64.add_zero _).symm
  | clear => exact (UInt64.add_zero _).symm

end LogBuffer

/-- A log buffer in the course of actions, with what they have pushed and answered so far. -/
structure BufferRun where
  buffer : LogBuffer
  pushed : List Document := []
  /-- What was handed out, oldest first. -/
  drained : List Document := []
  /-- How many documents were cleared, as clearing says. -/
  cleared : Nat := 0
  /-- What has left and why, oldest first. -/
  departed : List (Document × Departure) := []

namespace BufferRun

def act (run : BufferRun) (action : BufferAction) : BufferRun where
  buffer := run.buffer.act action
  pushed := run.pushed ++ action.pushed
  drained := run.drained ++ action.drained run.buffer
  cleared := run.cleared + action.cleared run.buffer
  departed := run.departed ++ run.buffer.departures action

def ofActions (capacity : Nat) (actions : List BufferAction) : BufferRun :=
  actions.foldl act { buffer := .ofCapacity capacity }

/-- Everything that was pushed has left, oldest first and for one reason, or it still waits, and
the answers tell the reasons. -/
structure Accounts (capacity : Nat) (run : BufferRun) : Prop where
  pushed : run.pushed = run.departed.map Prod.fst ++ run.buffer.entries
  drained : run.drained = withLabel .drained run.departed
  cleared : run.cleared = (withLabel .cleared run.departed).length
  dropped : run.buffer.dropped = .ofNat (withLabel .evicted run.departed).length
  fits : run.buffer.Fits
  capacity : run.buffer.capacity = max capacity 1

variable {capacity : Nat} {run : BufferRun}

/-- Each action keeps the window's accounts. -/
theorem Accounts.act (haccounts : run.Accounts capacity) (action : BufferAction) :
    (run.act action).Accounts capacity where
  pushed := by
    have hdeparting := run.buffer.departing_append action
    simp only [BufferRun.act, haccounts.pushed, List.map_append, List.append_assoc]
    rw [← hdeparting, LogBuffer.departures, List.map_map]
    simp [Function.comp_def]
  drained := by
    simp only [BufferRun.act, haccounts.drained, withLabel_append, LogBuffer.departures,
      withLabel_map]
    cases action with
    | push document => rfl
    | drain count => rw [LogBuffer.departing_eq]; rfl
    | clear => rfl
  cleared := by
    simp only [BufferRun.act, haccounts.cleared, withLabel_append, LogBuffer.departures,
      withLabel_map, List.length_append]
    cases action with
    | push document => rfl
    | drain count => rfl
    | clear => rw [LogBuffer.departing_eq]; rfl
  dropped := by
    simp only [BufferRun.act, withLabel_append, List.length_append]
    rw [haccounts.fits.dropped_act, haccounts.dropped, UInt64.ofNat_add]
  fits := haccounts.fits.act action
  capacity := (run.buffer.capacity_act action).trans haccounts.capacity

theorem accounts_ofActions (capacity : Nat) (actions : List BufferAction) :
    (ofActions capacity actions).Accounts capacity := by
  have hstart : BufferRun.Accounts capacity { buffer := .ofCapacity capacity } :=
    ⟨rfl, rfl, rfl, rfl, LogBuffer.fits_ofCapacity capacity, rfl⟩
  rw [ofActions]
  generalize ({ buffer := .ofCapacity capacity } : BufferRun) = run at hstart
  induction actions generalizing run with
  | nil => exact hstart
  | cons action rest ih => exact ih _ (hstart.act action)

/-- Departures for all reasons together are as many as the documents that have left. -/
theorem length_departed (departed : List (Document × Departure)) :
    (withLabel .drained departed).length + (withLabel .cleared departed).length +
      (withLabel .evicted departed).length = departed.length := by
  induction departed with
  | nil => rfl
  | cons departure rest ih =>
      obtain ⟨document, reason⟩ := departure
      cases reason <;> simp [withLabel_cons] <;> omega

/-- Whatever is pushed, drained and cleared, what has left a log buffer and what waits in it make
up, in this order, what was pushed. So the buffer holds the end of what was pushed, within its
capacity, and what was handed out is part of what was pushed, in the same order. Only a push on a
full buffer gives anything up, which is then the oldest document, and what is given up is counted in
64 bits. -/
theorem log_buffer_slides (capacity : Nat) (actions : List BufferAction) :
    let run := ofActions capacity actions
    let evicted := withLabel .evicted run.departed
    run.pushed = run.departed.map Prod.fst ++ run.buffer.entries ∧
    run.buffer.entries <:+ run.pushed ∧
    run.buffer.size ≤ max capacity 1 ∧
    (∀ action : BufferAction, withLabel .evicted (run.buffer.departures action) =
      match action with
      | .push _ => if run.buffer.size = max capacity 1 then run.buffer.entries.take 1 else []
      | _ => []) ∧
    run.drained = withLabel .drained run.departed ∧
    run.drained.Sublist run.pushed ∧
    run.cleared = (withLabel .cleared run.departed).length ∧
    run.buffer.dropped = .ofNat evicted.length ∧
    run.pushed.length =
      run.drained.length + run.cleared + evicted.length + run.buffer.size := by
  intro run evicted
  have haccounts : run.Accounts capacity := accounts_ofActions capacity actions
  have hsize : run.buffer.size ≤ max capacity 1 :=
    haccounts.capacity ▸ haccounts.fits.size_le
  refine ⟨haccounts.pushed, ?_, hsize, ?_, haccounts.drained, ?_, haccounts.cleared,
    haccounts.dropped, ?_⟩
  · exact haccounts.pushed ▸ List.suffix_append _ _
  · intro action
    rw [LogBuffer.departures, withLabel_map]
    cases action with
    | push document =>
        have hfull : run.buffer.capacity ≤ run.buffer.size ↔
            run.buffer.size = max capacity 1 := by
          rw [haccounts.capacity]
          omega
        rw [BufferAction.reason, if_pos rfl, LogBuffer.departing_eq]
        simp only [LogBuffer.takenAway, hfull]
    | drain count => rfl
    | clear => rfl
  · rw [haccounts.drained, haccounts.pushed]
    exact (withLabel_sublist .drained run.departed).trans (List.sublist_append_left _ _)
  · rw [haccounts.pushed, haccounts.drained, haccounts.cleared, length_departed, List.length_append,
      List.length_map, LogBuffer.size]

-- A capacity of zero makes room for one document.
example :
    (ofActions 0 [.push .null, .push (.int 1), .push (.int 2), .drain 5, .push (.int 3),
      .clear]).departed =
      [(.null, .evicted), (.int 1, .evicted), (.int 2, .drained), (.int 3, .cleared)] := rfl

end BufferRun

end SearchFeed
