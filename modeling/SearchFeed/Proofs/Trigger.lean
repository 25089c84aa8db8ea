import SearchFeed.Proofs.Footprint
import SearchFeed.Worker

/-! # Triggers of a worker

A call that asks for a cycle looks at the guard first and then tries to put its
mode into a channel with room for one. The worker takes a mode out before it
claims the guard, so both steps of a call may fall anywhere between the steps
of the worker. Every step is one move, and an interleaving is a list of moves.
The notes of a run replay as a queue of calls that are owed a cycle.
-/

namespace SearchFeed

structure TriggerCall where
  /-- How many calls began before it. -/
  number : Nat
  mode : RunMode

/-- What makes a worker begin a cycle. -/
inductive CycleCause where
  | trigger (number : Nat)
  | tick

/-- Where a worker is between two of its steps. -/
inductive WorkPoint where
  | waiting
  | received (cause : CycleCause) (mode : RunMode)
  | running (mode : RunMode)
  /-- A cycle is over, and the guard was claimed for it or not. -/
  | finished (mode : RunMode) (claimed : Bool) (result : CycleResult)
  | exited

namespace WorkPoint

/-- The calls that the worker has heard of and has not begun a cycle for. -/
def heard : WorkPoint → List TriggerCall
  | .received (.trigger number) mode => [⟨number, mode⟩]
  | _ => []

def isBusy : WorkPoint → Bool
  | .running _ => true
  | .finished .. => true
  | _ => false

end WorkPoint

/-- What a worker may have at hand. -/
def WorkPoint.Fits (timed : Bool) : WorkPoint → Prop
  | .received .tick mode => timed = true ∧ mode = .incremental
  | .finished _ claimed result => claimed = true ∧ result ≠ .ok (.skipped .inProgress)
  | _ => True

/-- What can be seen of a worker from outside. -/
inductive WorkNote where
  | answered (call : TriggerCall) (accepted : Bool)
  | began (cause : CycleCause) (mode : RunMode)
  | ended (result : CycleResult)

namespace WorkNote

def answered? : WorkNote → Option TriggerCall
  | .answered call _ => some call
  | _ => none

def accepted? : WorkNote → Option TriggerCall
  | .answered call true => some call
  | _ => none

def refused? : WorkNote → Option TriggerCall
  | .answered call false => some call
  | _ => none

def triggered? : WorkNote → Option TriggerCall
  | .began (.trigger number) mode => some ⟨number, mode⟩
  | _ => none

def isBegin : WorkNote → Bool
  | .began .. => true
  | _ => false

def isEnd : WorkNote → Bool
  | .ended _ => true
  | _ => false

/-- Ticks begin incremental cycles only, and no cycle finds another one under way. -/
def Fits (timed : Bool) : WorkNote → Prop
  | .began .tick mode => timed = true ∧ mode = .incremental
  | .ended result => result ≠ .ok (.skipped .inProgress)
  | _ => True

end WorkNote

def answeredCalls (notes : List WorkNote) : List TriggerCall :=
  notes.filterMap WorkNote.answered?

def acceptedCalls (notes : List WorkNote) : List TriggerCall :=
  notes.filterMap WorkNote.accepted?

def refusedCalls (notes : List WorkNote) : List TriggerCall :=
  notes.filterMap WorkNote.refused?

/-- The calls that a cycle was begun for, in order, each with the mode of its cycle. -/
def triggeredCalls (notes : List WorkNote) : List TriggerCall :=
  notes.filterMap WorkNote.triggered?

section Calls

variable (notes : List WorkNote) (note : WorkNote)

@[simp] theorem answeredCalls_concat :
    answeredCalls (notes ++ [note]) = answeredCalls notes ++ note.answered?.toList := by
  rw [answeredCalls, List.filterMap_append]
  cases hcall : note.answered? <;> simp [answeredCalls, hcall]

@[simp] theorem acceptedCalls_concat :
    acceptedCalls (notes ++ [note]) = acceptedCalls notes ++ note.accepted?.toList := by
  rw [acceptedCalls, List.filterMap_append]
  cases hcall : note.accepted? <;> simp [acceptedCalls, hcall]

@[simp] theorem triggeredCalls_concat :
    triggeredCalls (notes ++ [note]) = triggeredCalls notes ++ note.triggered?.toList := by
  rw [triggeredCalls, List.filterMap_append]
  cases hcall : note.triggered? <;> simp [triggeredCalls, hcall]

/-- Each answered call was accepted or refused. -/
theorem answeredCalls_perm :
    (answeredCalls notes).Perm (acceptedCalls notes ++ refusedCalls notes) := by
  induction notes with
  | nil => exact List.Perm.refl _
  | cons note rest ih =>
      cases note with
      | answered call accepted =>
          cases accepted with
          | true => exact ih.cons call
          | false => exact (ih.cons call).trans List.perm_middle.symm
      | began cause mode => cases cause <;> exact ih
      | ended result => exact ih

/-- A call is not answered in two ways. -/
theorem not_accepted_of_refused {call other : TriggerCall}
    (hdistinct : ((answeredCalls notes).map TriggerCall.number).Nodup)
    (hrefused : .answered call false ∈ notes) (haccepted : other ∈ acceptedCalls notes) :
    other.number ≠ call.number := by
  intro hsame
  rw [((answeredCalls_perm notes).map _).nodup_iff, List.map_append] at hdistinct
  have hcall : call ∈ refusedCalls notes := List.mem_filterMap.mpr ⟨_, hrefused, rfl⟩
  exact List.disjoint_of_nodup_append hdistinct (List.mem_map_of_mem haccepted)
    (hsame ▸ List.mem_map_of_mem hcall)

end Calls

/-- A worker of a reporter, the calls that are on their way to it, and notes that no move looks
at. -/
structure TriggeredWorker where
  pipeline : Pipeline
  guard : Guard := {}
  channel : Option TriggerCall := none
  /-- Whether the sending end of the channel is still there. -/
  isOpen : Bool := true
  point : WorkPoint := .waiting
  /-- Calls that saw the guard free and have not tried to send yet. -/
  sending : List TriggerCall := []
  calls : Nat := 0
  notes : List WorkNote := []

namespace TriggeredWorker

/-- What happens to a worker without interruption. -/
inductive Move where
  | call (mode : RunMode)
  /-- The call at a place among those on their way tries to send. -/
  | send (place : Nat)
  | receive
  | tick
  | claim
  | run (world : World)
  | release (now : Instant)
  | shutdown
  /-- Another part of the export is at work. -/
  | meanwhile (change : Session → Session)

section Moves

variable (worker : TriggeredWorker)

def note (note : WorkNote) : TriggeredWorker := { worker with notes := worker.notes ++ [note] }

def call (mode : RunMode) : TriggeredWorker :=
  let numbered := { worker with calls := worker.calls + 1 }
  let call : TriggerCall := ⟨worker.calls, mode⟩
  if worker.guard.takesTrigger then { numbered with sending := worker.sending ++ [call] }
  else numbered.note (.answered call false)

def send (place : Nat) : TriggeredWorker :=
  match worker.sending[place]? with
  | none => worker
  | some call =>
    let rest := { worker with sending := worker.sending.eraseIdx place }
    if worker.isOpen && worker.channel.isNone then
      { rest with channel := some call }.note (.answered call true)
    else rest.note (.answered call false)

def receive : TriggeredWorker :=
  match worker.point, worker.channel with
  | .waiting, some call =>
    { worker with channel := none, point := .received (.trigger call.number) call.mode }
  | .waiting, none => if worker.isOpen then worker else { worker with point := .exited }
  | _, _ => worker

def tick (timed : Bool) : TriggeredWorker :=
  match worker.point with
  | .waiting =>
    if timed then { worker with point := .received .tick .incremental } else worker
  | _ => worker

def claim : TriggeredWorker :=
  match worker.point with
  | .received cause mode =>
    let begun := worker.note (.began cause mode)
    match worker.guard.tryAcquire with
    | some guard => { begun with guard, point := .running mode }
    | none => { begun with point := .finished mode false (.ok (.skipped .inProgress)) }
  | _ => worker

def runCycle (setup : Setup) (reporter : Reporter) (world : World) : TriggeredWorker :=
  match worker.point with
  | .running mode =>
    let (result, pipeline) := worker.pipeline.cycle setup world reporter mode
    { worker with pipeline, point := .finished mode true result }
  | _ => worker

/-- The guard is let go if it was claimed, and the cycle is told about. -/
def release (reporter : Reporter) (now : Instant) : TriggeredWorker :=
  match worker.point with
  | .finished mode claimed result =>
    let session := worker.pipeline.session
    let freed := { worker with
      guard := if claimed then worker.guard.release else worker.guard
      point := .waiting
      pipeline := worker.pipeline.withSession
        (if reporter.writesToolIndex then session
          else session.tell now (reporter.cycleEvent mode result)) }
    freed.note (.ended result)
  | _ => worker

variable (setup : Setup) (reporter : Reporter) (timed : Bool)

def step : Move → TriggeredWorker
  | .call mode => worker.call mode
  | .send place => worker.send place
  | .receive => worker.receive
  | .tick => worker.tick timed
  | .claim => worker.claim
  | .run world => worker.runCycle setup reporter world
  | .release now => worker.release reporter now
  | .shutdown => { worker with isOpen := false }
  | .meanwhile change =>
    { worker with pipeline := worker.pipeline.withSession (change worker.pipeline.session) }

def steps (moves : List Move) : TriggeredWorker :=
  moves.foldl (fun worker move => worker.step setup reporter timed move) worker

theorem steps_append (first second : List Move) :
    worker.steps setup reporter timed (first ++ second) =
      (worker.steps setup reporter timed first).steps setup reporter timed second :=
  List.foldl_append

/-- The worker waits with nothing to receive, or it is gone. -/
def IsAtRest : Prop := (worker.point = .waiting ∧ worker.channel = none) ∨ worker.point = .exited

/-- The steps that are left of a cycle. -/
def cycleMoves (world : World) : List Move := [.claim, .run world, .release world.now]

/-- A cycle whose steps follow each other is a cycle under the guard that is told about. -/
theorem steps_cycleMoves (world : World) {cause : CycleCause} {mode : RunMode}
    (hpoint : worker.point = .received cause mode) :
    let logged := worker.pipeline.loggedCycle setup world reporter mode worker.guard
    worker.steps setup reporter timed (cycleMoves world) =
      { worker with
        pipeline := logged.2.2
        guard := logged.2.1
        point := .waiting
        notes := worker.notes ++ [.began cause mode, .ended logged.1] } := by
  obtain ⟨pipeline, ⟨running⟩, channel, isOpen, point, sending, calls, notes⟩ := worker
  subst hpoint
  simp only [Pipeline.loggedCycle_told]
  cases running with
  | true =>
      rw [Pipeline.guardedCycle_held setup world pipeline reporter mode rfl]
      simp [steps, cycleMoves, step, claim, runCycle, release, note, Guard.tryAcquire]
      cases reporter.writesToolIndex <;> rfl
  | false =>
      rw [Pipeline.guardedCycle_free setup world pipeline reporter mode rfl]
      simp [steps, cycleMoves, step, claim, runCycle, release, note, Guard.tryAcquire,
        Guard.release]
      cases reporter.writesToolIndex <;> rfl

/-- A call that nothing comes in between of, and its cycle. -/
def turnMoves (world : World) (mode : RunMode) : List Move :=
  [.call mode, .send 0, .receive] ++ cycleMoves world

/-- Calls whose turns follow each other make a worker run the cycles of their modes. -/
theorem steps_turnMoves (world : World) (modes : List RunMode) (pipeline : Pipeline) (calls : Nat)
    (notes : List WorkNote) :
    (({ pipeline, calls, notes } : TriggeredWorker).steps setup reporter timed
      (modes.flatMap (turnMoves world))).pipeline =
        pipeline.cycles setup world reporter modes := by
  induction modes generalizing pipeline calls notes with
  | nil => rfl
  | cons mode rest ih =>
      let asked : TriggeredWorker := { pipeline
                                       point := .received (.trigger calls) mode
                                       calls := calls + 1
                                       notes := notes ++ [.answered ⟨calls, mode⟩ true] }
      have hturn : ({ pipeline, calls, notes } : TriggeredWorker).steps setup reporter timed
          (turnMoves world mode) = asked.steps setup reporter timed (cycleMoves world) := rfl
      have hguard := Pipeline.loggedCycle_guard setup world pipeline reporter mode {}
      rw [List.flatMap_cons, steps_append, hturn,
        steps_cycleMoves asked setup reporter timed world rfl]
      simp only [asked, hguard]
      exact ih _ _ _

end Moves

end TriggeredWorker

/-- Notes that can be read as a queue: accepted calls join at its end, and a cycle begins, while no
other is under way, for the call at its head or for a tick. -/
inductive Replays (timed : Bool) : List WorkNote → (owed : List TriggerCall) → (busy : Bool) → Prop
  | start : Replays timed [] [] false
  | accept {notes owed busy} (call : TriggerCall) :
    Replays timed notes owed busy →
      Replays timed (notes ++ [.answered call true]) (owed ++ [call]) busy
  | refuse {notes owed busy} (call : TriggerCall) :
    Replays timed notes owed busy → Replays timed (notes ++ [.answered call false]) owed busy
  | trigger {notes owed} (call : TriggerCall) :
    Replays timed notes (call :: owed) false →
      Replays timed (notes ++ [.began (.trigger call.number) call.mode]) owed true
  | tick {notes owed} : timed = true → Replays timed notes owed false →
      Replays timed (notes ++ [.began .tick .incremental]) owed true
  | finish {notes owed} (result : CycleResult) : result ≠ .ok (.skipped .inProgress) →
      Replays timed notes owed true → Replays timed (notes ++ [.ended result]) owed false

namespace Replays

variable {timed busy : Bool} {notes : List WorkNote} {owed : List TriggerCall}

/-- A queue can be read off at every moment. -/
theorem of_prefix (hreplays : Replays timed notes owed busy) {past : List WorkNote}
    (hpast : past <+: notes) : ∃ owed busy, Replays timed past owed busy := by
  induction hreplays with
  | start =>
      obtain rfl := List.prefix_nil.mp hpast
      exact ⟨[], false, .start⟩
  | accept call hbefore ih =>
      rcases List.prefix_concat_iff.mp hpast with rfl | hpast
      · exact ⟨_, _, hbefore.accept call⟩
      · exact ih hpast
  | refuse call hbefore ih =>
      rcases List.prefix_concat_iff.mp hpast with rfl | hpast
      · exact ⟨_, _, hbefore.refuse call⟩
      · exact ih hpast
  | trigger call hbefore ih =>
      rcases List.prefix_concat_iff.mp hpast with rfl | hpast
      · exact ⟨_, _, hbefore.trigger call⟩
      · exact ih hpast
  | tick htimed hbefore ih =>
      rcases List.prefix_concat_iff.mp hpast with rfl | hpast
      · exact ⟨_, _, hbefore.tick htimed⟩
      · exact ih hpast
  | finish result hresult hbefore ih =>
      rcases List.prefix_concat_iff.mp hpast with rfl | hpast
      · exact ⟨_, _, hbefore.finish result hresult⟩
      · exact ih hpast

/-- Accepted calls had their cycle, in order and in their mode, or they are still owed one. -/
theorem accepted_eq (hreplays : Replays timed notes owed busy) :
    acceptedCalls notes = triggeredCalls notes ++ owed := by
  induction hreplays with
  | start => rfl
  | accept call _ ih => simp [ih, WorkNote.accepted?, WorkNote.triggered?]
  | refuse call _ ih => simp [ih, WorkNote.accepted?, WorkNote.triggered?]
  | trigger call _ ih => simp [ih, WorkNote.accepted?, WorkNote.triggered?]
  | tick _ _ ih => simp [ih, WorkNote.accepted?, WorkNote.triggered?]
  | finish result _ _ ih => simp [ih, WorkNote.accepted?, WorkNote.triggered?]

/-- One cycle at a time. -/
theorem begins_eq (hreplays : Replays timed notes owed busy) :
    notes.countP WorkNote.isBegin = notes.countP WorkNote.isEnd + busy.toNat := by
  induction hreplays with
  | start => rfl
  | accept call _ ih => simpa [WorkNote.isBegin, WorkNote.isEnd] using ih
  | refuse call _ ih => simpa [WorkNote.isBegin, WorkNote.isEnd] using ih
  | trigger call _ ih => simpa [WorkNote.isBegin, WorkNote.isEnd] using ih
  | tick _ _ ih => simpa [WorkNote.isBegin, WorkNote.isEnd] using ih
  | finish result _ _ ih => simpa [WorkNote.isBegin, WorkNote.isEnd] using ih

theorem fits (hreplays : Replays timed notes owed busy) :
    ∀ note ∈ notes, note.Fits timed := by
  induction hreplays with
  | start => nofun
  | accept call _ ih => exact List.forall_mem_append.mpr ⟨ih, by simp [WorkNote.Fits]⟩
  | refuse call _ ih => exact List.forall_mem_append.mpr ⟨ih, by simp [WorkNote.Fits]⟩
  | trigger call _ ih => exact List.forall_mem_append.mpr ⟨ih, by simp [WorkNote.Fits]⟩
  | tick htimed _ ih =>
      exact List.forall_mem_append.mpr ⟨ih, by simp [WorkNote.Fits, htimed]⟩
  | finish result hresult _ ih =>
      exact List.forall_mem_append.mpr ⟨ih, by simp [WorkNote.Fits, hresult]⟩

end Replays

namespace TriggeredWorker

variable {setup : Setup} {reporter : Reporter} {timed : Bool} {worker : TriggeredWorker}

/-- What a worker knows agrees with its notes, whatever it is doing. -/
structure Orderly (timed : Bool) (worker : TriggeredWorker) : Prop where
  replays : Replays timed worker.notes (worker.point.heard ++ worker.channel.toList)
    worker.point.isBusy
  guarded : worker.guard.running = worker.point.isBusy
  fits : worker.point.Fits timed
  emptied : worker.point = .exited → worker.isOpen = false ∧ worker.channel = none

theorem Orderly.call (horderly : worker.Orderly timed) (mode : RunMode) :
    (worker.call mode).Orderly timed := by
  unfold TriggeredWorker.call
  dsimp only
  split
  · exact ⟨horderly.replays, horderly.guarded, horderly.fits, horderly.emptied⟩
  · exact ⟨horderly.replays.refuse _, horderly.guarded, horderly.fits, horderly.emptied⟩

theorem Orderly.send (horderly : worker.Orderly timed) (place : Nat) :
    (worker.send place).Orderly timed := by
  unfold TriggeredWorker.send
  split
  · exact horderly
  next call _ =>
    dsimp only
    split
    next hroom =>
      obtain ⟨hopen, hempty⟩ := Bool.and_eq_true_iff.mp hroom
      have hchannel : worker.channel = none := Option.isNone_iff_eq_none.mp hempty
      have hreplays := horderly.replays.accept call
      rw [hchannel, Option.toList_none, List.append_nil] at hreplays
      refine ⟨hreplays, horderly.guarded, horderly.fits, ?_⟩
      -- A worker that is gone has closed its channel, so nothing was sent to it.
      intro hexited
      rw [(horderly.emptied hexited).1] at hopen
      cases hopen
    next => exact ⟨horderly.replays.refuse _, horderly.guarded, horderly.fits, horderly.emptied⟩

theorem Orderly.receive (horderly : worker.Orderly timed) : worker.receive.Orderly timed := by
  have hreplays := horderly.replays
  have hguarded := horderly.guarded
  unfold TriggeredWorker.receive
  split
  next call hpoint hchannel =>
    rw [hpoint, hchannel] at hreplays
    rw [hpoint] at hguarded
    exact ⟨hreplays, hguarded, trivial, nofun⟩
  next hpoint hchannel =>
    split
    · exact horderly
    next hclosed =>
      rw [hpoint] at hreplays hguarded
      exact ⟨hreplays, hguarded, trivial, fun _ => ⟨by simpa using hclosed, hchannel⟩⟩
  · exact horderly

theorem Orderly.tick (horderly : worker.Orderly timed) : (worker.tick timed).Orderly timed := by
  have hreplays := horderly.replays
  have hguarded := horderly.guarded
  unfold TriggeredWorker.tick
  split
  next hpoint =>
    split
    next htimed =>
      rw [hpoint] at hreplays hguarded
      exact ⟨hreplays, hguarded, ⟨htimed, rfl⟩, nofun⟩
    · exact horderly
  · exact horderly

/-- A worker that claims the guard finds it free. -/
theorem Orderly.claim (horderly : worker.Orderly timed) : worker.claim.Orderly timed := by
  have hreplays := horderly.replays
  have hguarded := horderly.guarded
  have hfits := horderly.fits
  unfold TriggeredWorker.claim
  split
  next cause mode hpoint =>
    rw [hpoint] at hreplays hguarded hfits
    have hfree : worker.guard.tryAcquire = some ⟨true⟩ :=
      if_neg (by rw [hguarded]; exact Bool.false_ne_true)
    rw [hfree]
    refine ⟨?_, rfl, trivial, nofun⟩
    cases cause with
    | trigger number => exact hreplays.trigger ⟨number, mode⟩
    | tick =>
        obtain ⟨htimed, rfl⟩ := hfits
        exact hreplays.tick htimed
  · exact horderly

theorem Orderly.runCycle (horderly : worker.Orderly timed) (world : World) :
    (worker.runCycle setup reporter world).Orderly timed := by
  have hreplays := horderly.replays
  have hguarded := horderly.guarded
  unfold TriggeredWorker.runCycle
  split
  next mode hpoint =>
    rw [hpoint] at hreplays hguarded
    have hresult := worker.pipeline.cycle_ne_inProgress setup world reporter mode
    exact ⟨hreplays, hguarded, ⟨rfl, hresult⟩, nofun⟩
  · exact horderly

theorem Orderly.release (horderly : worker.Orderly timed) (now : Instant) :
    (worker.release reporter now).Orderly timed := by
  have hreplays := horderly.replays
  have hfits := horderly.fits
  unfold TriggeredWorker.release
  split
  next mode claimed result hpoint =>
    rw [hpoint] at hreplays hfits
    obtain ⟨rfl, hresult⟩ := hfits
    exact ⟨hreplays.finish result hresult, rfl, trivial, nofun⟩
  · exact horderly

/-- Each move keeps the worker's notes orderly. -/
theorem Orderly.step (horderly : worker.Orderly timed) (move : Move) :
    (worker.step setup reporter timed move).Orderly timed := by
  cases move with
  | call mode => exact horderly.call mode
  | send place => exact horderly.send place
  | receive => exact horderly.receive
  | tick => exact horderly.tick
  | claim => exact horderly.claim
  | run world => exact horderly.runCycle world
  | release now => exact horderly.release now
  | shutdown =>
      exact ⟨horderly.replays, horderly.guarded, horderly.fits, fun hexited =>
        ⟨rfl, (horderly.emptied hexited).2⟩⟩
  | meanwhile change =>
      exact ⟨horderly.replays, horderly.guarded, horderly.fits, horderly.emptied⟩

/-- So does every list of moves. -/
theorem Orderly.steps (horderly : worker.Orderly timed) (moves : List Move) :
    (worker.steps setup reporter timed moves).Orderly timed := by
  induction moves generalizing worker with
  | nil => exact horderly
  | cons move rest ih => exact ih (horderly.step move)

def known (worker : TriggeredWorker) : List TriggerCall :=
  answeredCalls worker.notes ++ worker.sending

/-- Calls have numbers of their own. -/
structure Numbered (worker : TriggeredWorker) : Prop where
  distinct : (worker.known.map TriggerCall.number).Nodup
  below : ∀ call ∈ worker.known, call.number < worker.calls

theorem Numbered.of_perm {after : TriggeredWorker} (hnumbered : worker.Numbered)
    (hknown : after.known.Perm worker.known) (hcalls : after.calls = worker.calls) :
    after.Numbered where
  distinct := (hknown.map _).nodup_iff.mpr hnumbered.distinct
  below call hmem := hcalls ▸ hnumbered.below call (hknown.mem_iff.mp hmem)

theorem Numbered.call (hnumbered : worker.Numbered) (mode : RunMode) :
    (worker.call mode).Numbered := by
  have hknown : (worker.call mode).known.Perm (⟨worker.calls, mode⟩ :: worker.known) ∧
      (worker.call mode).calls = worker.calls + 1 := by
    unfold TriggeredWorker.call
    dsimp only
    split
    · refine ⟨?_, rfl⟩
      rw [known, ← List.append_assoc]
      exact List.perm_append_singleton _ _
    · refine ⟨?_, rfl⟩
      simp only [known, note, answeredCalls_concat, WorkNote.answered?, Option.toList_some,
        List.append_assoc]
      exact List.perm_middle
  obtain ⟨hknown, hcalls⟩ := hknown
  have hfresh : worker.calls ∉ worker.known.map TriggerCall.number := by
    intro hmem
    obtain ⟨other, hother, hsame⟩ := List.mem_map.mp hmem
    exact Nat.lt_irrefl _ (hsame ▸ hnumbered.below other hother)
  constructor
  · rw [(hknown.map _).nodup_iff]
    exact List.nodup_cons.mpr ⟨hfresh, hnumbered.distinct⟩
  · intro other hmem
    rw [hcalls]
    rcases List.mem_cons.mp (hknown.mem_iff.mp hmem) with rfl | hmem
    · exact Nat.lt_succ_self _
    · exact (hnumbered.below other hmem).trans (Nat.lt_succ_self _)

/-- An answer moves a call, and nothing else, from those on their way to those answered. -/
theorem known_send (place : Nat) : (worker.send place).known.Perm worker.known := by
  unfold TriggeredWorker.send
  split
  · exact List.Perm.refl _
  next call hplace =>
    obtain ⟨hlength, rfl⟩ := List.getElem?_eq_some_iff.mp hplace
    have hsplit := List.getElem_cons_eraseIdx_perm hlength
    dsimp only
    split <;>
    · simp only [known, note, answeredCalls_concat, WorkNote.answered?, Option.toList_some,
        List.append_assoc]
      exact hsplit.append_left _

theorem Numbered.step (hnumbered : worker.Numbered) (move : Move) :
    (worker.step setup reporter timed move).Numbered := by
  cases move with
  | call mode => exact hnumbered.call mode
  | send place =>
      refine hnumbered.of_perm (known_send place) ?_
      simp only [TriggeredWorker.step, TriggeredWorker.send]
      split
      · rfl
      · split <;> rfl
  | receive =>
      simp only [TriggeredWorker.step, receive]
      split
      · exact ⟨hnumbered.distinct, hnumbered.below⟩
      · split
        · exact hnumbered
        · exact ⟨hnumbered.distinct, hnumbered.below⟩
      · exact hnumbered
  | tick =>
      simp only [TriggeredWorker.step, tick]
      split
      · split
        · exact ⟨hnumbered.distinct, hnumbered.below⟩
        · exact hnumbered
      · exact hnumbered
  | claim =>
      simp only [TriggeredWorker.step, claim]
      split
      · split <;>
          exact hnumbered.of_perm (by simp [known, note, WorkNote.answered?]) rfl
      · exact hnumbered
  | run world =>
      simp only [TriggeredWorker.step, TriggeredWorker.runCycle]
      split
      · exact ⟨hnumbered.distinct, hnumbered.below⟩
      · exact hnumbered
  | release now =>
      simp only [TriggeredWorker.step, release]
      split
      · exact hnumbered.of_perm (by simp [known, note, WorkNote.answered?]) rfl
      · exact hnumbered
  | shutdown => exact ⟨hnumbered.distinct, hnumbered.below⟩
  | meanwhile change => exact ⟨hnumbered.distinct, hnumbered.below⟩

/-- Calls keep their own numbers along every list of moves. -/
theorem Numbered.steps (hnumbered : worker.Numbered) (moves : List Move) :
    (worker.steps setup reporter timed moves).Numbered := by
  induction moves generalizing worker with
  | nil => exact hnumbered
  | cons move rest ih => exact ih (hnumbered.step move)

/-- The steps that a worker takes at most until it rests, if nothing comes in between. -/
def restingMoves (world : World) : List Move :=
  cycleMoves world ++ .receive :: cycleMoves world

variable (setup reporter timed worker) in
/-- The steps of a cycle leave nothing of it undone, and take nothing out of the channel. -/
theorem steps_cycleMoves_point (world : World) :
    let after := worker.steps setup reporter timed (cycleMoves world)
    after.channel = worker.channel ∧ (after.point = .waiting ∨ after.point = .exited) := by
  obtain ⟨pipeline, ⟨running⟩, channel, isOpen, point, sending, calls, notes⟩ := worker
  cases point with
  | waiting => exact ⟨rfl, .inl rfl⟩
  | received cause mode => cases running <;> exact ⟨rfl, .inl rfl⟩
  | running mode => exact ⟨rfl, .inl rfl⟩
  | finished mode claimed result => exact ⟨rfl, .inl rfl⟩
  | exited => exact ⟨rfl, .inr rfl⟩

/-- A worker that waits, or has left, does nothing with the moves of a cycle. -/
theorem steps_cycleMoves_idle (world : World) (hidle : worker.point = .waiting ∨
    worker.point = .exited) : worker.steps setup reporter timed (cycleMoves world) = worker := by
  rcases hidle with hpoint | hpoint <;>
    simp [TriggeredWorker.steps, cycleMoves, TriggeredWorker.step, claim,
      TriggeredWorker.runCycle, release, hpoint]

/-- A worker that is not in the middle of a cycle rests after the next one, if there is one. -/
theorem isAtRest_receive (world : World)
    (hpoint : worker.point = .waiting ∨ worker.point = .exited) :
    (worker.receive.steps setup reporter timed (cycleMoves world)).IsAtRest := by
  rcases hpoint with hwaiting | hexited
  · cases hchannel : worker.channel with
    | some call =>
        have hreceived : worker.receive.channel = none := by simp [receive, hwaiting, hchannel]
        obtain ⟨hempty, hafter⟩ := steps_cycleMoves_point setup reporter timed worker.receive
          world
        exact hafter.imp (⟨·, hempty.trans hreceived⟩) id
    | none =>
        cases hopen : worker.isOpen with
        | true =>
            have hsame : worker.receive = worker := by simp [receive, hwaiting, hchannel, hopen]
            rw [hsame, steps_cycleMoves_idle world (.inl hwaiting)]
            exact .inl ⟨hwaiting, hchannel⟩
        | false =>
            have hgone : worker.receive.point = .exited := by
              simp [receive, hwaiting, hchannel, hopen]
            rw [steps_cycleMoves_idle world (.inr hgone)]
            exact .inr hgone
  · have hsame : worker.receive = worker := by simp [receive, hexited]
    rw [hsame, steps_cycleMoves_idle world (.inr hexited)]
    exact .inr hexited

end TriggeredWorker

end SearchFeed
