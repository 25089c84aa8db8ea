import SearchFeed.Proofs.Trigger

/-! # The cycles that a worker runs

What the moves of a worker do to the pipeline is a list of deeds: cycles in
their modes, what is told about them, and what other parts of the export do in
between. The deeds replay on the pipeline alone, and their cycles are those that
the notes of the worker have begun and ended.
-/

namespace SearchFeed

/-- What a move does to the pipeline. -/
inductive Deed where
  | cycle (mode : RunMode) (world : World)
  | tell (mode : RunMode) (result : CycleResult) (now : Instant)
  | other (change : Session → Session)

namespace Deed

variable (setup : Setup) (reporter : Reporter)

def apply (pipeline : Pipeline) : Deed → Pipeline
  | cycle mode world => (pipeline.cycle setup world reporter mode).2
  | tell mode result now =>
    pipeline.withSession (if reporter.writesToolIndex then pipeline.session
      else pipeline.session.tell now (reporter.cycleEvent mode result))
  | other change => pipeline.withSession (change pipeline.session)

def applyAll (deeds : List Deed) (pipeline : Pipeline) : Pipeline :=
  deeds.foldl (apply setup reporter) pipeline

/-- How a cycle ends, with its mode, if the deed is a cycle. -/
def outcome (pipeline : Pipeline) : Deed → List (RunMode × CycleResult)
  | cycle mode world => [(mode, (pipeline.cycle setup world reporter mode).1)]
  | tell _ _ _ => []
  | other _ => []

def outcomes : List Deed → Pipeline → List (RunMode × CycleResult)
  | [], _ => []
  | deed :: rest, pipeline =>
    deed.outcome setup reporter pipeline ++ outcomes rest (apply setup reporter pipeline deed)

def told : Deed → List (RunMode × CycleResult)
  | cycle _ _ => []
  | tell mode result _ => [(mode, result)]
  | other _ => []

theorem applyAll_append (first second : List Deed) (pipeline : Pipeline) :
    applyAll setup reporter (first ++ second) pipeline =
      applyAll setup reporter second (applyAll setup reporter first pipeline) :=
  List.foldl_append

/-- The outcomes of two lists of deeds are those of the first, and those of the second from where
the first left the pipeline. -/
theorem outcomes_append (first second : List Deed) (pipeline : Pipeline) :
    outcomes setup reporter (first ++ second) pipeline =
      outcomes setup reporter first pipeline ++
        outcomes setup reporter second (applyAll setup reporter first pipeline) := by
  induction first generalizing pipeline with
  | nil => rfl
  | cons deed rest ih =>
      rw [List.cons_append, outcomes, ih, outcomes, List.append_assoc]
      rfl

/-- A cycle under a free guard is the cycle, and telling about it. -/
theorem loggedCycle_eq_applyAll (world : World) (mode : RunMode) (pipeline : Pipeline) :
    (pipeline.loggedCycle setup world reporter mode {}).2.2 = applyAll setup reporter
      [.cycle mode world, .tell mode (pipeline.cycle setup world reporter mode).1 world.now]
      pipeline := by
  rw [Pipeline.loggedCycle_told, Pipeline.guardedCycle_free setup world pipeline reporter mode rfl]
  simp only [applyAll, List.foldl_cons, List.foldl_nil, apply]
  split <;> rfl

end Deed

namespace WorkPoint

/-- The mode of a cycle that has begun and is yet to run. -/
def ahead : WorkPoint → List RunMode
  | .running mode => [mode]
  | .waiting | .received _ _ | .finished _ _ _ | .exited => []

/-- How a cycle has ended that is yet to be told about. -/
def untold : WorkPoint → List (RunMode × CycleResult)
  | .finished mode _ result => [(mode, result)]
  | .waiting | .received _ _ | .running _ | .exited => []

/-- At most one cycle is begun and not yet run. -/
theorem length_ahead_le (point : WorkPoint) : point.ahead.length ≤ 1 := by
  cases point <;> simp [ahead]

end WorkPoint

namespace WorkNote

def begun? : WorkNote → Option RunMode
  | .began _ mode => some mode
  | _ => none

def ended? : WorkNote → Option CycleResult
  | .ended result => some result
  | _ => none

end WorkNote

def begunModes (notes : List WorkNote) : List RunMode := notes.filterMap WorkNote.begun?

def endedResults (notes : List WorkNote) : List CycleResult := notes.filterMap WorkNote.ended?

@[simp] theorem begunModes_concat (notes : List WorkNote) (note : WorkNote) :
    begunModes (notes ++ [note]) = begunModes notes ++ note.begun?.toList := by
  rw [begunModes, List.filterMap_append]
  cases hmode : note.begun? <;> simp [begunModes, hmode]

@[simp] theorem endedResults_concat (notes : List WorkNote) (note : WorkNote) :
    endedResults (notes ++ [note]) = endedResults notes ++ note.ended?.toList := by
  rw [endedResults, List.filterMap_append]
  cases hresult : note.ended? <;> simp [endedResults, hresult]

namespace TriggeredWorker

/-- What a move does to the pipeline, if anything. -/
def deed (worker : TriggeredWorker) : Move → List Deed
  | .run world =>
    match worker.point with
    | .running mode => [.cycle mode world]
    | _ => []
  | .release now =>
    match worker.point with
    | .finished mode _ result => [.tell mode result now]
    | _ => []
  | .meanwhile change => [.other change]
  | .call _ | .send _ | .receive | .tick | .claim | .shutdown => []

/-- What moves do to the pipeline, one after the other. -/
def deeds (setup : Setup) (reporter : Reporter) (timed : Bool) :
    List Move → TriggeredWorker → List Deed
  | [], _ => []
  | move :: rest, worker =>
    worker.deed move ++ deeds setup reporter timed rest (worker.step setup reporter timed move)

variable {setup : Setup} {reporter : Reporter} {timed : Bool} {worker : TriggeredWorker}
  {start : Pipeline} {done : List Deed}

/-- The pipeline is what deeds have made of it, and their cycles are those of the notes, except that
the last one may have begun without having run yet, or have run without having been told about. -/
structure Performs (setup : Setup) (reporter : Reporter) (start : Pipeline) (done : List Deed)
    (worker : TriggeredWorker) : Prop where
  pipeline_eq : worker.pipeline = Deed.applyAll setup reporter done start
  begun : begunModes worker.notes =
    (Deed.outcomes setup reporter done start).map Prod.fst ++ worker.point.ahead
  told : Deed.outcomes setup reporter done start = done.flatMap Deed.told ++ worker.point.untold
  ended : endedResults worker.notes = (done.flatMap Deed.told).map Prod.snd

/-- A move that has nothing to do with cycles changes nothing about them. -/
theorem Performs.of_still (hworker : worker.Performs setup reporter start done)
    {after : TriggeredWorker} (hpipeline : after.pipeline = worker.pipeline)
    (hbegun : begunModes after.notes = begunModes worker.notes)
    (hended : endedResults after.notes = endedResults worker.notes)
    (hahead : after.point.ahead = worker.point.ahead)
    (huntold : after.point.untold = worker.point.untold) :
    after.Performs setup reporter start done where
  pipeline_eq := hpipeline.trans hworker.pipeline_eq
  begun := by rw [hbegun, hahead, hworker.begun]
  told := by rw [huntold, ← hworker.told]
  ended := hended.trans hworker.ended

theorem Performs.call (hworker : worker.Performs setup reporter start done) (mode : RunMode) :
    (worker.call mode).Performs setup reporter start done := by
  unfold TriggeredWorker.call
  dsimp only
  split
  · exact hworker.of_still rfl rfl rfl rfl rfl
  · exact hworker.of_still rfl (by simp [note, WorkNote.begun?]) (by simp [note, WorkNote.ended?])
      rfl rfl

theorem Performs.send (hworker : worker.Performs setup reporter start done) (place : Nat) :
    (worker.send place).Performs setup reporter start done := by
  unfold TriggeredWorker.send
  split
  · exact hworker
  · dsimp only
    split <;>
      exact hworker.of_still rfl (by simp [note, WorkNote.begun?])
        (by simp [note, WorkNote.ended?]) rfl rfl

theorem Performs.receive (hworker : worker.Performs setup reporter start done) :
    worker.receive.Performs setup reporter start done := by
  unfold TriggeredWorker.receive
  split
  next hpoint _ => exact hworker.of_still rfl rfl rfl (by rw [hpoint]; rfl) (by rw [hpoint]; rfl)
  next hpoint _ =>
    split
    · exact hworker
    · exact hworker.of_still rfl rfl rfl (by rw [hpoint]; rfl) (by rw [hpoint]; rfl)
  · exact hworker

theorem Performs.tick (hworker : worker.Performs setup reporter start done) :
    (worker.tick timed).Performs setup reporter start done := by
  unfold TriggeredWorker.tick
  split
  next hpoint =>
    split
    · exact hworker.of_still rfl rfl rfl (by rw [hpoint]; rfl) (by rw [hpoint]; rfl)
    · exact hworker
  · exact hworker

/-- The guard is free where it is claimed, so each cycle that begins is ahead. -/
theorem Performs.claim (hworker : worker.Performs setup reporter start done)
    (horderly : worker.Orderly timed) : worker.claim.Performs setup reporter start done := by
  have hguarded := horderly.guarded
  unfold TriggeredWorker.claim
  split
  next cause mode hpoint =>
    rw [hpoint] at hguarded
    have hfree : worker.guard.tryAcquire = some ⟨true⟩ :=
      if_neg (by rw [hguarded]; exact Bool.false_ne_true)
    have hbegun := hworker.begun
    have htold := hworker.told
    rw [hpoint] at hbegun htold
    rw [hfree]
    exact ⟨hworker.pipeline_eq, by simpa [note, WorkNote.begun?, WorkPoint.ahead] using hbegun,
      htold, by simpa [note, WorkNote.ended?] using hworker.ended⟩
  · exact hworker

/-- A deed runs what is ahead, or tells what is untold, or has nothing to do with cycles. -/
theorem Performs.perform (hworker : worker.Performs setup reporter start done) (deed : Deed)
    {after : TriggeredWorker}
    (hpipeline : after.pipeline = deed.apply setup reporter worker.pipeline)
    (hbegun : begunModes after.notes = begunModes worker.notes)
    (hended : endedResults after.notes = endedResults worker.notes ++ deed.told.map Prod.snd)
    (hahead : worker.point.ahead =
      (deed.outcome setup reporter worker.pipeline).map Prod.fst ++ after.point.ahead)
    (huntold : worker.point.untold ++ deed.outcome setup reporter worker.pipeline =
      deed.told ++ after.point.untold) :
    after.Performs setup reporter start (done ++ [deed]) := by
  have houtcomes : Deed.outcomes setup reporter (done ++ [deed]) start =
      Deed.outcomes setup reporter done start ++
        deed.outcome setup reporter worker.pipeline := by
    rw [Deed.outcomes_append, ← hworker.pipeline_eq, Deed.outcomes, Deed.outcomes, List.append_nil]
  have hsaid : (done ++ [deed]).flatMap Deed.told = done.flatMap Deed.told ++ deed.told := by
    rw [List.flatMap_append, List.flatMap_singleton]
  refine ⟨?_, ?_, ?_, ?_⟩
  · rw [hpipeline, Deed.applyAll_append, ← hworker.pipeline_eq]
    rfl
  · rw [hbegun, hworker.begun, houtcomes, hahead, List.map_append, List.append_assoc]
  · rw [houtcomes, hsaid, hworker.told, List.append_assoc, huntold, ← List.append_assoc]
  · rw [hended, hsaid, hworker.ended, List.map_append]

theorem Performs.runCycle (hworker : worker.Performs setup reporter start done) (world : World) :
    (worker.runCycle setup reporter world).Performs setup reporter start
      (done ++ worker.deed (.run world)) := by
  cases hpoint : worker.point with
  | waiting | received _ _ | finished _ _ _ | exited =>
      simp only [TriggeredWorker.runCycle, deed, hpoint, List.append_nil]
      exact hworker
  | running mode =>
      simp only [TriggeredWorker.runCycle, deed, hpoint]
      exact hworker.perform (.cycle mode world) rfl rfl (List.append_nil _).symm
        (by rw [hpoint]; rfl) (by rw [hpoint]; rfl)

theorem Performs.release (hworker : worker.Performs setup reporter start done) (now : Instant) :
    (worker.release reporter now).Performs setup reporter start
      (done ++ worker.deed (.release now)) := by
  cases hpoint : worker.point with
  | waiting | received _ _ | running _ | exited =>
      simp only [TriggeredWorker.release, deed, hpoint, List.append_nil]
      exact hworker
  | finished mode claimed result =>
      simp only [TriggeredWorker.release, deed, hpoint]
      exact hworker.perform (.tell mode result now) rfl (by simp [note, WorkNote.begun?])
        (by simp [note, WorkNote.ended?, Deed.told]) (by rw [hpoint]; rfl) (by rw [hpoint]; rfl)

/-- The session is all that other parts of the export can change. -/
theorem Performs.meanwhile (hworker : worker.Performs setup reporter start done)
    (change : Session → Session) :
    ({ worker with pipeline := worker.pipeline.withSession (change worker.pipeline.session) } :
      TriggeredWorker).Performs setup reporter start (done ++ [.other change]) :=
  hworker.perform (.other change) rfl rfl (List.append_nil _).symm rfl (List.append_nil _)

/-- After one move the pipeline is that of the deeds so far. -/
theorem Performs.step (hworker : worker.Performs setup reporter start done)
    (horderly : worker.Orderly timed) (move : Move) :
    (worker.step setup reporter timed move).Performs setup reporter start
      (done ++ worker.deed move) := by
  cases move with
  | call mode => exact (List.append_nil done).symm ▸ hworker.call mode
  | send place => exact (List.append_nil done).symm ▸ hworker.send place
  | receive => exact (List.append_nil done).symm ▸ hworker.receive
  | tick => exact (List.append_nil done).symm ▸ hworker.tick
  | claim => exact (List.append_nil done).symm ▸ hworker.claim horderly
  | run world => exact hworker.runCycle world
  | release now => exact hworker.release now
  | shutdown => exact (List.append_nil done).symm ▸ hworker.of_still rfl rfl rfl rfl rfl
  | meanwhile change => exact hworker.meanwhile change

/-- After any moves the pipeline is that of all their deeds. -/
theorem Performs.steps (hworker : worker.Performs setup reporter start done)
    (horderly : worker.Orderly timed) (moves : List Move) :
    (worker.steps setup reporter timed moves).Performs setup reporter start
      (done ++ worker.deeds setup reporter timed moves) := by
  induction moves generalizing worker done with
  | nil =>
      rw [deeds, List.append_nil]
      exact hworker
  | cons move rest ih =>
      rw [deeds, ← List.append_assoc]
      exact ih (hworker.step horderly move) (horderly.step move)

variable (setup reporter timed)

/-- Whatever falls between the steps of a worker, an accepted call gets one cycle in its mode, in
its turn and after it was accepted. No other call gets one, and nothing but ticks begins any other
cycle. No two cycles are under way at once, and none is skipped because another one is. What the
moves do to the pipeline is to run the cycles that have begun, each once and in its mode, to tell
about them with their results, and to do what other parts of the export do. Without those, cycles
whose steps follow each other are cycles under the guard. -/
theorem accepted_triggers_run_once (pipeline : Pipeline) (moves : List Move) :
    let worker := ({ pipeline } : TriggeredWorker).steps setup reporter timed moves
    let done := ({ pipeline } : TriggeredWorker).deeds setup reporter timed moves
    let outcomes := Deed.outcomes setup reporter done pipeline
    (∀ past, past <+: worker.notes → triggeredCalls past <+: acceptedCalls past ∧
      past.countP WorkNote.isEnd ≤ past.countP WorkNote.isBegin ∧
      past.countP WorkNote.isBegin ≤ past.countP WorkNote.isEnd + 1) ∧
    (worker.IsAtRest → triggeredCalls worker.notes = acceptedCalls worker.notes) ∧
    (∀ world, (worker.steps setup reporter timed (restingMoves world)).IsAtRest) ∧
    ((answeredCalls worker.notes).map TriggerCall.number).Nodup ∧
    (∀ call mode, .answered call false ∈ worker.notes →
      .began (.trigger call.number) mode ∉ worker.notes) ∧
    (∀ mode, .began .tick mode ∈ worker.notes → timed = true ∧ mode = .incremental) ∧
    (∀ result, .ended result ∈ worker.notes → result ≠ .ok (.skipped .inProgress)) ∧
    worker.pipeline = Deed.applyAll setup reporter done pipeline ∧
    outcomes.map Prod.fst <+: begunModes worker.notes ∧
    (begunModes worker.notes).length ≤ outcomes.length + 1 ∧
    done.flatMap Deed.told <+: outcomes ∧
    endedResults worker.notes = (done.flatMap Deed.told).map Prod.snd ∧
    (worker.IsAtRest → outcomes.map Prod.fst = begunModes worker.notes ∧
      done.flatMap Deed.told = outcomes) ∧
    (∀ world cause mode, worker.point = .received cause mode →
      let logged := worker.pipeline.loggedCycle setup world reporter mode worker.guard
      worker.steps setup reporter timed (cycleMoves world) =
        { worker with
          pipeline := logged.2.2
          guard := logged.2.1
          point := .waiting
          notes := worker.notes ++ [.began cause mode, .ended logged.1] }) ∧
    ∀ world modes, (({ pipeline } : TriggeredWorker).steps setup reporter timed
      (modes.flatMap (turnMoves world))).pipeline =
        pipeline.cycles setup world reporter modes := by
  intro worker done outcomes
  have hstart : ({ pipeline } : TriggeredWorker).Orderly timed :=
    ⟨.start, rfl, trivial, nofun⟩
  have hfirst : ({ pipeline } : TriggeredWorker).Numbered := ⟨List.nodup_nil, nofun⟩
  have hnothing : ({ pipeline } : TriggeredWorker).Performs setup reporter pipeline [] :=
    ⟨rfl, rfl, rfl, rfl⟩
  have horderly : worker.Orderly timed := hstart.steps moves
  have hnumbered : worker.Numbered := hfirst.steps moves
  have hperforms : worker.Performs setup reporter pipeline done := hnothing.steps hstart moves
  have hanswered : ((answeredCalls worker.notes).map TriggerCall.number).Nodup :=
    hnumbered.distinct.sublist ((List.sublist_append_left _ _).map _)
  refine ⟨?_, ?_, ?_, hanswered, ?_, ?_, ?_, hperforms.pipeline_eq, ?_, ?_, ?_, hperforms.ended,
    ?_, ?_, ?_⟩
  · intro past hpast
    obtain ⟨owed, busy, hreplays⟩ := horderly.replays.of_prefix hpast
    have hbegins := hreplays.begins_eq
    have hbusy := busy.toNat_le
    refine ⟨hreplays.accepted_eq ▸ List.prefix_append _ _, ?_, ?_⟩
    · omega
    · omega
  · intro hrest
    have howed : worker.point.heard ++ worker.channel.toList = [] := by
      rcases hrest with ⟨hpoint, hchannel⟩ | hexited
      · rw [hpoint, hchannel]
        rfl
      · rw [hexited, (horderly.emptied hexited).2]
        rfl
    have haccepted := horderly.replays.accepted_eq
    rw [howed, List.append_nil] at haccepted
    exact haccepted.symm
  · intro world
    rw [restingMoves, steps_append]
    exact isAtRest_receive world (steps_cycleMoves_point setup reporter timed worker world).2
  · intro call mode hrefused hbegan
    have htriggered : ⟨call.number, mode⟩ ∈ triggeredCalls worker.notes :=
      List.mem_filterMap.mpr ⟨_, hbegan, rfl⟩
    have haccepted : ⟨call.number, mode⟩ ∈ acceptedCalls worker.notes := by
      rw [horderly.replays.accepted_eq]
      exact List.mem_append_left _ htriggered
    exact not_accepted_of_refused worker.notes hanswered hrefused haccepted rfl
  · intro mode hmem
    exact horderly.replays.fits _ hmem
  · intro result hmem
    exact horderly.replays.fits _ hmem
  · exact ⟨_, hperforms.begun.symm⟩
  · rw [hperforms.begun, List.length_append, List.length_map]
    exact Nat.add_le_add_left worker.point.length_ahead_le _
  · exact ⟨_, hperforms.told.symm⟩
  · intro hrest
    have hbegun := hperforms.begun
    have htold := hperforms.told
    have hpoint : worker.point.ahead = [] ∧ worker.point.untold = [] := by
      rcases hrest with ⟨hpoint, -⟩ | hpoint <;> rw [hpoint] <;> exact ⟨rfl, rfl⟩
    rw [hpoint.1, List.append_nil] at hbegun
    rw [hpoint.2, List.append_nil] at htold
    exact ⟨hbegun.symm, htold.symm⟩
  · intro world cause mode hpoint
    exact worker.steps_cycleMoves setup reporter timed world hpoint
  · intro world modes
    exact steps_turnMoves setup reporter timed world modes pipeline 0 []

/-- A call gets in while the worker has taken the mode of another one out and not yet claimed the
guard; the channel is closed before either has its cycle. Both cycles are run, and only the one over
everything has an item to send. -/
theorem accepted_triggers_run_once_shutdown :
    let entry : SitemapEntry := ⟨"http://a.test/", "GET", none, none, none⟩
    let setup : Setup := { naming := ⟨"a"⟩ }
    let world := World.rehearsed ⟨[], .succeed⟩ { sitemap := .ok [entry] }
    let pipeline : Pipeline := { session := .fresh (.ofCapacity 0) }
    let moves : List Move :=
      [.call .pushAll, .call .incremental, .send 0, .receive, .send 0, .shutdown] ++
        restingMoves world
    let worker := ({ pipeline } : TriggeredWorker).steps setup .sitemap false moves
    worker.IsAtRest ∧ triggeredCalls worker.notes = [⟨0, .pushAll⟩, ⟨1, .incremental⟩] ∧
      worker.pipeline = pipeline.cycles setup world .sitemap [.pushAll, .incremental] ∧
      endedResults worker.notes =
        [.ok (.completed ⟨1, 1, 1, 1, 0, 0⟩), .ok (.completed ⟨1, 0, 0, 0, 0, 0⟩)] := by
  intro entry setup world pipeline moves worker
  let first := pipeline.cycle setup world .sitemap .pushAll
  let between := (pipeline.loggedCycle setup world .sitemap .pushAll {}).2.2
  let second := between.cycle setup world .sitemap .incremental
  have hfirst : first.1 = .ok (.completed ⟨1, 1, 1, 1, 0, 0⟩) := by
    dsimp only [first, entry, setup, world, pipeline]
    decide +kernel
  have hsecond : second.1 = .ok (.completed ⟨1, 0, 0, 0, 0, 0⟩) := by
    dsimp only [second, between, first, entry, setup, world, pipeline]
    decide +kernel
  have hdone : ({ pipeline } : TriggeredWorker).deeds setup .sitemap false moves =
      [.cycle .pushAll world, .tell .pushAll first.1 world.now, .cycle .incremental world,
        .tell .incremental second.1 world.now] := by
    simp [first, second, between, Deed.loggedCycle_eq_applyAll, Deed.applyAll, Deed.apply, moves,
      deeds, deed, step, call, send, receive, restingMoves, cycleMoves, claim, runCycle, release,
      note, Guard.takesTrigger, Guard.tryAcquire, Guard.release]
  have hcycles : Deed.applyAll setup .sitemap
      [.cycle .pushAll world, .tell .pushAll first.1 world.now, .cycle .incremental world,
        .tell .incremental second.1 world.now] pipeline =
      pipeline.cycles setup world .sitemap [.pushAll, .incremental] := by
    simp only [Pipeline.cycles, List.foldl_cons, List.foldl_nil, Deed.loggedCycle_eq_applyAll,
      Deed.applyAll, first, second, between]
  obtain ⟨-, -, hresting, -⟩ := accepted_triggers_run_once setup .sitemap false pipeline
    [.call .pushAll, .call .incremental, .send 0, .receive, .send 0, .shutdown]
  have hrest : worker.IsAtRest := by
    simp only [worker, moves]
    rw [steps_append]
    exact hresting world
  obtain ⟨-, haccepted, -, -, -, -, -, hpipeline, -, -, -, hended, -⟩ :=
    accepted_triggers_run_once setup .sitemap false pipeline moves
  have htriggered := haccepted hrest
  rw [hdone] at hpipeline hended
  refine ⟨hrest, htriggered.trans ?_, hpipeline.trans hcycles, hended.trans ?_⟩
  · simp [moves, steps, step, call, send, receive, restingMoves, cycleMoves, claim, runCycle,
      release, note, Guard.takesTrigger, Guard.tryAcquire, Guard.release, acceptedCalls,
      WorkNote.accepted?]
  · simp [Deed.told, hfirst, hsecond]

end TriggeredWorker

end SearchFeed
