import SearchFeed.Proofs.Dispatch
import SearchFeed.Proofs.Work

/-! # Going through items step by step

The decision about an item is a step, and so is the sending of a batch. Steps
that follow each other make up a cycle. What they do to the lane of their
activity is the same whenever they are taken, if that is so for single batches.
-/

namespace SearchFeed

/-- Where in the memory of an export a reporter keeps what it remembers. -/
structure Slot (μ : Type) where
  get : Memory → μ
  put : μ → Memory → Memory

namespace Slot

variable {μ : Type}

/-- A slot that belongs to an activity. -/
structure Of (slot : Slot μ) (activity : Activity) : Prop where
  get_put (value : μ) (memory : Memory) : slot.get (slot.put value memory) = value
  put_get (memory : Memory) : slot.put (slot.get memory) memory = memory
  put_put (value other : μ) (memory : Memory) :
    slot.put value (slot.put other memory) = slot.put value memory
  get_part {memory memory' : Memory} : activity.part memory = activity.part memory' →
    slot.get memory = slot.get memory'
  part_put {memory memory' : Memory} (value : μ) : activity.part memory = activity.part memory' →
    activity.part (slot.put value memory) = activity.part (slot.put value memory')
  part_other (value : μ) (memory : Memory) (other : Activity) : other ≠ activity →
    other.part (slot.put value memory) = other.part memory

def load (slot : Slot μ) (summary : CycleSummary) (pipeline : Pipeline) : Progress μ :=
  ⟨pipeline.session, slot.get pipeline.memory, summary⟩

/-- A pipeline in which a cycle has come so far. -/
def store (slot : Slot μ) (memory : Memory) (progress : Progress μ) : Pipeline :=
  ⟨progress.session, slot.put progress.memory memory⟩

variable {slot : Slot μ} {activity : Activity}

theorem Of.load_store (hslot : slot.Of activity) (memory : Memory) (progress : Progress μ) :
    slot.load progress.summary (slot.store memory progress) = progress := by
  simp only [store, load, hslot.get_put]

theorem Of.store_store (hslot : slot.Of activity) (memory : Memory)
    (progress later : Progress μ) :
    slot.store (slot.store memory progress).memory later = slot.store memory later := by
  simp only [store, hslot.put_put]

end Slot

namespace Stream

variable {α κ μ : Type} (stream : Moment → Stream α κ μ) (slot : Slot μ)

/-- Sends batches, one in each step. -/
def flushWork : List (Batch κ) → CycleSummary → (CycleSummary → Work) → Work
  | [], summary, after => after summary
  | batch :: rest, summary, after =>
    .step
      (fun moment pipeline => slot.store pipeline.memory
        ((stream moment).flush batch (slot.load summary pipeline)))
      fun moment pipeline => flushWork rest
        ((stream moment).flush batch (slot.load summary pipeline)).summary after

/-- Goes through items, with a step for each of them and for each batch. -/
def itemsWork (limits : BatchLimits) (filter : ScopeFilter) (after : CycleSummary → Work) :
    List α → Batch κ → CycleSummary → Work
  | [], pending, summary => flushWork stream slot pending.finish summary after
  | item :: rest, pending, summary =>
    .step
      (fun moment pipeline => slot.store pipeline.memory
        ((stream moment).decided filter moment.now item (slot.load summary pipeline)))
      fun moment pipeline =>
        if (stream moment).chooses filter item (slot.get pipeline.memory) then
          let (ready, pending) :=
            pending.push limits ((stream moment).key item) ((stream moment).document item)
          flushWork stream slot ready { summary with candidates := summary.candidates + 1 }
            (itemsWork limits filter after rest pending)
        else itemsWork limits filter after rest pending summary

/-- A cycle of a reporter that goes through fetched items, in steps. -/
def cycleWork (stream : String → Moment → Stream α κ μ) (slot : Slot μ) (setup : Setup)
    (source : DataSource) (fetched : Except SourceError (List α)) (after : CycleResult → Work) :
    Work :=
  .step
    (fun _ pipeline => match pipeline.session.switches.preflight source with
      | .error _ => pipeline
      | .ok _ => { pipeline with session := pipeline.session.noteFetch source })
    fun _ pipeline => match pipeline.session.switches.preflight source with
      | .error reason => after (.ok (.skipped reason))
      | .ok baseUrl => match fetched with
        | .error error => after (.error error)
        | .ok items => itemsWork (stream baseUrl) slot setup.limits
          pipeline.session.switches.filter (fun summary => after (.ok (.completed summary)))
          items Batch.empty { fetched := items.length }

section Ending

variable {stream slot} {activity : Activity} (hslot : slot.Of activity) {moment : Moment}
  (husual : moment.now.IsUsual) {finish : Pipeline}
include hslot husual

/-- Flushing batch by batch, with others in between, ends where flushing them all does. -/
theorem ends_flushWork (memory : Memory) (ready : List (Batch κ)) (progress : Progress μ)
    {after : CycleSummary → Work}
    (hends : Work.Ends (after ((stream moment).flushAll ready progress).summary)
      (slot.store memory ((stream moment).flushAll ready progress)) finish) :
    Work.Ends (flushWork stream slot ready progress.summary after) (slot.store memory progress)
      finish := by
  induction ready generalizing progress with
  | nil => exact hends
  | cons batch rest ih =>
      refine .step moment husual ?_
      rw [hslot.load_store, hslot.store_store]
      exact ih _ hends

/-- Taking items one by one, with others in between, ends where the whole run of the stream does. -/
theorem ends_itemsWork (limits : BatchLimits) (filter : ScopeFilter) (memory : Memory)
    (items : List α) (pending : Batch κ) (progress : Progress μ) {after : CycleSummary → Work}
    (hends : Work.Ends
      (after ((stream moment).runFrom limits filter moment.now items (pending, progress)).summary)
      (slot.store memory
        ((stream moment).runFrom limits filter moment.now items (pending, progress))) finish) :
    Work.Ends (itemsWork stream slot limits filter after items pending progress.summary)
      (slot.store memory progress) finish := by
  induction items generalizing pending progress with
  | nil => exact ends_flushWork hslot husual memory pending.finish progress hends
  | cons item rest ih =>
      have hmemory : slot.get (slot.store memory progress).memory = progress.memory :=
        hslot.get_put _ _
      rw [runFrom_cons, take_eq] at hends
      refine .step moment husual ?_
      -- Each step loads the cycle so far from the pipeline that the step before has stored it in.
      dsimp only
      rw [hslot.load_store, hslot.store_store, hmemory]
      split
      next hchosen =>
        rw [if_pos hchosen] at hends
        exact ends_flushWork hslot husual memory _
          ((stream moment).counted filter moment.now item progress) (ih _ _ hends)
      next hchosen =>
        rw [if_neg hchosen] at hends
        exact ih pending ((stream moment).decided filter moment.now item progress) hends

/-- A cycle whose steps follow each other. -/
theorem ends_cycleWork (stream : String → Moment → Stream α κ μ) (setup : Setup) (world : World)
    (source : DataSource) (fetched : Except SourceError (List α)) (pipeline : Pipeline)
    {after : CycleResult → Work} {result : CycleResult} {memory : μ} {session : Session}
    (hresult : cycle (fun baseUrl => stream baseUrl moment) setup (world.atMoment moment) source
      fetched (slot.get pipeline.memory) pipeline.session = (result, memory, session))
    (hends : Work.Ends (after result) ⟨session, slot.put memory pipeline.memory⟩ finish) :
    Work.Ends (cycleWork stream slot setup source fetched after) pipeline finish := by
  refine .step moment husual ?_
  rcases cycle_cases source (slot.get pipeline.memory) pipeline.session
      (fun baseUrl => stream baseUrl moment) setup (world.atMoment moment) fetched with
    ⟨reason, hblocked, hcycle⟩ | ⟨baseUrl, error, hready, hfetched, hcycle⟩ |
      ⟨baseUrl, items, hready, hfetched, hcycle⟩
  · cases hcycle.symm.trans hresult
    rw [hslot.put_get] at hends
    rw [hblocked]
    exact hends
  · cases hcycle.symm.trans hresult
    rw [hslot.put_get] at hends
    rw [hready, hfetched]
    exact hends
  · cases hcycle.symm.trans hresult
    have hopened : slot.store pipeline.memory
        (opened source (slot.get pipeline.memory) pipeline.session items) =
          { pipeline with session := pipeline.session.noteFetch source } := by
      rw [Slot.store, opened, hslot.put_get]
    rw [hready, hfetched]
    dsimp only
    rw [← hopened]
    exact ends_itemsWork hslot husual setup.limits pipeline.session.switches.filter
      pipeline.memory items Batch.empty
      (opened source (slot.get pipeline.memory) pipeline.session items) hends

end Ending

/-- A reporter whose documents and requests are the same at all times, but for clock values. -/
structure Steady (setup : Setup) (activity : Activity) (slot : Slot μ)
    (stream : Moment → Stream α κ μ) : Prop where
  key (moment moment' : Moment) : (stream moment).key = (stream moment').key
  chooses (moment moment' : Moment) : (stream moment).chooses = (stream moment').chooses
  document {moment moment' : Moment} (item : α) : moment.now.IsUsual → moment'.now.IsUsual →
    ((stream moment).document item).masked = ((stream moment').document item).masked
  confined (moment : Moment) (batch : Batch κ) (summary : CycleSummary) (pipeline : Pipeline) :
    pipeline.Confined setup activity (slot.store pipeline.memory
      ((stream moment).flush batch (slot.load summary pipeline)))
  flush (moment moment' : Moment) {batch batch' : Batch κ} (summary : CycleSummary)
    {one two : Pipeline} : batch.masked = batch'.masked →
    one.lane setup activity = two.lane setup activity →
      let flushed := (stream moment).flush batch (slot.load summary one)
      let flushed' := (stream moment').flush batch' (slot.load summary two)
      flushed.summary = flushed'.summary ∧
        (slot.store one.memory flushed).lane setup activity =
          (slot.store two.memory flushed').lane setup activity

section Steadiness

variable {stream slot} {setup : Setup} {activity : Activity}
  (hsteady : Steady setup activity slot stream)
include hsteady

theorem alike_flushWork {ready ready' : List (Batch κ)}
    (hready : ready.map Batch.masked = ready'.map Batch.masked) (summary : CycleSummary)
    {after after' : CycleSummary → Work}
    (halike : ∀ summary, Work.Alike setup activity (after summary) (after' summary)) :
    Work.Alike setup activity (flushWork stream slot ready summary after)
      (flushWork stream slot ready' summary after') := by
  induction ready generalizing ready' summary with
  | nil =>
      obtain rfl := List.map_eq_nil_iff.mp hready.symm
      exact halike summary
  | cons batch rest ih =>
      obtain ⟨batch', rest', rfl, hbatch, hrest⟩ := List.map_eq_cons_iff.mp hready.symm
      refine .step ?_ ?_ ?_
      · exact fun moment pipeline => hsteady.confined moment batch summary pipeline
      · exact fun moment moment' one two _ _ hlane =>
          (hsteady.flush moment moment' summary hbatch.symm hlane).2
      · intro moment moment' one two _ _ hlane
        rw [(hsteady.flush moment moment' summary hbatch.symm hlane).1]
        exact ih hrest.symm _

theorem alike_itemsWork (hslot : slot.Of activity) (limits : BatchLimits) (filter : ScopeFilter)
    (items : List α) {pending pending' : Batch κ} (hpending : pending.masked = pending'.masked)
    (summary : CycleSummary) {after after' : CycleSummary → Work}
    (halike : ∀ summary, Work.Alike setup activity (after summary) (after' summary)) :
    Work.Alike setup activity (itemsWork stream slot limits filter after items pending summary)
      (itemsWork stream slot limits filter after' items pending' summary) := by
  induction items generalizing pending pending' summary with
  | nil =>
      apply alike_flushWork hsteady _ summary halike
      rw [← Batch.masked_finish, ← Batch.masked_finish, hpending]
  | cons item rest ih =>
      have hdecided (moment : Moment) (pipeline : Pipeline) :
          slot.store pipeline.memory
            ((stream moment).decided filter moment.now item (slot.load summary pipeline)) =
          pipeline.told moment.now (filter.decisionEvent ((stream moment).url item)
            ((stream moment).admits filter item)) := by
        simp only [Slot.store, decided, Slot.load, hslot.put_get]
        rfl
      refine .step ?_ ?_ ?_
      · intro moment pipeline
        rw [hdecided]
        exact .told moment.now _ pipeline
      · intro moment moment' one two _ _ hlane
        rw [hdecided, hdecided, Pipeline.lane_told, Pipeline.lane_told, hlane]
      · intro moment moment' one two husual husual' hlane
        have hmemory := hslot.get_part (congrArg Prod.snd hlane)
        have hdocument := hsteady.document item husual husual'
        have hpushed := pending.masked_push limits ((stream moment).key item)
          ((stream moment).document item)
        rw [hpending, hdocument, hsteady.key moment moment', pending'.masked_push] at hpushed
        obtain ⟨hready, hgrown⟩ := Prod.mk.inj hpushed
        rw [hsteady.chooses moment moment', hmemory, hsteady.key moment moment']
        split
        · exact alike_flushWork hsteady hready.symm _ (ih hgrown.symm)
        · exact ih hpending summary

omit hsteady in
/-- A cycle's work does the same to two machines that are alike in the lane of its activity. -/
theorem alike_cycleWork {stream : String → Moment → Stream α κ μ}
    (hsteady : ∀ baseUrl, Steady setup activity slot (stream baseUrl)) (hslot : slot.Of activity)
    (source : DataSource) (fetched : Except SourceError (List α))
    {after after' : CycleResult → Work}
    (halike : ∀ result, Work.Alike setup activity (after result) (after' result)) :
    Work.Alike setup activity (cycleWork stream slot setup source fetched after)
      (cycleWork stream slot setup source fetched after') := by
  refine .step ?_ ?_ ?_
  · intro moment pipeline
    split
    · exact .refl pipeline
    · exact .aside pipeline pipeline.session.logs (source :: pipeline.session.fetches)
  · intro moment moment' one two _ _ hlane
    have hswitches : one.session.switches = two.session.switches :=
      congrArg (Lane.switches ∘ Prod.fst) hlane
    rw [hswitches]
    split
    · exact hlane
    · exact hlane
  · intro moment moment' one two _ _ hlane
    have hswitches : one.session.switches = two.session.switches :=
      congrArg (Lane.switches ∘ Prod.fst) hlane
    rw [hswitches]
    split
    · exact halike _
    next baseUrl _ =>
      split
      · exact halike _
      next items =>
        exact alike_itemsWork (hsteady baseUrl) hslot setup.limits two.session.switches.filter items
          rfl _ fun _ => halike _

end Steadiness

end Stream

end SearchFeed
