import Mathlib.Logic.Function.Basic
import SearchFeed.Pipeline
import SearchFeed.Proofs.Lane

/-! # Work in steps, and its interleavings

What an activity does is a tree of steps, each of which makes at most one
request. An interleaving says which activity takes its next step and at which
moment. Steps of one activity leave what the others read as it is, and what a
step does to the lane of its own activity depends on that lane only. In the end
every activity has then done what it would have done by itself.
-/

namespace SearchFeed

/-- What goes on in an export at the same time, each sending to an index of its own. -/
inductive Activity where
  | sitemap
  | findings
  | settings
  | traffic
deriving DecidableEq

namespace Activity

def kind : Activity → IndexKind
  | .sitemap => .sitemap
  | .findings => .findings
  | .settings => .settings
  | .traffic => .traffic

/-- What of the memory of an export belongs to an activity. -/
def part : Activity → Memory → Memory
  | .sitemap, memory => { sitemap := memory.sitemap }
  | .findings, memory => { findings := memory.findings }
  | .settings, memory => { settings := memory.settings }
  | .traffic, _ => {}

theorem kind_injective : Function.Injective kind := by
  intro one two hsame
  cases one <;> cases two <;> first | rfl | cases hsame

theorem memory_ext {one two : Memory} (hparts : ∀ activity : Activity,
    activity.part one = activity.part two) : one = two := by
  obtain ⟨sitemap, findings, settings⟩ := one
  have hsitemap := congrArg Memory.sitemap (hparts .sitemap)
  have hfindings := congrArg Memory.findings (hparts .findings)
  have hsettings := congrArg Memory.settings (hparts .settings)
  simp only [part] at hsitemap hfindings hsettings
  rw [hsitemap, hfindings, hsettings]

end Activity

namespace Pipeline

def lane (setup : Setup) (activity : Activity) (pipeline : Pipeline) : Lane × Memory :=
  (pipeline.session.lane setup activity.kind, activity.part pipeline.memory)

/-- A step of an activity makes at most one request, to the index of the activity, and leaves what
belongs to others alone. -/
structure Confined (setup : Setup) (activity : Activity) (before after : Pipeline) : Prop where
  ledger : ∃ made, after.session.ledger = before.session.ledger ++ made ∧ made.length ≤ 1 ∧
    ∀ exchange ∈ made, exchange.request.index = setup.naming.name activity.kind
  counters : ∀ kind, kind ≠ activity.kind →
    after.session.stats.get kind = before.session.stats.get kind
  switches : after.session.switches = before.session.switches
  queue : activity ≠ .traffic → after.session.queue = before.session.queue
  memory : ∀ other, other ≠ activity → other.part after.memory = other.part before.memory

/-- Pipelines that differ at most in what belongs to some activities. -/
structure SameBut (setup : Setup) (touched : Activity → Prop) (before after : Pipeline) : Prop where
  lanes : ∀ kind, (∀ activity, touched activity → kind ≠ activity.kind) →
    before.session.lane setup kind = after.session.lane setup kind
  histories : ∀ index, (∀ activity, touched activity → index ≠ setup.naming.name activity.kind) →
    historyOf index before.session.ledger = historyOf index after.session.ledger
  memory : ∀ other, ¬touched other → other.part before.memory = other.part after.memory

variable {setup : Setup} {activity other : Activity} {touched : Activity → Prop}
  {before middle after : Pipeline}

theorem SameBut.refl (pipeline : Pipeline) : SameBut setup touched pipeline pipeline where
  lanes _ _ := rfl
  histories _ _ := rfl
  memory _ _ := rfl

theorem SameBut.trans (hfirst : SameBut setup touched before middle)
    (hsecond : SameBut setup touched middle after) : SameBut setup touched before after where
  lanes kind hkind := (hfirst.lanes kind hkind).trans (hsecond.lanes kind hkind)
  histories index hindex := (hfirst.histories index hindex).trans (hsecond.histories index hindex)
  memory other hother := (hfirst.memory other hother).trans (hsecond.memory other hother)

theorem SameBut.mono {wider : Activity → Prop} (hsame : SameBut setup touched before after)
    (hwider : ∀ activity, touched activity → wider activity) :
    SameBut setup wider before after where
  lanes kind hkind := hsame.lanes kind fun activity h => hkind activity (hwider activity h)
  histories index hindex :=
    hsame.histories index fun activity h => hindex activity (hwider activity h)
  memory other hother := hsame.memory other (mt (hwider other) hother)

/-- What was touched by others leaves a lane as it is. -/
theorem SameBut.lane (hsame : SameBut setup touched before after) (hother : ¬touched other) :
    before.lane setup other = after.lane setup other := by
  refine Prod.ext (hsame.lanes _ ?_) (hsame.memory other hother)
  intro activity htouched hkind
  obtain rfl := Activity.kind_injective hkind
  exact hother htouched

theorem Confined.sameBut (hconfined : Confined setup activity before after) :
    SameBut setup (· = activity) before after := by
  obtain ⟨made, hledger, -, hmade⟩ := hconfined.ledger
  have hhistories (index : String)
      (hindex : ∀ other, other = activity → index ≠ setup.naming.name other.kind) :
      historyOf index before.session.ledger = historyOf index after.session.ledger := by
    have hnone : exchangesWith index made = [] := by
      apply List.filter_eq_nil_iff.mpr
      intro exchange hmem
      rw [hmade exchange hmem]
      simpa using (hindex activity rfl).symm
    rw [hledger, historyOf, historyOf, exchangesWith_append, hnone, List.append_nil]
  refine ⟨?_, hhistories, fun other hother => (hconfined.memory other hother).symm⟩
  intro kind hkind
  have hhistory := hhistories _ fun other hother =>
    setup.naming.name_injective.ne (hkind other hother)
  have hqueue : kind = .traffic → after.session.queue = before.session.queue := by
    intro htraffic
    apply hconfined.queue
    rintro rfl
    exact hkind .traffic rfl htraffic
  simp only [Session.lane, hconfined.counters kind (hkind activity rfl), hconfined.switches,
    hhistory]
  split
  next htraffic => rw [hqueue htraffic]
  next => rfl

/-- Buffered log documents and what was read belong to no lane. -/
theorem Confined.aside (pipeline : Pipeline) (logs : LogBuffer) (fetches : List DataSource) :
    pipeline.Confined setup activity
      { pipeline with session := { pipeline.session with logs, fetches } } where
  ledger := ⟨[], (List.append_nil _).symm, Nat.zero_le 1, nofun⟩
  counters _ _ := rfl
  switches := rfl
  queue _ := rfl
  memory _ _ := rfl

theorem Confined.refl (pipeline : Pipeline) : pipeline.Confined setup activity pipeline :=
  .aside pipeline pipeline.session.logs pipeline.session.fetches

/-- Work of one request for the index of an activity is confined to it. -/
theorem Confined.of_stint {target : Target} {exchange : Exchange}
    (hstint : Session.Stint setup target before.session after.session [exchange])
    (hkind : target.kind = activity.kind)
    (hqueue : activity ≠ .traffic → after.session.queue = before.session.queue)
    (hmemory : ∀ other, other ≠ activity → other.part after.memory = other.part before.memory) :
    Confined setup activity before after where
  ledger := by
    refine ⟨[exchange], hstint.ledger, Nat.le_refl 1, ?_⟩
    intro made hmem
    rw [(hstint.requests made hmem).2.2, hkind]
  counters kind hother := hstint.others kind (hkind ▸ hother)
  switches := hstint.switches
  queue := hqueue
  memory := hmemory

/-- What waits for the traffic index belongs to traffic. -/
theorem Confined.enqueueFailed (hconfined : Confined setup .traffic before after) (now : Instant)
    (index : String) (documents : List Document) :
    Confined setup .traffic before
      { after with session := (after.session.enqueueFailed now index documents).2 } where
  ledger := by
    rw [Session.enqueueFailed_ledger]
    exact hconfined.ledger
  counters kind hkind := by
    rw [Session.enqueueFailed_stats]
    exact hconfined.counters kind hkind
  switches := by
    rw [Session.enqueueFailed_switches]
    exact hconfined.switches
  queue hactivity := absurd rfl hactivity
  memory := hconfined.memory

def told (pipeline : Pipeline) (now : Instant) (event : Event) : Pipeline :=
  { pipeline with session := pipeline.session.tell now event }

theorem Confined.told (now : Instant) (event : Event) (pipeline : Pipeline) :
    pipeline.Confined setup activity (pipeline.told now event) := by
  obtain ⟨logs, hlogs⟩ := pipeline.session.tell_eq now event
  rw [Pipeline.told, hlogs]
  exact .aside pipeline logs pipeline.session.fetches

theorem lane_told (pipeline : Pipeline) (now : Instant) (event : Event) :
    (pipeline.told now event).lane setup activity = pipeline.lane setup activity := by
  rw [lane, told, Session.lane_tell]
  rfl

end Pipeline

/-- Work that is done step by step. -/
inductive Work where
  | done
  | step (act : Moment → Pipeline → Pipeline) (next : Moment → Pipeline → Work)

namespace Work

variable (setup : Setup) (activity : Activity)

/-- Work by which an activity does the same to its lane, however the clock goes and whatever the
others do. -/
inductive Alike : Work → Work → Prop
  | done : Alike .done .done
  | step {act act' : Moment → Pipeline → Pipeline} {next next' : Moment → Pipeline → Work} :
      (∀ moment pipeline, Pipeline.Confined setup activity pipeline (act moment pipeline)) →
      (∀ moment moment' one two, moment.now.IsUsual → moment'.now.IsUsual →
        Pipeline.lane setup activity one = two.lane setup activity →
          (act moment one).lane setup activity = (act' moment' two).lane setup activity) →
      (∀ moment moment' one two, moment.now.IsUsual → moment'.now.IsUsual →
        Pipeline.lane setup activity one = two.lane setup activity →
          Alike (next moment one) (next' moment' two)) →
      Alike (.step act next) (.step act' next')

/-- Where work leads that nothing comes in between of. -/
inductive Ends : Work → Pipeline → Pipeline → Prop
  | done (pipeline : Pipeline) : Ends .done pipeline pipeline
  | step {act : Moment → Pipeline → Pipeline} {next : Moment → Pipeline → Work} (moment : Moment)
      {before after : Pipeline} : moment.now.IsUsual →
        Ends (next moment before) (act moment before) after → Ends (.step act next) before after

/-- Where work of an activity leads if others are at work before, between and after its steps. -/
inductive Reaches : Work → Pipeline → Pipeline → Prop
  | done {before after : Pipeline} : before.lane setup activity = after.lane setup activity →
      Reaches .done before after
  | step {act : Moment → Pipeline → Pipeline} {next : Moment → Pipeline → Work} (moment : Moment)
      {before middle after : Pipeline} :
      before.lane setup activity = middle.lane setup activity → moment.now.IsUsual →
        Reaches (next moment middle) (act moment middle) after →
          Reaches (.step act next) before after

variable {setup activity} {work work' : Work} {before after one two one' two' : Pipeline}

theorem Reaches.of_lane_before (hlane : one.lane setup activity = two.lane setup activity)
    (hreaches : Reaches setup activity work two after) : Reaches setup activity work one after := by
  cases hreaches with
  | done hsame => exact .done (hlane.trans hsame)
  | step moment hsame husual hrest => exact .step moment (hlane.trans hsame) husual hrest

theorem Reaches.of_lane_after (hreaches : Reaches setup activity work before one)
    (hlane : one.lane setup activity = two.lane setup activity) :
    Reaches setup activity work before two := by
  induction hreaches with
  | done hsame => exact .done (hsame.trans hlane)
  | step moment hsame husual _ ih => exact .step moment hsame husual (ih hlane)

/-- Work done without a break reaches its end. -/
theorem Ends.reaches (hends : Ends work before after) :
    Reaches setup activity work before after := by
  induction hends with
  | done pipeline => exact .done rfl
  | step moment husual _ ih => exact .step moment rfl husual ih

/-- Work that is alike leads to the same lane, whatever comes in between. -/
theorem Alike.reaches (halike : Alike setup activity work work')
    (hreaches : Reaches setup activity work one one')
    (hreaches' : Reaches setup activity work' two two')
    (hlane : one.lane setup activity = two.lane setup activity) :
    one'.lane setup activity = two'.lane setup activity := by
  induction halike generalizing one two with
  | done =>
      cases hreaches with
      | done hsame =>
          cases hreaches' with
          | done hsame' => exact hsame.symm.trans (hlane.trans hsame')
  | step _ hact _ ih =>
      cases hreaches with
      | step moment hsame husual hrest =>
          cases hreaches' with
          | step moment' hsame' husual' hrest' =>
              -- Others have been at work since the step before, so only the lanes agree here.
              have hmiddle := hsame.symm.trans (hlane.trans hsame')
              exact ih moment moment' _ _ husual husual' hmiddle hrest hrest'
                (hact moment moment' _ _ husual husual' hmiddle)

/-- The steps of an activity leave what belongs to others alone. -/
theorem Alike.sameBut (halike : Alike setup activity work work')
    (hends : Ends work before after) : Pipeline.SameBut setup (· = activity) before after := by
  induction halike generalizing before with
  | done =>
      cases hends with
      | done => exact .refl _
  | step hconfined _ _ ih =>
      cases hends with
      | step moment husual hrest =>
          exact (hconfined moment before).sameBut.trans
            (ih moment moment before before husual husual rfl hrest)

end Work

/-- Activities at work on one pipeline. -/
structure Bench where
  pipeline : Pipeline
  /-- What each activity still has to do. -/
  work : Activity → Work

namespace Bench

/-- An activity takes its next step, if it has not come to its end. -/
def turn (bench : Bench) (activity : Activity) (moment : Moment) : Bench :=
  match bench.work activity with
  | .done => bench
  | .step act next =>
    { pipeline := act moment bench.pipeline
      work := Function.update bench.work activity (next moment bench.pipeline) }

def run (bench : Bench) (schedule : List (Activity × Moment)) : Bench :=
  schedule.foldl (fun bench (activity, moment) => bench.turn activity moment) bench

def IsComplete (bench : Bench) : Prop := ∀ activity, bench.work activity = .done

variable {setup : Setup} {bench : Bench}

/-- What is left to do is work that is confined to its activity. -/
def IsApart (setup : Setup) (bench : Bench) : Prop :=
  ∀ activity, ∃ work', Work.Alike setup activity (bench.work activity) work'

theorem IsApart.turn (hapart : bench.IsApart setup) (activity : Activity) {moment : Moment}
    (husual : moment.now.IsUsual) : (bench.turn activity moment).IsApart setup := by
  obtain ⟨work', halike⟩ := hapart activity
  unfold Bench.turn
  split
  · exact hapart
  next act next hwork =>
    rw [hwork] at halike
    intro other
    dsimp only
    by_cases hother : other = activity
    · subst hother
      cases halike with
      | step _ _ hnext =>
          rw [Function.update_self]
          exact ⟨_, hnext moment moment bench.pipeline bench.pipeline husual husual rfl⟩
    · rw [Function.update_of_ne hother]
      exact hapart other

/-- A turn of one activity shows on no other, and is a step of its own work. -/
theorem turn_reaches (hapart : bench.IsApart setup) (activity other : Activity) {moment : Moment}
    (husual : moment.now.IsUsual) {after : Pipeline}
    (hreaches : Work.Reaches setup other ((bench.turn activity moment).work other)
      (bench.turn activity moment).pipeline after) :
    Work.Reaches setup other (bench.work other) bench.pipeline after := by
  obtain ⟨work', halike⟩ := hapart activity
  unfold turn at hreaches
  split at hreaches
  · exact hreaches
  next act next hwork =>
    rw [hwork] at halike
    dsimp only at hreaches
    by_cases hother : other = activity
    · subst hother
      rw [Function.update_self] at hreaches
      rw [hwork]
      exact .step moment rfl husual hreaches
    -- To another activity, this step is one that came before its own next step.
    · rw [Function.update_of_ne hother] at hreaches
      cases halike with
      | step hconfined _ _ =>
          exact hreaches.of_lane_before
            ((hconfined moment bench.pipeline).sameBut.lane hother)

/-- In a complete run, every activity does its work. -/
theorem run_reaches (hapart : bench.IsApart setup) (schedule : List (Activity × Moment))
    (husual : ∀ turn ∈ schedule, turn.2.now.IsUsual)
    (hcomplete : (bench.run schedule).IsComplete) (activity : Activity) :
    Work.Reaches setup activity (bench.work activity) bench.pipeline
      (bench.run schedule).pipeline := by
  induction schedule generalizing bench with
  | nil =>
      rw [show bench.work activity = .done from hcomplete activity]
      exact .done rfl
  | cons first rest ih =>
      obtain ⟨hfirst, hrest⟩ := List.forall_mem_cons.mp husual
      exact turn_reaches hapart first.1 activity hfirst (ih (hapart.turn first.1 hfirst) hrest
        hcomplete)

/-- A turn changes the lane of its own activity only. -/
theorem turn_sameBut (hapart : bench.IsApart setup) (activity : Activity) (moment : Moment) :
    Pipeline.SameBut setup (· = activity) bench.pipeline (bench.turn activity moment).pipeline := by
  obtain ⟨work', halike⟩ := hapart activity
  unfold turn
  split
  · exact .refl _
  next act next hwork =>
    rw [hwork] at halike
    cases halike with
    | step hconfined _ _ => exact (hconfined moment bench.pipeline).sameBut

/-- What belongs to no activity stays as it is. -/
theorem run_sameBut (hapart : bench.IsApart setup) (schedule : List (Activity × Moment))
    (husual : ∀ turn ∈ schedule, turn.2.now.IsUsual) :
    Pipeline.SameBut setup (fun _ => True) bench.pipeline (bench.run schedule).pipeline := by
  induction schedule generalizing bench with
  | nil => exact .refl _
  | cons first rest ih =>
      obtain ⟨hfirst, hrest⟩ := List.forall_mem_cons.mp husual
      exact ((turn_sameBut hapart first.1 first.2).mono fun _ _ => trivial).trans
        (ih (hapart.turn first.1 hfirst) hrest)

section Completing

variable (bench : Bench) (moment : Moment)

theorem run_append (first second : List (Activity × Moment)) :
    bench.run (first ++ second) = (bench.run first).run second := List.foldl_append

/-- An activity that is given enough turns comes to its end, and the others wait. -/
theorem exists_run_done (activity : Activity) : ∃ turns : List (Activity × Moment),
    (∀ turn ∈ turns, turn.2 = moment) ∧ (bench.run turns).work activity = .done ∧
      ∀ other, other ≠ activity → (bench.run turns).work other = bench.work other := by
  generalize hwork : bench.work activity = work
  induction work generalizing bench with
  | done => exact ⟨[], nofun, hwork, fun _ _ => rfl⟩
  | step act next ih =>
      have hturn : bench.turn activity moment =
          { pipeline := act moment bench.pipeline
            work := Function.update bench.work activity (next moment bench.pipeline) } := by
        simp only [turn, hwork]
      have hnext : (bench.turn activity moment).work activity = next moment bench.pipeline := by
        rw [hturn]
        exact Function.update_self ..
      obtain ⟨turns, hturns, hdone, hothers⟩ :=
        ih moment bench.pipeline (bench.turn activity moment) hnext
      refine ⟨(activity, moment) :: turns, List.forall_mem_cons.mpr ⟨rfl, hturns⟩, hdone, ?_⟩
      intro other hother
      refine (hothers other hother).trans ?_
      rw [hturn]
      exact Function.update_of_ne hother ..

/-- Every interleaving can be brought to its end. -/
theorem exists_run_complete : ∃ turns : List (Activity × Moment),
    (∀ turn ∈ turns, turn.2 = moment) ∧ (bench.run turns).IsComplete := by
  have hlist : ∀ activities : List Activity, ∃ turns : List (Activity × Moment),
      (∀ turn ∈ turns, turn.2 = moment) ∧
        ∀ activity ∈ activities, (bench.run turns).work activity = .done := by
    intro activities
    induction activities with
    | nil => exact ⟨[], nofun, nofun⟩
    | cons first rest ih =>
        obtain ⟨turns, hturns, hrest⟩ := ih
        obtain ⟨more, hmore, hfirst, hothers⟩ :=
          exists_run_done (bench.run turns) moment first
        refine ⟨turns ++ more, List.forall_mem_append.mpr ⟨hturns, hmore⟩, ?_⟩
        intro activity hmem
        rw [run_append]
        by_cases hactivity : activity = first
        · rw [hactivity, hfirst]
        · rw [hothers activity hactivity]
          exact hrest activity (List.mem_of_ne_of_mem hactivity hmem)
  obtain ⟨turns, hturns, hdone⟩ := hlist [.sitemap, .findings, .settings, .traffic]
  exact ⟨turns, hturns, fun activity => hdone activity (by cases activity <;> simp)⟩

end Completing

end Bench

end SearchFeed
