import SearchFeed.Proofs.Activities

/-! # Activities do not get in each other's way

The activities of an export share the statistics, the retry queue and the
cluster. Still, if the cluster answers by index, then any interleaving of their
requests gives each index the requests that it gets when the activities take
turns, and leaves behind what they leave behind then.
-/

namespace SearchFeed

inductive TrafficTask where
  | record (message : TrafficRecord) (hostInScope : Bool)
  /-- A cycle over the messages that are recorded by then. -/
  | history (sources : Sources) (mode : RunMode)

namespace TrafficTask

/-- The world that a task meets. -/
def worldIn (world : World) : TrafficTask → World
  | .record _ _ => world
  | .history sources _ => { world with sources }

def operation : TrafficTask → Operation
  | .record message hostInScope => .record message hostInScope
  | .history _ mode => .cycle .proxyHistory mode {}

def work (setup : Setup) (world : World) (task : TrafficTask) (next : Work) : Work :=
  match task with
  | .record message hostInScope => .record setup world message hostInScope next
  | .history sources mode => .history setup { world with sources } mode next

end TrafficTask

/-- What each activity is to do. -/
structure Plan where
  world : World
  sitemapMode : RunMode
  findingsMode : RunMode
  settingsMode : RunMode
  tasks : List TrafficTask

namespace Plan

variable (plan : Plan) (setup : Setup)

/-- What an activity does, step by step. -/
def work : Activity → Work
  | .sitemap => .keyed setup plan.world SitemapEntry .sitemap .sitemap plan.sitemapMode
  | .findings => .keyed setup plan.world Finding .findings .findings plan.findingsMode
  | .settings => .settings setup plan.world plan.settingsMode
  | .traffic => plan.tasks.foldr (TrafficTask.work setup plan.world) .done

/-- What an activity does, operation by operation. -/
def operations (moments : Nat → Moment) : Activity → List (World × Operation)
  | .sitemap => [(plan.world.atMoment (moments 0), .cycle .sitemap plan.sitemapMode {})]
  | .findings => [(plan.world.atMoment (moments 0), .cycle .findings plan.findingsMode {})]
  | .settings => [(plan.world.atMoment (moments 0), .cycle .settings plan.settingsMode {})]
  | .traffic => plan.tasks.mapIdx fun index task =>
    ((task.worldIn plan.world).atMoment (moments index), task.operation)

/-- The activities before any of them has begun. -/
def bench (start : Pipeline) : Bench := ⟨start, plan.work setup⟩

def inTurn (moments : Activity → Nat → Moment) (order : List Activity) (start : Pipeline) :
    Pipeline :=
  order.foldl (fun pipeline activity =>
    pipeline.performAll setup (plan.operations (moments activity) activity)) start

end Plan

namespace TrafficTask

variable {setup : Setup} {world : World}

/-- A traffic task does the same to the traffic lane of two machines that look alike there. -/
theorem alike_work (hlocal : world.cluster.IsLocal) (task : TrafficTask) {next next' : Work}
    (hnext : Work.Alike setup .traffic next next') :
    Work.Alike setup .traffic (task.work setup world next) (task.work setup world next') := by
  cases task with
  | record message hostInScope => exact Work.alike_record hlocal message hostInScope hnext
  | history sources mode =>
      have hlocal' : { world with sources }.cluster.IsLocal := hlocal
      exact Work.alike_history hlocal' mode hnext

/-- The pipeline a task's work ends with is the one its operation, done alone, gives. -/
theorem ends_work {moment : Moment} (husual : moment.now.IsUsual) (task : TrafficTask)
    (pipeline : Pipeline) {next : Work} {finish : Pipeline}
    (hends : Work.Ends next
      (pipeline.perform setup ((task.worldIn world).atMoment moment) task.operation).2 finish) :
    Work.Ends (task.work setup world next) pipeline finish := by
  cases task with
  | record message hostInScope => exact Work.ends_record husual pipeline message hostInScope hends
  | history sources mode => exact Work.ends_history husual pipeline mode hends

end TrafficTask

namespace Plan

variable (plan : Plan) (setup : Setup)

/-- An activity does the same to its lane, whatever the others do. -/
theorem work_alike (hlocal : plan.world.cluster.IsLocal) (activity : Activity) :
    Work.Alike setup activity (plan.work setup activity) (plan.work setup activity) := by
  cases activity with
  | sitemap =>
      exact Work.alike_keyed hlocal SitemapEntry Slot.sitemap_of rfl masked_sitemapEntry .sitemap
        plan.sitemapMode
  | findings =>
      exact Work.alike_keyed hlocal Finding Slot.findings_of rfl masked_finding .findings
        plan.findingsMode
  | settings => exact Work.alike_settings hlocal plan.settingsMode
  | traffic =>
      unfold work
      induction plan.tasks with
      | nil => exact .done
      | cons task rest ih => exact task.alike_work hlocal ih

/-- The steps of an activity, with nothing in between, come to what its operations do. -/
theorem work_ends {moments : Nat → Moment} (husual : ∀ index, (moments index).now.IsUsual)
    (pipeline : Pipeline) (activity : Activity) :
    Work.Ends (plan.work setup activity) pipeline
      (pipeline.performAll setup (plan.operations moments activity)) := by
  cases activity with
  | sitemap =>
      exact Work.ends_keyed (husual 0) pipeline plan.sitemapMode SitemapEntry Slot.sitemap_of rfl
        rfl
  | findings =>
      exact Work.ends_keyed (husual 0) pipeline plan.findingsMode Finding Slot.findings_of rfl rfl
  | settings => exact Work.ends_settings (husual 0) pipeline plan.settingsMode
  | traffic =>
      unfold work operations
      induction plan.tasks generalizing pipeline moments with
      | nil => exact .done _
      | cons task rest ih =>
          rw [List.mapIdx_cons]
          exact task.ends_work (husual 0) pipeline (ih (fun index => husual (index + 1)) _)

section Turns

variable {plan} (hlocal : plan.world.cluster.IsLocal) {moments : Activity → Nat → Moment}
  (husual : ∀ activity index, (moments activity index).now.IsUsual)
include hlocal husual

/-- An activity that takes its turn leaves what belongs to others alone. -/
theorem operations_sameBut (pipeline : Pipeline) (activity : Activity) :
    Pipeline.SameBut setup (· = activity) pipeline
      (pipeline.performAll setup (plan.operations (moments activity) activity)) :=
  (plan.work_alike setup hlocal activity).sameBut
    (plan.work_ends setup (husual activity) pipeline activity)

/-- Activities done in turn change only their own lanes. -/
theorem inTurn_sameBut (order : List Activity) (pipeline : Pipeline) :
    Pipeline.SameBut setup (· ∈ order) pipeline
      (plan.inTurn setup moments order pipeline) := by
  induction order generalizing pipeline with
  | nil => exact .refl _
  | cons first rest ih =>
      refine .trans ((operations_sameBut setup hlocal husual pipeline first).mono ?_)
        ((ih _).mono ?_)
      · rintro activity rfl
        exact List.mem_cons_self
      · exact fun activity hmem => List.mem_cons_of_mem first hmem

/-- An activity that has one turn does its work in it. -/
theorem inTurn_reaches {order : List Activity} (honce : order.Nodup) (pipeline : Pipeline)
    {activity : Activity} (hmem : activity ∈ order) :
    Work.Reaches setup activity (plan.work setup activity) pipeline
      (plan.inTurn setup moments order pipeline) := by
  induction order generalizing pipeline with
  | nil => cases hmem
  | cons first rest ih =>
      obtain ⟨hfirst, hrest⟩ := List.nodup_cons.mp honce
      by_cases hactivity : activity = first
      · subst hactivity
        -- All that comes after its turn is work of others, which its lane does not show.
        have hends := plan.work_ends setup (husual activity) pipeline activity
        exact hends.reaches.of_lane_after
          ((inTurn_sameBut setup hlocal husual rest _).lane hfirst)
      · have hothers := (operations_sameBut setup hlocal husual pipeline first).lane hactivity
        exact (ih hrest _ (List.mem_of_ne_of_mem hactivity hmem)).of_lane_before hothers

end Turns

end Plan

/-- Pipelines that hold the same, but for clock values and durations: the requests to each index and
their replies, what the reporters remember, the retry queue and the counters. -/
structure Pipeline.Agrees (one two : Pipeline) : Prop where
  memory : one.memory = two.memory
  queue : one.session.queue.masked = two.session.queue.masked
  history (index : String) :
    historyOf index one.session.ledger = historyOf index two.session.ledger
  success (kind : IndexKind) :
    (one.session.stats.get kind).success = (two.session.stats.get kind).success
  failure (kind : IndexKind) :
    (one.session.stats.get kind).failure = (two.session.stats.get kind).failure
  lastError (kind : IndexKind) :
    (one.session.stats.get kind).lastError = (two.session.stats.get kind).lastError

/-- Two pipelines reached from one start agree once they agree on every lane. -/
theorem Pipeline.agrees_of_lanes {setup : Setup} {start one two : Pipeline}
    (hone : SameBut setup (fun _ => True) start one)
    (htwo : SameBut setup (fun _ => True) start two)
    (hlanes : ∀ activity, one.lane setup activity = two.lane setup activity) :
    one.Agrees two := by
  have hkinds (kind : IndexKind) : one.session.lane setup kind = two.session.lane setup kind := by
    by_cases howned : ∃ activity : Activity, kind = activity.kind
    · obtain ⟨activity, rfl⟩ := howned
      exact congrArg Prod.fst (hlanes activity)
    · have hapart (activity : Activity) (_ : True) : kind ≠ activity.kind :=
        fun hkind => howned ⟨activity, hkind⟩
      exact (hone.lanes kind hapart).symm.trans (htwo.lanes kind hapart)
  have hhistories (index : String) :
      historyOf index one.session.ledger = historyOf index two.session.ledger := by
    by_cases howned : ∃ activity : Activity, index = setup.naming.name activity.kind
    · obtain ⟨activity, rfl⟩ := howned
      exact congrArg Lane.history (hkinds activity.kind)
    · have hapart (activity : Activity) (_ : True) : index ≠ setup.naming.name activity.kind :=
        fun hindex => howned ⟨activity, hindex⟩
      exact (hone.histories index hapart).symm.trans (htwo.histories index hapart)
  exact {
    memory := Activity.memory_ext fun activity => congrArg Prod.snd (hlanes activity)
    queue := congrArg Lane.queue (hkinds .traffic)
    history := hhistories
    success := fun kind => congrArg Lane.success (hkinds kind)
    failure := fun kind => congrArg Lane.failure (hkinds kind)
    lastError := fun kind => congrArg Lane.lastError (hkinds kind) }

namespace Plan

/-- If a cluster answers by index, then the activities may take their steps in any order, and stop
anywhere for the others to go on: their work can always be brought to its end, and when it is, the
outcome is that of the activities one after the other, in whatever order. -/
theorem interleavings_agree (plan : Plan) (setup : Setup) (start : Pipeline)
    (hlocal : plan.world.cluster.IsLocal) (schedule : List (Activity × Moment))
    (hschedule : ∀ turn ∈ schedule, turn.2.now.IsUsual) (order : List Activity)
    (horder : order.Perm [.sitemap, .findings, .settings, .traffic])
    (moments : Activity → Nat → Moment)
    (hmoments : ∀ activity index, (moments activity index).now.IsUsual) :
    let mixed := (plan.bench setup start).run schedule
    (∃ turns : List (Activity × Moment), (∀ turn ∈ turns, turn.2.now.IsUsual) ∧
      (mixed.run turns).IsComplete) ∧
    (mixed.IsComplete →
      mixed.pipeline.Agrees (plan.inTurn setup moments order start)) := by
  intro mixed
  have hapart : (plan.bench setup start).IsApart setup :=
    fun activity => ⟨_, plan.work_alike setup hlocal activity⟩
  constructor
  · obtain ⟨turns, hturns, hcomplete⟩ := mixed.exists_run_complete (moments .sitemap 0)
    refine ⟨turns, fun turn hmem => ?_, hcomplete⟩
    rw [hturns turn hmem]
    exact hmoments .sitemap 0
  · intro hcomplete
    have honce : order.Nodup := horder.nodup_iff.mpr (by decide)
    apply Pipeline.agrees_of_lanes (Bench.run_sameBut hapart schedule hschedule)
      ((inTurn_sameBut setup hlocal hmoments order start).mono fun _ _ => trivial)
    intro activity
    have hmem : activity ∈ order := horder.mem_iff.mpr (by cases activity <;> decide)
    exact (plan.work_alike setup hlocal activity).reaches
      (Bench.run_reaches hapart schedule hschedule hcomplete activity)
      (inTurn_reaches setup hlocal hmoments honce start hmem) rfl

/-- A cluster that refuses the first document for each index, and a live message between the steps
of a cycle of the site map. -/
theorem interleavings_agree_refused_first :
    let record : TrafficRecord :=
      ⟨1, "http://a.test/", "GET", "a.test", 80, false, "proxy", none, .null, .null, []⟩
    let entry : SitemapEntry := ⟨"http://a.test/", "GET", none, none, none⟩
    let cluster : Cluster := .perIndex
      (fun _ past => .ok ⟨0, if past.isEmpty then [0] else [], none⟩)
      (fun index past => if past.isEmpty then .error (.rejected index "busy") else .ok ())
    let world : World := ⟨{ sitemap := .ok [entry] }, cluster, ⟨0⟩, 0⟩
    let tasks : List TrafficTask :=
      [.record record true, .record record true, .history {} .incremental]
    let plan : Plan := ⟨world, .incremental, .incremental, .incremental, tasks⟩
    let setup : Setup := { naming := ⟨"a"⟩ }
    let start : Pipeline := { session := Session.fresh (.ofCapacity 1) }
    let schedule : List (Activity × Moment) :=
      [(.sitemap, ⟨⟨1000⟩, 5⟩), (.traffic, ⟨⟨2000⟩, 7⟩), (.sitemap, ⟨⟨3000⟩, 9⟩)]
    let order : List Activity := [.traffic, .settings, .findings, .sitemap]
    let apart := plan.inTurn setup (fun _ _ => ⟨⟨0⟩, 1⟩) order start
    (apart.session.stats.get .traffic).failure = 1 ∧
      (apart.session.stats.get .traffic).success = 1 ∧ ∃ turns,
        ((plan.bench setup start).run (schedule ++ turns)).IsComplete ∧
          ((plan.bench setup start).run (schedule ++ turns)).pipeline.Agrees apart := by
  intro record entry cluster world tasks plan setup start schedule order apart
  have hlocal : cluster.IsLocal := Cluster.perIndex_isLocal
    (fun _ past => .ok ⟨0, if past.isEmpty then [0] else [], none⟩)
    (fun index past => if past.isEmpty then .error (.rejected index "busy") else .ok ())
  have hschedule : ∀ turn ∈ schedule, turn.2.now.IsUsual := by
    simp [schedule, Instant.IsUsual]
  have horder : order.Perm [.sitemap, .findings, .settings, .traffic] := by decide
  have hmoments (activity : Activity) (index : Nat) : (⟨0⟩ : Instant).IsUsual := by
    simp [Instant.IsUsual]
  refine ⟨?_, ?_, ?_⟩
  · dsimp only [record, entry, cluster, world, tasks, plan, setup, start, order, apart]
    rfl
  · dsimp only [record, entry, cluster, world, tasks, plan, setup, start, order, apart]
    rfl
  · obtain ⟨⟨turns, hturns, hcomplete⟩, -⟩ := interleavings_agree plan setup start hlocal schedule
      hschedule order horder (fun _ _ => ⟨⟨0⟩, 1⟩) hmoments
    rw [← Bench.run_append] at hcomplete
    have hagree := (interleavings_agree plan setup start hlocal (schedule ++ turns)
      (List.forall_mem_append.mpr ⟨hschedule, hturns⟩) order horder (fun _ _ => ⟨⟨0⟩, 1⟩)
      hmoments).2
    exact ⟨turns, hcomplete, hagree hcomplete⟩

end Plan

end SearchFeed
