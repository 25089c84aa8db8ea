import SearchFeed.Proofs.Batching
import SearchFeed.Proofs.Session
import SearchFeed.Reporter.Stream

/-! # The batches of a cycle, in the order in which they are sent

Going through items sends batches at three places: a batch that a document
displaces, a batch that a document fills, and what is left at the end. A
dispatch is a batch together with how far the cycle was when it was sent.
Whatever only a request can change is therefore read off the dispatches, and
each of them takes up where the one before it left off.
-/

namespace SearchFeed

/-- A batch that is sent, and how far the cycle is by then. -/
structure Dispatch (κ μ : Type) where
  batch : Batch κ
  before : Progress μ

namespace Stream

variable {α κ μ β : Type} (stream : Stream α κ μ) (limits : BatchLimits) (filter : ScopeFilter)
  (now : Instant)

def admits (item : α) : Bool :=
  filter.admits (stream.url item) (stream.hostInScope (stream.url item))

/-- Whether an item is sent, given what is remembered when its turn comes. -/
def chooses (item : α) (memory : μ) : Bool :=
  stream.admits filter item && stream.wanted item memory

def decided (item : α) (progress : Progress μ) : Progress μ :=
  { progress with
    session := progress.session.tell now
      (filter.decisionEvent (stream.url item) (stream.admits filter item)) }

def counted (item : α) (progress : Progress μ) : Progress μ :=
  { stream.decided filter now item progress with
    summary := { progress.summary with candidates := progress.summary.candidates + 1 } }

/-- An item is pushed and what is ready is flushed, or it is decided on only. -/
theorem take_eq (item : α) (pending : Batch κ) (progress : Progress μ) :
    stream.take limits filter now item (pending, progress) =
      if stream.chooses filter item progress.memory then
        ((pending.push limits (stream.key item) (stream.document item)).2,
          stream.flushAll (pending.push limits (stream.key item) (stream.document item)).1
            (stream.counted filter now item progress))
      else (pending, stream.decided filter now item progress) := by
  have hskip : (!stream.admits filter item || !stream.wanted item progress.memory) =
      !stream.chooses filter item progress.memory := (Bool.not_and _ _).symm
  change (if (!stream.admits filter item || !stream.wanted item progress.memory) = true then _
    else _) = _
  rw [hskip]
  cases stream.chooses filter item progress.memory <;> rfl

def runFrom (items : List α) (state : Batch κ × Progress μ) : Progress μ :=
  let reached := items.foldl (fun state item => stream.take limits filter now item state) state
  stream.flushAll reached.1.finish reached.2

theorem runFrom_cons (item : α) (rest : List α) (state : Batch κ × Progress μ) :
    stream.runFrom limits filter now (item :: rest) state =
      stream.runFrom limits filter now rest (stream.take limits filter now item state) := rfl

def dispatchesOf : List (Batch κ) → Progress μ → List (Dispatch κ μ)
  | [], _ => []
  | batch :: rest, progress => ⟨batch, progress⟩ :: dispatchesOf rest (stream.flush batch progress)

/-- The dispatches that an item brings about in its turn. -/
def dispatchesAt (item : α) (state : Batch κ × Progress μ) : List (Dispatch κ μ) :=
  if stream.chooses filter item state.2.memory then
    stream.dispatchesOf (state.1.push limits (stream.key item) (stream.document item)).1
      (stream.counted filter now item state.2)
  else []

/-- The dispatches of going on through items from a cycle that is under way. -/
def dispatches : List α → Batch κ × Progress μ → List (Dispatch κ μ)
  | [], state => stream.dispatchesOf state.1.finish state.2
  | item :: rest, state => stream.dispatchesAt limits filter now item state ++
      dispatches rest (stream.take limits filter now item state)

/-- The items that are sent, each decided upon in its turn. -/
def chosen : List α → Batch κ × Progress μ → List α
  | [], _ => []
  | item :: rest, state =>
    if stream.chooses filter item state.2.memory then
      item :: chosen rest (stream.take limits filter now item state)
    else chosen rest (stream.take limits filter now item state)

/-- Each ready batch is dispatched once, in order. -/
theorem dispatchesOf_batches (ready : List (Batch κ)) (progress : Progress μ) :
    (stream.dispatchesOf ready progress).map Dispatch.batch = ready := by
  induction ready generalizing progress with
  | nil => rfl
  | cons batch rest ih => rw [dispatchesOf, List.map_cons, ih]

theorem dispatchesOf_entries (ready : List (Batch κ)) (progress : Progress μ) :
    ((stream.dispatchesOf ready progress).flatMap fun dispatch => dispatch.batch.entries) =
      ready.flatMap Batch.entries := by
  conv_rhs => rw [← stream.dispatchesOf_batches ready progress]
  rw [List.flatMap_map]

/-- Batches that are flushed after others meet what those leave. -/
theorem dispatchesOf_append (ready more : List (Batch κ)) (progress : Progress μ) :
    stream.dispatchesOf (ready ++ more) progress =
      stream.dispatchesOf ready progress ++
        stream.dispatchesOf more (stream.flushAll ready progress) := by
  induction ready generalizing progress with
  | nil => rfl
  | cons batch rest ih => exact congrArg (List.cons _) (ih _)

/-- The batches of a cycle hold exactly the items that were chosen, in their order, after what was
pending. -/
theorem dispatches_entries (items : List α) (state : Batch κ × Progress μ) :
    ((stream.dispatches limits filter now items state).flatMap
      fun dispatch => dispatch.batch.entries) =
    state.1.entries ++ (stream.chosen limits filter now items state).map
      fun item => (stream.key item, stream.document item) := by
  induction items generalizing state with
  | nil => simp [dispatches, chosen, dispatchesOf_entries, Batch.finish_entries]
  | cons item rest ih =>
      -- What is pending is part of the statement, since a push moves entries between both sides.
      rw [dispatches, List.flatMap_append, ih, dispatchesAt, take_eq, chosen, take_eq]
      by_cases hchosen : stream.chooses filter item state.2.memory
      · rw [if_pos hchosen, if_pos hchosen, if_pos hchosen, dispatchesOf_entries,
          ← List.append_assoc, Batch.push_entries]
        simp
      · rw [if_neg hchosen, if_neg hchosen, if_neg hchosen]
        rfl

/-- The items that are sent are some of those in scope, in their order. -/
theorem chosen_sublist (items : List α) (state : Batch κ × Progress μ) :
    (stream.chosen limits filter now items state).Sublist
      (items.filter (stream.admits filter)) := by
  induction items generalizing state with
  | nil => exact List.Sublist.refl []
  | cons item rest ih =>
      rw [chosen]
      split
      next hchosen =>
        have hadmitted : stream.admits filter item = true := (Bool.and_eq_true_iff.mp hchosen).1
        rw [List.filter_cons_of_pos hadmitted]
        exact (ih _).cons_cons item
      next => exact (ih _).trans ((List.sublist_cons_self item rest).filter _)

/-- A cycle that chooses none of its items sends nothing, and only tells of its decisions. -/
theorem runFrom_idle (items : List α) (progress : Progress μ)
    (hidle : ∀ item ∈ items, stream.chooses filter item progress.memory = false) :
    stream.dispatches limits filter now items (Batch.empty, progress) = [] ∧
      ∃ logs, stream.runFrom limits filter now items (Batch.empty, progress) =
        { progress with session := { progress.session with logs } } := by
  induction items generalizing progress with
  | nil => exact ⟨rfl, progress.session.logs, rfl⟩
  | cons item rest ih =>
      have hskip := hidle item List.mem_cons_self
      -- Telling of the decision is all that this item does, so what is remembered stays the same.
      obtain ⟨told, htold⟩ := progress.session.tell_eq now
        (filter.decisionEvent (stream.url item) (stream.admits filter item))
      have htake : stream.take limits filter now item (Batch.empty, progress) =
          (Batch.empty, stream.decided filter now item progress) := by
        rw [take_eq, hskip]
        rfl
      obtain ⟨hnone, logs, hlogs⟩ := ih (stream.decided filter now item progress)
        (fun other hmem => hidle other (List.mem_cons_of_mem _ hmem))
      constructor
      · rw [dispatches, dispatchesAt, hskip, htake, hnone]
        rfl
      · refine ⟨logs, ?_⟩
        rw [runFrom_cons, htake, hlogs, decided, htold]

/-- A value that is handed on from dispatch to dispatch: each begins with the one that the last has
left, and changes it in its own way. -/
def Linked (read : Progress μ → β) (change : Dispatch κ μ → β → β) :
    β → List (Dispatch κ μ) → β → Prop
  | start, [], finish => start = finish
  | start, dispatch :: rest, finish =>
    read dispatch.before = start ∧ Linked read change (change dispatch start) rest finish

section Linking

variable {read : Progress μ → β} {change : Dispatch κ μ → β → β}

/-- Stretches of dispatches that follow on each other are linked as a whole. -/
theorem Linked.append {start middle finish : β} {first second : List (Dispatch κ μ)}
    (hfirst : Linked read change start first middle)
    (hsecond : Linked read change middle second finish) :
    Linked read change start (first ++ second) finish := by
  induction first generalizing start with
  | nil => exact hfirst ▸ hsecond
  | cons dispatch rest ih => exact ⟨hfirst.1, ih hfirst.2⟩

/-- What is read at the end follows from the dispatches alone. -/
theorem Linked.finish_eq {start finish : β} {sent : List (Dispatch κ μ)}
    (hlinked : Linked read change start sent finish) :
    finish = sent.foldl (fun value dispatch => change dispatch value) start := by
  induction sent generalizing start with
  | nil => exact hlinked.symm
  | cons dispatch rest ih => exact ih hlinked.2

/-- What no dispatch changes is the same at the end. -/
theorem Linked.unchanged {start finish : β} {sent : List (Dispatch κ μ)}
    (hlinked : Linked read (fun _ value => value) start sent finish) : finish = start :=
  hlinked.finish_eq.trans (List.foldl_fixed sent)

/-- A list that each dispatch adds an entry to gains one entry for each. -/
theorem Linked.entries_eq {γ : Type} {read : Progress μ → List γ} {entry : Dispatch κ μ → γ}
    {start finish : List γ} {sent : List (Dispatch κ μ)}
    (hlinked : Linked read (fun dispatch entries => entries ++ [entry dispatch]) start sent
      finish) : finish = start ++ sent.map entry := by
  rw [hlinked.finish_eq, List.foldl_append_eq_append, ← List.flatMap_def, ← List.map_eq_flatMap]

/-- What a dispatch begins with is what those before it have made of the start. -/
theorem Linked.before_eq {start finish : β} {earlier later : List (Dispatch κ μ)}
    {dispatch : Dispatch κ μ}
    (hlinked : Linked read change start (earlier ++ dispatch :: later) finish) :
    read dispatch.before = earlier.foldl (fun value dispatch => change dispatch value) start := by
  induction earlier generalizing start with
  | nil => exact hlinked.1
  | cons first rest ih => exact ih hlinked.2

/-- A value that nothing but a request changes. -/
structure Tracks (read : Progress μ → β) (change : Dispatch κ μ → β → β) : Prop where
  logs (progress : Progress μ) (logs : LogBuffer) :
    read { progress with session := { progress.session with logs } } = read progress
  candidates (progress : Progress μ) (candidates : Nat) :
    read { progress with summary := { progress.summary with candidates } } = read progress
  flush (batch : Batch κ) (progress : Progress μ) :
    read (stream.flush batch progress) = change ⟨batch, progress⟩ (read progress)

variable {stream}

theorem Tracks.decided (htracks : stream.Tracks read change) (item : α)
    (progress : Progress μ) : read (stream.decided filter now item progress) = read progress := by
  obtain ⟨logs, hlogs⟩ := progress.session.tell_eq now
    (filter.decisionEvent (stream.url item) (stream.admits filter item))
  rw [Stream.decided, hlogs, htracks.logs]

theorem Tracks.counted (htracks : stream.Tracks read change) (item : α)
    (progress : Progress μ) : read (stream.counted filter now item progress) = read progress := by
  rw [← htracks.decided filter now item progress]
  exact htracks.candidates _ _

/-- What is tracked changes with each flush as it should. -/
theorem Tracks.linked_dispatchesOf (htracks : stream.Tracks read change) (ready : List (Batch κ))
    (progress : Progress μ) :
    Linked read change (read progress) (stream.dispatchesOf ready progress)
      (read (stream.flushAll ready progress)) := by
  induction ready generalizing progress with
  | nil => rfl
  | cons batch rest ih =>
      refine ⟨rfl, ?_⟩
      rw [← htracks.flush]
      exact ih _

/-- What is tracked changes along the flushes of one item as it should. -/
theorem Tracks.linked_dispatchesAt (htracks : stream.Tracks read change) (item : α)
    (state : Batch κ × Progress μ) :
    Linked read change (read state.2) (stream.dispatchesAt limits filter now item state)
      (read (stream.take limits filter now item state).2) := by
  rw [take_eq, dispatchesAt]
  split
  · rw [← htracks.counted filter now item state.2]
    exact htracks.linked_dispatchesOf _ _
  · exact (htracks.decided filter now item state.2).symm

/-- Along a whole cycle, what only requests change is handed on from dispatch to dispatch. -/
theorem Tracks.linked (htracks : stream.Tracks read change) (items : List α)
    (state : Batch κ × Progress μ) :
    Linked read change (read state.2) (stream.dispatches limits filter now items state)
      (read (stream.runFrom limits filter now items state)) := by
  induction items generalizing state with
  | nil => exact htracks.linked_dispatchesOf _ _
  | cons item rest ih =>
      rw [runFrom_cons]
      exact (htracks.linked_dispatchesAt limits filter now item state).append (ih _)

end Linking

section Cycles

variable (source : DataSource) (memory : μ) (session : Session)

/-- A cycle that has read its items and not looked at any of them. -/
def opened (items : List α) : Progress μ :=
  ⟨session.noteFetch source, memory, { fetched := items.length }⟩

/-- A cycle is skipped, aborted because its items cannot be read, or goes through all of them. -/
theorem cycle_cases (stream : String → Stream α κ μ) (setup : Setup) (world : World)
    (fetched : Except SourceError (List α)) :
    (∃ reason, session.switches.preflight source = .error reason ∧
      cycle stream setup world source fetched memory session =
        (.ok (.skipped reason), memory, session)) ∨
    (∃ baseUrl error, session.switches.preflight source = .ok baseUrl ∧ fetched = .error error ∧
      cycle stream setup world source fetched memory session =
        (.error error, memory, session.noteFetch source)) ∨
    ∃ baseUrl items, session.switches.preflight source = .ok baseUrl ∧ fetched = .ok items ∧
      cycle stream setup world source fetched memory session =
        (let progress := (stream baseUrl).runFrom setup.limits session.switches.filter world.now
          items (Batch.empty, opened source memory session items)
         (.ok (.completed progress.summary), progress.memory, progress.session)) := by
  unfold cycle
  cases hpreflight : session.switches.preflight source with
  | error reason => exact .inl ⟨reason, rfl, rfl⟩
  | ok baseUrl =>
      cases fetched with
      | error error => exact .inr (.inl ⟨baseUrl, error, rfl, rfl, rfl⟩)
      | ok items => exact .inr (.inr ⟨baseUrl, items, rfl, rfl, rfl⟩)

end Cycles

end Stream

end SearchFeed
