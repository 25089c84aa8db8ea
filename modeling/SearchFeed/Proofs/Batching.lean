import Mathlib.Algebra.GroupWithZero.Nat
import Mathlib.Algebra.Order.BigOperators.Group.List
import Mathlib.Algebra.Order.Group.Nat
import SearchFeed.Batch

/-! # Batching loses nothing and keeps to the limits

Documents that are pushed one after the other are handed back in batches, in
the order in which they came and each with its own key. A batch outgrows the
limit on bytes only if it holds a single document, and what stays pending is
always below both limits.
-/

namespace SearchFeed

namespace Batch

variable {κ : Type} (limits : BatchLimits) (pending : Batch κ) (key : κ) (document : Document)

def joined : Batch κ :=
  (if pending.overflows limits document then empty else pending).add key document

/-- A push hands back what the document displaces, and then the batch that it fills. -/
theorem push_eq : pending.push limits key document =
    if (pending.joined limits key document).isFull limits then
      ((if pending.overflows limits document then [pending] else []) ++
        [pending.joined limits key document], empty)
    else (if pending.overflows limits document then [pending] else [],
      pending.joined limits key document) := by
  unfold push joined
  by_cases hoverflow : pending.overflows limits document
  · simp [hoverflow]
  · simp [hoverflow]

/-- A document that joins the pending batch, or displaces it, comes after what was there. -/
theorem joined_entries :
    (if pending.overflows limits document then [pending] else []).flatMap entries ++
      (pending.joined limits key document).entries = pending.entries ++ [(key, document)] := by
  unfold joined
  split
  · simp [add, empty]
  · simp [add]

/-- A push loses nothing: closed batches and the pending one hold what was there and the document.
-/
theorem push_entries :
    (pending.push limits key document).1.flatMap entries ++
      (pending.push limits key document).2.entries = pending.entries ++ [(key, document)] := by
  rw [push_eq, ← joined_entries limits]
  split
  · simp [empty]
  · rfl

/-- What is pending at the end becomes the last batch, unless there is nothing. -/
theorem finish_entries : pending.finish.flatMap entries = pending.entries := by
  unfold finish
  split
  next hempty => simpa using (List.isEmpty_iff.mp hempty).symm
  next => simp

/-- Takes in documents one after the other. Gives the batches that were ready on the way, oldest
first, and the one that is pending afterwards. -/
def pushAll : Batch κ → List (κ × Document) → List (Batch κ) × Batch κ
  | pending, [] => ([], pending)
  | pending, (key, document) :: rest =>
    let (ready, next) := pending.push limits key document
    let (more, last) := pushAll next rest
    (ready ++ more, last)

/-- The batches that documents are handed back in: those ready on the way, and what is left. -/
def assembled (entries : List (κ × Document)) : List (Batch κ) :=
  let (ready, pending) := empty.pushAll limits entries
  ready ++ pending.finish

def estimated (documents : List Document) : Nat :=
  min (documents.map Json.estimate).sum greatestSize

/-- A batch that tells its size right and that a further document may join. -/
structure Open (batch : Batch κ) : Prop where
  bytes_eq : batch.bytes = estimated batch.documents
  size_lt : batch.size < limits.maxDocs
  bytes_lt : batch.bytes < limits.maxBytes

/-- A batch that tells its size right and keeps to the limits, unless its only document is too
large by itself. -/
structure Closed (batch : Batch κ) : Prop where
  entries_ne_nil : batch.entries ≠ []
  bytes_eq : batch.bytes = estimated batch.documents
  size_le : batch.size ≤ limits.maxDocs
  bytes_le : 2 ≤ batch.size → batch.bytes ≤ limits.maxBytes

section Sizes

/-- The size of a batch is kept up to date by adding the size of each document. -/
theorem addSizes_estimated (documents : List Document) :
    addSizes (estimated documents) document.estimate = estimated (documents ++ [document]) := by
  simp only [addSizes, estimated, List.map_append, List.sum_append, List.map_cons, List.map_nil,
    List.sum_cons, List.sum_nil]
  omega

@[simp] theorem documents_add :
    (pending.add key document).documents = pending.documents ++ [document] := by
  simp [documents, add]

theorem bytes_add (hbytes : pending.bytes = estimated pending.documents) :
    (pending.add key document).bytes = estimated (pending.add key document).documents := by
  rw [add, hbytes, addSizes_estimated, ← documents_add]
  rfl

@[simp] theorem size_add : (pending.add key document).size = pending.size + 1 := by
  simp [size, add]

theorem entries_ne_nil_of_overflows (hoverflow : pending.overflows limits document) :
    pending.entries ≠ [] := by
  simp only [overflows, Bool.and_eq_true, Bool.not_eq_true', List.isEmpty_eq_false_iff] at hoverflow
  exact hoverflow.1

end Sizes

section Limits

variable {limits pending}

/-- A batch is full once it has reached either limit. -/
theorem isFull_iff {batch : Batch κ} :
    batch.isFull limits ↔ limits.maxDocs ≤ batch.size ∨ limits.maxBytes ≤ batch.bytes := by
  simp [isFull]

/-- A batch begins open, as the limits are not zero. -/
theorem open_empty (hdocs : 1 ≤ limits.maxDocs) (hbytes : 1 ≤ limits.maxBytes) :
    (empty : Batch κ).Open limits where
  bytes_eq := (Nat.zero_min _).symm
  size_lt := hdocs
  bytes_lt := hbytes

/-- An open batch may be closed as soon as it holds something. -/
theorem Open.closed (hopen : pending.Open limits) (hsome : pending.entries ≠ []) :
    pending.Closed limits where
  entries_ne_nil := hsome
  bytes_eq := hopen.bytes_eq
  size_le := Nat.le_of_lt hopen.size_lt
  bytes_le _ := Nat.le_of_lt hopen.bytes_lt

/-- The batch that a document joins may be handed back, whether it displaces the pending one or
not. -/
theorem Open.joined (hdocs : 1 ≤ limits.maxDocs) (hopen : pending.Open limits) :
    (pending.joined limits key document).Closed limits := by
  unfold Batch.joined
  by_cases hoverflow : pending.overflows limits document
  · rw [if_pos hoverflow]
    refine ⟨by simp [add], bytes_add _ key document (Nat.zero_min _).symm, ?_, ?_⟩
    · simpa [size, empty, add] using hdocs
    · intro htwo
      simp [size, empty, add] at htwo
  · rw [if_neg hoverflow]
    refine ⟨by simp [add], bytes_add pending key document hopen.bytes_eq, ?_, ?_⟩
    · rw [size_add]
      exact hopen.size_lt
    · intro htwo
      -- With a document before it, the new one was compared with the limit when it came.
      have hsome : pending.entries ≠ [] := by
        rintro hnone
        simp [size, add, hnone] at htwo
      change addSizes pending.bytes document.estimate ≤ limits.maxBytes
      simpa [overflows, hsome] using hoverflow

theorem Closed.isOpen {batch : Batch κ} (hclosed : batch.Closed limits)
    (hroom : ¬batch.isFull limits) : batch.Open limits := by
  have hbelow := mt isFull_iff.mpr hroom
  rw [not_or, Nat.not_le, Nat.not_le] at hbelow
  exact ⟨hclosed.bytes_eq, hbelow.1, hbelow.2⟩

/-- A push hands back batches within the limits and leaves one pending that is open. -/
theorem Open.push (hdocs : 1 ≤ limits.maxDocs) (hbytes : 1 ≤ limits.maxBytes)
    (hopen : pending.Open limits) :
    (∀ batch ∈ (pending.push limits key document).1, batch.Closed limits) ∧
      (pending.push limits key document).2.Open limits := by
  have hjoined := hopen.joined key document hdocs
  have hdisplaced : ∀ batch ∈ (if pending.overflows limits document then [pending] else []),
      batch.Closed limits := by
    intro batch hmem
    split at hmem
    next hoverflow =>
      obtain rfl := List.mem_singleton.mp hmem
      exact hopen.closed (entries_ne_nil_of_overflows limits batch document hoverflow)
    next => exact absurd hmem List.not_mem_nil
  rw [push_eq]
  split
  next =>
    refine ⟨?_, open_empty hdocs hbytes⟩
    intro batch hmem
    rcases List.mem_append.mp hmem with hmem | hmem
    · exact hdisplaced batch hmem
    · exact List.mem_singleton.mp hmem ▸ hjoined
  next hroom => exact ⟨hdisplaced, hjoined.isOpen hroom⟩

/-- A push hands back at most what the document displaces and the document itself. The latter is
then alone in its batch and reaches the limit on bytes by itself. -/
theorem Open.push_two (hopen : pending.Open limits) {first second : Batch κ}
    (hpushed : (pending.push limits key document).1 = [first, second]) :
    second.entries = [(key, document)] ∧ limits.maxBytes ≤ document.estimate := by
  rw [push_eq] at hpushed
  by_cases hfull : (pending.joined limits key document).isFull limits
  · by_cases hoverflow : pending.overflows limits document
    · rw [if_pos hfull, if_pos hoverflow] at hpushed
      obtain ⟨-, rfl⟩ : pending = first ∧ pending.joined limits key document = second := by
        simpa using hpushed
      have hjoined : pending.joined limits key document = empty.add key document := by
        rw [Batch.joined, if_pos hoverflow]
      rw [hjoined] at hfull ⊢
      refine ⟨rfl, ?_⟩
      -- Something was pending below the limit on documents, so one document does not reach it.
      have hsome : 0 < pending.size :=
        List.length_pos_iff.mpr (entries_ne_nil_of_overflows limits pending document hoverflow)
      have hmany : ¬limits.maxDocs ≤ 1 := by
        have := hopen.size_lt
        omega
      have hlarge : limits.maxBytes ≤ addSizes 0 document.estimate :=
        (isFull_iff.mp hfull).resolve_left hmany
      simp only [addSizes] at hlarge
      omega
    · rw [if_pos hfull, if_neg hoverflow] at hpushed
      simp at hpushed
  · rw [if_neg hfull] at hpushed
    split at hpushed <;> simp at hpushed

/-- At most two batches are closed by one push: the displaced one and one that is full at once. -/
theorem length_push_le : (pending.push limits key document).1.length ≤ 2 := by
  rw [push_eq]
  split <;> split <;> simp

end Limits

section Sequences

variable (entries : List (κ × Document))

theorem pushAll_entries :
    (pending.pushAll limits entries).1.flatMap Batch.entries ++
      (pending.pushAll limits entries).2.entries = pending.entries ++ entries := by
  induction entries generalizing pending with
  | nil => simp [pushAll]
  | cons entry rest ih =>
      obtain ⟨key, document⟩ := entry
      have hrest := ih (pending.push limits key document).2
      rw [pushAll, List.flatMap_append, List.append_assoc, hrest, ← List.append_assoc,
        push_entries, List.append_assoc]
      rfl

/-- Pushing a list and then another one is pushing both. -/
theorem pushAll_append (more : List (κ × Document)) :
    pending.pushAll limits (entries ++ more) =
      ((pending.pushAll limits entries).1 ++
          ((pending.pushAll limits entries).2.pushAll limits more).1,
        ((pending.pushAll limits entries).2.pushAll limits more).2) := by
  induction entries generalizing pending with
  | nil => rfl
  | cons entry rest ih =>
      obtain ⟨key, document⟩ := entry
      simp only [List.cons_append, pushAll, ih, List.append_assoc]

/-- The batches hold all that was pushed, in its order, and nothing else. -/
theorem assembled_entries : (assembled limits entries).flatMap Batch.entries = entries := by
  rw [assembled, List.flatMap_append, finish_entries, pushAll_entries]
  rfl

variable {limits pending}

/-- However many documents are pushed, the limits are kept on the way and what is pending stays
open. -/
theorem Open.pushAll (hdocs : 1 ≤ limits.maxDocs) (hbytes : 1 ≤ limits.maxBytes)
    (hopen : pending.Open limits) :
    (∀ batch ∈ (pending.pushAll limits entries).1, batch.Closed limits) ∧
      (pending.pushAll limits entries).2.Open limits := by
  induction entries generalizing pending with
  | nil => exact ⟨fun _ hmem => absurd hmem List.not_mem_nil, hopen⟩
  | cons entry rest ih =>
      obtain ⟨key, document⟩ := entry
      obtain ⟨hready, hnext⟩ := hopen.push key document hdocs hbytes
      obtain ⟨hmore, hlast⟩ := ih hnext
      refine ⟨?_, hlast⟩
      intro batch hmem
      rcases List.mem_append.mp hmem with hmem | hmem
      · exact hready batch hmem
      · exact hmore batch hmem

/-- Every batch keeps the limits, as far as a single document does. -/
theorem closed_of_mem_assembled (hdocs : 1 ≤ limits.maxDocs) (hbytes : 1 ≤ limits.maxBytes)
    {batch : Batch κ} (hmem : batch ∈ assembled limits entries) : batch.Closed limits := by
  obtain ⟨hready, hpending⟩ := (open_empty hdocs hbytes).pushAll entries hdocs hbytes
  rcases List.mem_append.mp hmem with hmem | hmem
  · exact hready batch hmem
  · unfold finish at hmem
    split at hmem
    next => exact absurd hmem List.not_mem_nil
    next hsome =>
      obtain rfl := List.mem_singleton.mp hmem
      exact hpending.closed (by simpa using hsome)

theorem entries_sublist_of_mem_assembled {batch : Batch κ}
    (hmem : batch ∈ assembled limits entries) : batch.entries.Sublist entries := by
  have hpart := List.sublist_flatten_of_mem (List.mem_map_of_mem (f := Batch.entries) hmem)
  rwa [← List.flatMap_def, assembled_entries] at hpart

/-- Where all documents together stay below the greatest count, no batch reaches it. -/
theorem bytes_of_mem_assembled (hdocs : 1 ≤ limits.maxDocs) (hbytes : 1 ≤ limits.maxBytes)
    (htotal : (entries.map fun entry => entry.2.estimate).sum < 2 ^ 64) {batch : Batch κ}
    (hmem : batch ∈ assembled limits entries) :
    batch.bytes = (batch.documents.map Json.estimate).sum := by
  have hsum : (batch.documents.map Json.estimate).sum ≤
      (entries.map fun entry => entry.2.estimate).sum := by
    rw [documents, List.map_map]
    exact ((entries_sublist_of_mem_assembled entries hmem).map _).sum_le_sum
      fun _ _ => Nat.zero_le _
  rw [(closed_of_mem_assembled entries hdocs hbytes hmem).bytes_eq, estimated, greatestSize]
  omega

end Sequences

theorem zip_keys_documents (batch : Batch κ) :
    batch.keys.zip batch.documents = batch.entries :=
  (List.zip_of_prod rfl rfl).symm

/-- Documents that are pushed and finished come back in order and each with its own key, in batches
that are not empty, tell their size right and keep to the limits unless they hold a single document.
A push hands back at most two batches, the second of which is the new document by itself and as
large as a batch may be, and what is pending afterwards is below both limits. -/
theorem assembled_lossless (limits : BatchLimits) (hdocs : 1 ≤ limits.maxDocs)
    (hbytes : 1 ≤ limits.maxBytes) (entries : List (κ × Document)) :
    ((assembled limits entries).flatMap fun batch => batch.keys.zip batch.documents) = entries ∧
    (∀ batch ∈ assembled limits entries,
      batch.documents ≠ [] ∧ batch.keys.length = batch.documents.length ∧
      batch.documents.length ≤ limits.maxDocs ∧
      batch.bytes = min (batch.documents.map Json.estimate).sum greatestSize ∧
      (2 ≤ batch.documents.length → batch.bytes ≤ limits.maxBytes)) ∧
    ∀ earlier key document later, entries = earlier ++ (key, document) :: later →
      let before := empty.pushAll limits earlier
      let pushed := before.2.push limits key document
      empty.pushAll limits (earlier ++ [(key, document)]) = (before.1 ++ pushed.1, pushed.2) ∧
      pushed.1.length ≤ 2 ∧
      (∀ first second, pushed.1 = [first, second] → second.keys = [key] ∧
        second.documents = [document] ∧ limits.maxBytes ≤ document.estimate) ∧
      pushed.2.documents.length < limits.maxDocs ∧ pushed.2.bytes < limits.maxBytes := by
  have hlength (batch : Batch κ) : batch.documents.length = batch.size := List.length_map _
  refine ⟨?_, ?_, ?_⟩
  · simp only [zip_keys_documents]
    exact assembled_entries limits entries
  · intro batch hmem
    have hclosed := closed_of_mem_assembled entries hdocs hbytes hmem
    rw [hlength]
    exact ⟨by simpa [documents] using hclosed.entries_ne_nil, List.length_map _, hclosed.size_le,
      hclosed.bytes_eq, hclosed.bytes_le⟩
  · intro earlier key document later _ before pushed
    have hbefore : before.2.Open limits :=
      ((open_empty hdocs hbytes).pushAll earlier hdocs hbytes).2
    have hafter := (hbefore.push key document hdocs hbytes).2
    refine ⟨?_, length_push_le key document, ?_, ?_, hafter.bytes_lt⟩
    · rw [pushAll_append]
      simp [pushAll, before, pushed]
    · intro first second hpushed
      obtain ⟨hentries, hlarge⟩ := hbefore.push_two key document hpushed
      exact ⟨by rw [keys, hentries]; rfl, by rw [documents, hentries]; rfl, hlarge⟩
    · rw [hlength]
      exact hafter.size_lt

/-- A document that is too large by itself displaces the one before it, and both are handed back. -/
theorem assembled_lossless_oversized :
    let limits : BatchLimits := ⟨3, 30⟩
    let large : Document := .array [.int 1, .int 2]
    let entries := [("a", .null), ("b", large), ("c", .bool true)]
    1 ≤ limits.maxDocs ∧ 1 ≤ limits.maxBytes ∧
      ((assembled limits entries).flatMap fun batch => batch.keys.zip batch.documents) = entries ∧
      ∃ first second, ((empty.pushAll limits [("a", .null)]).2.push limits "b" large).1 =
        [first, second] ∧ second.documents = [large] ∧ limits.maxBytes ≤ large.estimate := by
  intro limits large entries
  obtain ⟨hsame, -, hpushes⟩ := assembled_lossless limits (by decide) (by decide) entries
  obtain ⟨-, -, htwo, -⟩ := hpushes [("a", .null)] "b" large [("c", .bool true)] rfl
  obtain ⟨-, hsecond, hlarge⟩ := htwo _ _ rfl
  exact ⟨by decide, by decide, hsame, _, _, rfl, hsecond, hlarge⟩

end Batch

end SearchFeed
