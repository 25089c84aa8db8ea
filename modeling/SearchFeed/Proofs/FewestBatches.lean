import SearchFeed.Proofs.Batching

/-! # No other cut makes fewer batches

A batch is handed back only when the next document could not have joined it. So
while the documents of any group within the limits are pushed, one batch more at
most is handed back or left pending, and no cut into such groups has fewer of
them than there are batches.
-/

namespace SearchFeed

theorem Json.estimate_pos (document : Document) : 0 < document.estimate := by
  cases document <;> simp only [estimate, quotedSize] <;> omega

namespace BatchLimits

/-- Documents are within the limits: there are not too many, and unless there is only one they are
not too large together. -/
def Admits (limits : BatchLimits) (documents : List Document) : Prop :=
  documents.length ≤ limits.maxDocs ∧
    (documents.length ≤ 1 ∨ (documents.map Json.estimate).sum ≤ limits.maxBytes)

/-- Groups that documents can be cut into: they follow each other, none is empty, and each is within
the limits. -/
structure Cuts (limits : BatchLimits) (documents : List Document)
    (groups : List (List Document)) : Prop where
  flatten_eq : groups.flatten = documents
  ne_nil : ∀ group ∈ groups, group ≠ []
  admits : ∀ group ∈ groups, limits.Admits group

variable {limits : BatchLimits}

theorem Admits.tail {document : Document} {rest : List Document}
    (hadmits : limits.Admits (document :: rest)) : limits.Admits rest := by
  obtain ⟨hdocs, hbytes⟩ := hadmits
  simp only [List.length_cons, List.map_cons, List.sum_cons] at hdocs hbytes
  exact ⟨by omega, by omega⟩

/-- With others before it, a document of a group joins them within the limit on bytes, and what
stands before it is below both limits, since every document counts. -/
theorem Admits.front {front rest : List Document} {document : Document}
    (hadmits : limits.Admits (front ++ document :: rest)) (hfront : front ≠ []) :
    front.length < limits.maxDocs ∧
      (front.map Json.estimate).sum + document.estimate ≤ limits.maxBytes := by
  obtain ⟨hdocs, hbytes⟩ := hadmits
  have hlength := List.length_pos_iff.mpr hfront
  simp only [List.length_append, List.length_cons, List.map_append, List.map_cons, List.sum_append,
    List.sum_cons] at hdocs hbytes
  exact ⟨by omega, by omega⟩

end BatchLimits

namespace Batch

variable {κ : Type} {limits : BatchLimits} {pending : Batch κ}

section Pushing

variable (key : κ) {document : Document}

/-- Without an overflow, a push adds the document and closes the batch if that fills it. -/
theorem push_of_stays (hstays : pending.overflows limits document = false) :
    pending.push limits key document =
      if (pending.add key document).isFull limits then ([pending.add key document], empty)
      else ([], pending.add key document) := by
  simp [push_eq, joined, hstays]

/-- A document that displaces what is pending goes into an empty batch. -/
theorem push_of_overflows (hoverflow : pending.overflows limits document = true) :
    pending.push limits key document = (pending :: (empty.push limits key document).1,
      (empty.push limits key document).2) := by
  have hempty : (empty : Batch κ).overflows limits document = false := rfl
  rw [push_of_stays key hempty, push_eq, joined]
  simp only [hoverflow, if_true]
  split <;> rfl

variable {rest : List Document}

/-- The documents of a group do not displace each other. -/
theorem Open.stays (hopen : pending.Open limits)
    (hadmits : limits.Admits (pending.documents ++ document :: rest)) :
    pending.overflows limits document = false := by
  by_cases hnone : pending.entries = []
  · simp [overflows, hnone]
  · have hfront : pending.documents ≠ [] := by simpa [documents] using hnone
    have hbytes := (hadmits.front hfront).2
    simp only [overflows, addSizes, hopen.bytes_eq, estimated, Bool.and_eq_false_iff,
      decide_eq_false_iff_not]
    omega

/-- A batch that holds part of a group is not full before the last document of the group. -/
theorem Open.isFull_add (hopen : pending.Open limits)
    (hadmits : limits.Admits (pending.documents ++ document :: rest))
    (hfull : (pending.add key document).isFull limits) : rest = [] := by
  cases rest with
  | nil => rfl
  | cons next rest =>
      exfalso
      have hgroup : pending.documents ++ document :: next :: rest =
          (pending.add key document).documents ++ next :: rest := by
        simp
      rw [hgroup] at hadmits
      obtain ⟨hdocs, hbytes⟩ := hadmits.front (by simp)
      have hsize : (pending.add key document).documents.length =
          (pending.add key document).size := List.length_map _
      have htold := bytes_add pending key document hopen.bytes_eq
      have hnext := next.estimate_pos
      rw [estimated] at htold
      rcases isFull_iff.mp hfull with hmany | hlarge
      · omega
      · omega

end Pushing

/-- How many batches documents come to that are pushed after those pending: the ones ready on the
way, and the one that is left. -/
def batchCount (limits : BatchLimits) (pending : Batch κ) (entries : List (κ × Document)) : Nat :=
  (pending.pushAll limits entries).1.length + (pending.pushAll limits entries).2.finish.length

section Counting

theorem length_assembled (entries : List (κ × Document)) :
    (assembled limits entries).length = batchCount limits empty entries :=
  List.length_append

theorem length_finish (batch : Batch κ) :
    batch.finish.length = if batch.entries = [] then 0 else 1 := by
  by_cases hnone : batch.entries = [] <;> simp [finish, hnone]

theorem batchCount_nil : batchCount limits pending [] = pending.finish.length :=
  Nat.zero_add _

/-- The count goes on from what a push leaves pending. -/
theorem batchCount_cons (key : κ) (document : Document) (rest : List (κ × Document)) :
    batchCount limits pending ((key, document) :: rest) =
      (pending.push limits key document).1.length +
        batchCount limits (pending.push limits key document).2 rest := by
  simp only [batchCount, pushAll, List.length_append, Nat.add_assoc]

/-- Documents that are pushed later are counted from what the earlier ones leave pending. -/
theorem batchCount_append (first second : List (κ × Document)) :
    batchCount limits pending (first ++ second) =
      (pending.pushAll limits first).1.length +
        batchCount limits (pending.pushAll limits first).2 second := by
  simp only [batchCount, pushAll_append, List.length_append, Nat.add_assoc]

/-- An overflow closes one batch and starts afresh. -/
theorem batchCount_of_overflows {key : κ} {document : Document} {rest : List (κ × Document)}
    (hoverflow : pending.overflows limits document = true) :
    batchCount limits pending ((key, document) :: rest) =
      1 + batchCount limits empty ((key, document) :: rest) := by
  rw [batchCount_cons, push_of_overflows key hoverflow, batchCount_cons]
  simp only [List.length_cons]
  omega

variable (hdocs : 1 ≤ limits.maxDocs) (hbytes : 1 ≤ limits.maxBytes)

include hdocs hbytes

/-- The rest of a group, pushed after its beginning, comes to one batch with it. -/
theorem Open.batchCount_le_one {entries : List (κ × Document)} (hopen : pending.Open limits)
    (hadmits : limits.Admits (pending.documents ++ entries.map Prod.snd)) :
    batchCount limits pending entries ≤ 1 := by
  induction entries generalizing pending with
  | nil =>
      rw [batchCount_nil, length_finish]
      split <;> omega
  | cons entry rest ih =>
      obtain ⟨key, document⟩ := entry
      have hpush := push_of_stays key (hopen.stays hadmits)
      rw [batchCount_cons, hpush]
      split
      next hfull =>
        obtain rfl := List.map_eq_nil_iff.mp (hopen.isFull_add key hadmits hfull)
        exact Nat.le_refl 1
      next hroom =>
        have hnext := (hopen.push key document hdocs hbytes).2
        rw [hpush, if_neg hroom] at hnext
        have hrest := ih hnext (by simpa using hadmits)
        simpa using hrest

/-- A group, pushed after any batch, comes to one more batch at most. -/
theorem Open.batchCount_le {entries : List (κ × Document)} (hopen : pending.Open limits)
    (hadmits : limits.Admits (entries.map Prod.snd)) :
    batchCount limits pending entries ≤ pending.finish.length + 1 := by
  have hempty : (empty : Batch κ).Open limits := open_empty hdocs hbytes
  induction entries generalizing pending with
  | nil =>
      rw [batchCount_nil]
      omega
  | cons entry rest ih =>
      obtain ⟨key, document⟩ := entry
      by_cases hnone : pending.entries = []
      · have hone : batchCount limits pending ((key, document) :: rest) ≤ 1 :=
          hopen.batchCount_le_one hdocs hbytes (by simpa [documents, hnone] using hadmits)
        omega
      rw [length_finish, if_neg hnone]
      -- The group starts anew as soon as something is handed back, and then stays together.
      cases hoverflow : pending.overflows limits document with
      | true =>
          have hone : batchCount limits empty ((key, document) :: rest) ≤ 1 :=
            hempty.batchCount_le_one hdocs hbytes hadmits
          rw [batchCount_of_overflows hoverflow]
          omega
      | false =>
          have hnext := (hopen.push key document hdocs hbytes).2
          rw [batchCount_cons]
          rw [push_of_stays key hoverflow] at hnext ⊢
          split
          next hfull =>
            have hone : batchCount limits empty rest ≤ 1 :=
              hempty.batchCount_le_one hdocs hbytes hadmits.tail
            simp only [List.length_singleton]
            omega
          next hroom =>
            rw [if_neg hroom] at hnext
            have hrest := ih hnext hadmits.tail
            have hgrown : (pending.add key document).entries ≠ [] := by simp [add]
            rw [length_finish, if_neg hgrown] at hrest
            simpa using hrest

/-- Groups, pushed one after the other, come to as many more batches at most. -/
theorem Open.batchCount_flatten_le {groups : List (List Document)} {entries : List (κ × Document)}
    (hopen : pending.Open limits) (hflatten : groups.flatten = entries.map Prod.snd)
    (hadmits : ∀ group ∈ groups, limits.Admits group) :
    batchCount limits pending entries ≤ pending.finish.length + groups.length := by
  induction groups generalizing pending entries with
  | nil =>
      obtain rfl : entries = [] := List.map_eq_nil_iff.mp hflatten.symm
      rw [batchCount_nil]
      omega
  | cons group rest ih =>
      obtain ⟨hgroup, hrest⟩ := List.forall_mem_cons.mp hadmits
      rw [List.flatten_cons] at hflatten
      obtain ⟨first, second, rfl, hfirst, hsecond⟩ := List.map_eq_append_iff.mp hflatten.symm
      have hone := hopen.batchCount_le hdocs hbytes (hfirst ▸ hgroup)
      have hmore := ih (hopen.pushAll first hdocs hbytes).2 hsecond.symm hrest
      rw [batchCount_append, List.length_cons]
      unfold batchCount at hone
      omega

end Counting

/-- The batches that documents come to are a cut of them within the limits. -/
theorem assembled_cuts (hdocs : 1 ≤ limits.maxDocs) (hbytes : 1 ≤ limits.maxBytes)
    (entries : List (κ × Document))
    (htotal : (entries.map fun entry => entry.2.estimate).sum < 2 ^ 64) :
    limits.Cuts (entries.map Prod.snd) ((assembled limits entries).map documents) := by
  constructor
  · calc ((assembled limits entries).map documents).flatten
        = ((assembled limits entries).flatMap Batch.entries).map Prod.snd := by
          rw [List.map_flatMap, List.flatMap_def]
          rfl
      _ = entries.map Prod.snd := by rw [assembled_entries]
  · intro group hgroup
    obtain ⟨batch, hmem, rfl⟩ := List.mem_map.mp hgroup
    simpa [documents] using (closed_of_mem_assembled entries hdocs hbytes hmem).entries_ne_nil
  · intro group hgroup
    obtain ⟨batch, hmem, rfl⟩ := List.mem_map.mp hgroup
    have hclosed := closed_of_mem_assembled entries hdocs hbytes hmem
    have hsize : batch.documents.length = batch.size := List.length_map _
    have hlarge := hclosed.bytes_le
    rw [bytes_of_mem_assembled entries hdocs hbytes htotal hmem] at hlarge
    exact ⟨hsize ▸ hclosed.size_le, by omega⟩

/-- Of all the ways to cut documents into groups within the limits, the batches that they come to
are one with the fewest groups. -/
theorem assembled_fewest (limits : BatchLimits) (hdocs : 1 ≤ limits.maxDocs)
    (hbytes : 1 ≤ limits.maxBytes) (entries : List (κ × Document))
    (htotal : (entries.map fun entry => entry.2.estimate).sum < 2 ^ 64) :
    limits.Cuts (entries.map Prod.snd) ((assembled limits entries).map documents) ∧
    ∀ groups, limits.Cuts (entries.map Prod.snd) groups →
      (assembled limits entries).length ≤ groups.length := by
  refine ⟨assembled_cuts hdocs hbytes entries htotal, ?_⟩
  intro groups hcuts
  have hcount := (open_empty hdocs hbytes).batchCount_flatten_le hdocs hbytes hcuts.flatten_eq
    hcuts.admits
  rw [length_assembled]
  simpa [length_finish, empty] using hcount

/-- Two documents that reach the limit on bytes exactly, and a third one. They could be cut the
other way round, but not into fewer groups. -/
theorem assembled_fewest_at_limit :
    let limits : BatchLimits := ⟨3, 9⟩
    let entries : List (String × Document) := [("a", .null), ("b", .bool true), ("c", .null)]
    let groups : List (List Document) := [[.null], [.bool true, .null]]
    1 ≤ limits.maxDocs ∧ 1 ≤ limits.maxBytes ∧
      (entries.map fun entry => entry.2.estimate).sum < 2 ^ 64 ∧
      limits.Cuts (entries.map Prod.snd) groups ∧
      (assembled limits entries).map documents = [[.null, .bool true], [.null]] ∧
      (assembled limits entries).length ≤ groups.length := by
  intro limits entries groups
  have htotal : (entries.map fun entry => entry.2.estimate).sum < 2 ^ 64 := by decide
  have hcuts : limits.Cuts (entries.map Prod.snd) groups := by
    refine ⟨rfl, ?_, ?_⟩
    · simp [groups]
    · simp [groups, BatchLimits.Admits, limits, Json.estimate]
  exact ⟨by decide, by decide, htotal, hcuts, rfl,
    (assembled_fewest limits (by decide) (by decide) entries htotal).2 groups hcuts⟩

end Batch

end SearchFeed
