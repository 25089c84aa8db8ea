import Mathlib.Data.List.Dedup
import SearchFeed.Proofs.Credit
import SearchFeed.Rehearsal

/-! # Replies of a rehearsal

A cluster that plays a script makes up its replies. It names the positions at
which it refuses documents and takes all others, or it takes the first documents
and names none. A document counts as refused once, however often its position
is named, while every name is taken off the number of documents that count as
taken. So the two numbers add up to those that were sent just if none is named
twice, and with more names than documents the difference is below zero, which a
count cannot be.
-/

namespace SearchFeed

namespace Cue

/-- The positions that a cue names, if it is one that divides the documents of a request. -/
def positions? : Cue → Option (List Nat)
  | .succeed => some []
  | .reject positions => some positions
  | .acceptFirst _ => some []
  | .fail _ => none
  | .refuse _ => none
  | .outcome _ => none

theorem countBelow_of_le {total part : Nat} (hpart : part ≤ total) (htotal : total < 2 ^ 64) :
    countBelow total part = total - part := by
  rw [countBelow, UInt64.toNat_sub, UInt64.toNat_ofNat_of_lt' htotal,
    UInt64.toNat_ofNat_of_lt' (hpart.trans_lt htotal)]
  omega

/-- A difference below zero comes out as far below `2 ^ 64`. -/
theorem countBelow_of_lt {total part : Nat} (htotal : total < part) (hpart : part < 2 ^ 64) :
    countBelow total part = 2 ^ 64 - (part - total) := by
  rw [countBelow, UInt64.toNat_sub, UInt64.toNat_ofNat_of_lt' (htotal.trans hpart),
    UInt64.toNat_ofNat_of_lt' hpart]
  omega

end Cue

/-- The documents that a reply names as refused, each counted once. -/
theorem BulkOutcome.named_eq (outcome : BulkOutcome) (submitted : Nat) :
    outcome.named submitted = (outcome.failed.filter (· < submitted)).dedup.length := by
  rw [named, List.countP_eq_length_filter]
  refine List.Perm.length_eq ?_
  refine (List.perm_ext_iff_of_nodup (List.nodup_range.filter _) (List.nodup_dedup _)).mpr ?_
  intro position
  rw [List.mem_dedup, List.mem_filter, List.mem_filter, List.mem_range, List.contains_iff_mem,
    decide_eq_true_iff, and_comm]

/-- A list names no position twice exactly when dropping repeats does not shorten it. -/
theorem nodup_iff_length_le_dedup {names : List Nat} :
    names.Nodup ↔ names.length ≤ names.dedup.length := by
  rw [← List.dedup_eq_self]
  constructor
  · intro hsame
    rw [hsame]
  · exact fun hlength => (List.dedup_sublist names).eq_of_length_le hlength

/-- Different positions in a request are no more than its documents. -/
theorem length_le_of_nodup {names : List Nat} {submitted : Nat} (hnodup : names.Nodup)
    (hbelow : ∀ name ∈ names, name < submitted) : names.length ≤ submitted := by
  have hsubset : names ⊆ List.range submitted := fun name hname =>
    List.mem_range.mpr (hbelow name hname)
  simpa using (List.subperm_of_subset hnodup hsubset).length_le

/-- Taken and refused documents add up to those that were sent, but for names that are repeated.
With more names than documents, more documents count as taken than were sent. -/
structure BulkOutcome.AddsUpTo (outcome : BulkOutcome) (submitted : Nat) (named : List Nat) :
    Prop where
  balance : named.length ≤ submitted → outcome.succeeded +
    (outcome.failedPositions submitted).length + (named.length - named.dedup.length) = submitted
  excess : submitted < named.length → submitted < outcome.succeeded

/-- A reply that names no positions refuses all documents that it does not take. -/
theorem BulkOutcome.addsUpTo_unnamed {outcome : BulkOutcome} {submitted : Nat}
    (hfailed : outcome.failed = []) (htaken : outcome.succeeded ≤ submitted) :
    outcome.AddsUpTo submitted [] where
  balance _ := by
    rw [length_failedPositions, if_pos hfailed, List.length_nil]
    omega
  excess hexcess := absurd hexcess (Nat.not_lt_zero submitted)

/-- The sum is right just if no document is named twice. -/
theorem BulkOutcome.AddsUpTo.sum_eq_iff {outcome : BulkOutcome} {submitted : Nat}
    {named : List Nat} (hadds : outcome.AddsUpTo submitted named)
    (hbelow : ∀ name ∈ named, name < submitted) :
    outcome.succeeded + (outcome.failedPositions submitted).length = submitted ↔
      named.Nodup := by
  constructor
  · intro hsum
    have hroom : named.length ≤ submitted := by
      by_contra hexcess
      have htoo := hadds.excess (Nat.lt_of_not_le hexcess)
      omega
    have hbalance := hadds.balance hroom
    exact nodup_iff_length_le_dedup.mpr (by omega)
  · intro hnodup
    have hbalance := hadds.balance (length_le_of_nodup hnodup hbelow)
    have hlength := nodup_iff_length_le_dedup.mp hnodup
    omega

namespace Cue

/-- A cue that names positions takes off one document for each name that can be meant, and leaves
each document that is named undelivered once. -/
theorem addsUpTo_named {submitted : Nat} {positions : List Nat} (hsubmitted : submitted < 2 ^ 64)
    (hpositions : positions.length < 2 ^ 64) (summary : Option String) :
    let taken := countBelow submitted (positions.countP (· < submitted))
    BulkOutcome.AddsUpTo ⟨taken, positions, summary⟩ submitted
      (positions.filter (· < submitted)) := by
  intro taken
  dsimp only [taken]
  rw [List.countP_eq_length_filter]
  generalize hnamed : positions.filter (· < submitted) = named
  constructor
  · intro hroom
    have hdedup := (List.dedup_sublist named).length_le
    rw [countBelow_of_le hroom hsubmitted, BulkOutcome.length_failedPositions]
    dsimp only
    split
    next hnone =>
      obtain rfl : named = [] := by rw [← hnamed, hnone, List.filter_nil]
      rw [List.length_nil]
      omega
    next =>
      rw [BulkOutcome.named_eq, hnamed]
      omega
  · intro hexcess
    have hsize : named.length < 2 ^ 64 := by
      rw [← hnamed]
      exact (List.length_filter_le ..).trans_lt hpositions
    dsimp only
    rw [countBelow_of_lt hexcess hsize]
    omega

/-- A cue that divides the documents of a request is answered with a division of them. -/
theorem exists_addsUpTo {cue : Cue} {positions : List Nat} {request : Request}
    (hcue : cue.positions? = some positions)
    (hsubmitted : request.payload.documents.length < 2 ^ 64)
    (hpositions : positions.length < 2 ^ 64) :
    ∃ outcome, cue.bulk request = .ok outcome ∧
      outcome.AddsUpTo request.payload.documents.length
        (positions.filter (· < request.payload.documents.length)) := by
  cases cue with
  | succeed =>
      obtain rfl := Option.some.inj hcue
      exact ⟨_, rfl, BulkOutcome.addsUpTo_unnamed rfl le_rfl⟩
  | reject named =>
      obtain rfl := Option.some.inj hcue
      exact ⟨_, rfl, addsUpTo_named hsubmitted hpositions _⟩
  | acceptFirst count =>
      obtain rfl := Option.some.inj hcue
      exact ⟨_, rfl, BulkOutcome.addsUpTo_unnamed rfl (Nat.min_le_right ..)⟩
  | fail _ => cases hcue
  | refuse _ => cases hcue
  | outcome _ => cases hcue

end Cue

/-- A cluster that plays a script answers a request for several documents, unless the script has it
fail, and the documents that it says it took and those that count as refused add up to the ones that
were sent just if it names no position of one of them twice. They fall short by the names that are
repeated as long as there are no more names than documents. With more names the number of documents
taken would be below zero, and it is larger than the number of those that were sent. Both lists are
so short that their lengths are counts of 64 bits. -/
theorem rehearsed_reply_adds_up_iff (script : Script) (start : Nat) (past : List Exchange)
    (request : Request) {positions : List Nat}
    (hcue : (script.cue (past.length - start)).positions? = some positions)
    (hsubmitted : request.payload.documents.length < 2 ^ 64)
    (hpositions : positions.length < 2 ^ 64) :
    let submitted := request.payload.documents.length
    let named := positions.filter (· < submitted)
    ∃ outcome, (script.cluster start).bulk past request = .ok outcome ∧
      let refused := (outcome.failedPositions submitted).length
      (outcome.succeeded + refused = submitted ↔ named.Nodup) ∧
      (named.length ≤ submitted →
        outcome.succeeded + refused + (named.length - named.dedup.length) = submitted) ∧
      (submitted < named.length → submitted < outcome.succeeded) := by
  intro submitted named
  obtain ⟨outcome, hreply, hadds⟩ := Cue.exists_addsUpTo hcue hsubmitted hpositions
  have hbelow : ∀ name ∈ named, name < submitted := fun name hname =>
    of_decide_eq_true (List.mem_filter.mp hname).2
  exact ⟨outcome, hreply, hadds.sum_eq_iff hbelow, hadds.balance, hadds.excess⟩

/-- One of two documents is refused by two names: one counts as refused, and none as taken. -/
theorem rehearsed_reply_adds_up_iff_named_twice :
    let script : Script := ⟨[.reject [0, 0, 7]], .succeed⟩
    let request : Request :=
      ⟨.retry, "http://search.test", "a-traffic", .bulk [.null, .bool true]⟩
    (script.cue 0).positions? = some [0, 0, 7] ∧ request.payload.documents.length < 2 ^ 64 ∧
      ∃ outcome, (script.cluster 0).bulk [] request = .ok outcome ∧
        outcome.succeeded + (outcome.failedPositions 2).length = 1 := by
  intro script request
  have hsubmitted : request.payload.documents.length < 2 ^ 64 := by decide
  obtain ⟨outcome, hreply, -, hshort, -⟩ :=
    rehearsed_reply_adds_up_iff script 0 [] request rfl hsubmitted (by decide)
  have hbalance : outcome.succeeded + (outcome.failedPositions 2).length + 1 = 2 :=
    hshort (by decide)
  exact ⟨rfl, hsubmitted, outcome, hreply, by omega⟩

end SearchFeed
