import Mathlib.Data.List.Basic
import SearchFeed.Exchange

/-! # How a reply divides a request

A reply to a request for several documents leaves some of them undelivered.
The others are the ones it accepts, and each document of the request is on
exactly one side, at whatever positions the cluster names. Where there is no
reply, the reason is never without words.
-/

namespace SearchFeed

theorem IndexError.message_ne_empty (error : IndexError) : error.message ≠ "" := by
  cases error with
  | unreachable address reason =>
      change ¬"Search cluster unreachable at '" ++ address ++ "': " ++ reason = ""
      simp only [String.append_eq_empty_iff, String.reduceEq, false_and, not_false_iff]
  | rejected index reason =>
      change ¬"Index request to '" ++ index ++ "' rejected: " ++ reason = ""
      simp only [String.append_eq_empty_iff, String.reduceEq, false_and, not_false_iff]

namespace BulkOutcome

/-- Whether the document at a position counts as refused. -/
def refuses (outcome : BulkOutcome) (position : Nat) : Bool :=
  if outcome.failed.isEmpty then outcome.succeeded ≤ position
  else outcome.failed.contains position

/-- The failed positions are the positions of the request that the reply refuses, in order. -/
theorem failedPositions_eq (outcome : BulkOutcome) (submitted : Nat) :
    outcome.failedPositions submitted = (List.range submitted).filter outcome.refuses := by
  unfold failedPositions refuses
  congr 1

end BulkOutcome

namespace BulkReply

/-- The documents of a request that its reply takes, in the order in which they were sent. -/
def accepted (documents : List Document) : BulkReply → List Document
  | .ok outcome =>
    ((List.range documents.length).filter fun position =>
      !(outcome.failedPositions documents.length).contains position).filterMap (documents[·]?)
  | .error _ => []

theorem filterMap_range_getElem? {α : Type} (items : List α) :
    (List.range items.length).filterMap (items[·]?) = items := by
  induction items with
  | nil => rfl
  | cons item rest ih =>
      -- All positions but the first are those of the rest, moved up by one.
      rw [List.length_cons, List.range_succ_eq_map, List.filterMap_cons, List.filterMap_map]
      simpa [Function.comp_def] using ih

/-- Reading off the documents at some positions and at all others reads off every document once. -/
theorem positions_perm {α : Type} (items : List α) (chosen : Nat → Bool) :
    (((List.range items.length).filter fun position => !chosen position).filterMap (items[·]?) ++
      ((List.range items.length).filter chosen).filterMap (items[·]?)).Perm items := by
  have hsplit := (List.filter_append_perm chosen (List.range items.length)).filterMap (items[·]?)
  rw [List.filterMap_append, filterMap_range_getElem?] at hsplit
  exact List.perm_append_comm.trans hsplit

theorem accepted_ok (documents : List Document) (outcome : BulkOutcome) :
    accepted documents (.ok outcome) = ((List.range documents.length).filter fun position =>
      !outcome.refuses position).filterMap (documents[·]?) := by
  refine congrArg (List.filterMap (documents[·]?)) (List.filter_congr ?_)
  intro position hposition
  rw [BulkOutcome.failedPositions_eq]
  simp [List.mem_range.mp hposition]

/-- Every document of a request is either taken or refused, and none is both. -/
theorem accepted_append_refused_perm (documents : List Document) (reply : BulkReply) :
    (accepted documents reply ++ refused documents reply).Perm documents := by
  cases reply with
  | error _ => exact List.Perm.refl _
  | ok outcome =>
      rw [accepted_ok, refused, BulkOutcome.failedPositions_eq]
      exact positions_perm documents outcome.refuses

/-- Whatever is replied, each document is accepted or refused. -/
theorem length_accepted_add_refused (documents : List Document) (reply : BulkReply) :
    (accepted documents reply).length + (refused documents reply).length = documents.length := by
  rw [← List.length_append]
  exact (accepted_append_refused_perm documents reply).length_eq

theorem length_refused_le (documents : List Document) (reply : BulkReply) :
    (refused documents reply).length ≤ documents.length := by
  have := length_accepted_add_refused documents reply
  omega

theorem length_accepted (documents : List Document) (reply : BulkReply) :
    (accepted documents reply).length = documents.length - (refused documents reply).length := by
  have := length_accepted_add_refused documents reply
  omega

@[simp] theorem refused_nil (reply : BulkReply) : refused [] reply = [] := by
  cases reply <;> rfl

@[simp] theorem accepted_nil (reply : BulkReply) : accepted [] reply = [] := by
  cases reply <;> rfl

/-- What is refused keeps the order in which it was sent. -/
theorem refused_sublist (documents : List Document) (reply : BulkReply) :
    (refused documents reply).Sublist documents := by
  cases reply with
  | error _ => exact List.Sublist.refl _
  | ok outcome =>
      have hpositions : (outcome.failedPositions documents.length).Sublist
          (List.range documents.length) := List.filter_sublist
      simpa only [refused, filterMap_range_getElem?] using
        hpositions.filterMap (documents[·]?)

end BulkReply

namespace Exchange

/-- The documents of an exchange that were not taken. -/
def refused (exchange : Exchange) : List Document :=
  match exchange.request.payload, exchange.reply with
  | .bulk documents, .bulk reply => BulkReply.refused documents reply
  | .single document, .single reply => DocumentReply.refused document reply
  | _, _ => []

/-- The documents of an exchange that were taken. -/
def accepted (exchange : Exchange) : List Document :=
  match exchange.request.payload, exchange.reply with
  | .bulk documents, .bulk reply => BulkReply.accepted documents reply
  | .single document, .single (.ok ()) => [document]
  | _, _ => []

end Exchange

end SearchFeed
