import SearchFeed.Proofs.Reply

/-! # Sorting out labelled items

Items that carry labels are sorted out by them and keep their order. Each item
has one label, so it is found under that label and under no other. The documents
of a request, for one, are labelled by whether its reply takes them.
-/

namespace SearchFeed

section Labels

variable {α β ι : Type} [DecidableEq ι]

/-- The items that carry a label, in their order. -/
def withLabel (label : ι) (labelled : List (α × ι)) : List α :=
  (labelled.filter fun entry => entry.2 = label).map Prod.fst

theorem withLabel_cons (label other : ι) (item : α) (rest : List (α × ι)) :
    withLabel label ((item, other) :: rest) =
      if other = label then item :: withLabel label rest else withLabel label rest := by
  by_cases hsame : other = label <;> simp [withLabel, hsame]

/-- Labels are read off two lists one after the other. -/
theorem withLabel_append (label : ι) (first second : List (α × ι)) :
    withLabel label (first ++ second) = withLabel label first ++ withLabel label second := by
  rw [withLabel, List.filter_append, List.map_append]
  rfl

/-- Items that all carry one label carry no other. -/
theorem withLabel_map (label other : ι) (items : List α) :
    withLabel label (items.map (·, other)) = if other = label then items else [] := by
  by_cases hsame : other = label <;> simp [withLabel, List.filter_map, Function.comp_def, hsame]

theorem withLabel_sublist (label : ι) (labelled : List (α × ι)) :
    (withLabel label labelled).Sublist (labelled.map Prod.fst) :=
  List.filter_sublist.map Prod.fst

/-- Labels of what is made of items are labels of the items themselves. -/
theorem exists_labels_map {make : α → β} {items : List α} {labelled : List (β × ι)}
    (hmade : labelled.map Prod.fst = items.map make) :
    ∃ original : List (α × ι), original.map Prod.fst = items ∧
      ∀ label, (withLabel label original).map make = withLabel label labelled := by
  induction labelled generalizing items with
  | nil =>
      obtain rfl : items = [] := List.map_eq_nil_iff.mp hmade.symm
      exact ⟨[], rfl, fun _ => rfl⟩
  | cons entry rest ih =>
      obtain ⟨made, label⟩ := entry
      obtain ⟨item, others, rfl, rfl, hothers⟩ := List.map_eq_cons_iff.mp hmade.symm
      obtain ⟨original, hitems, hlabels⟩ := ih hothers.symm
      refine ⟨(item, label) :: original, congrArg (List.cons item) hitems, ?_⟩
      intro other
      rw [withLabel_cons, withLabel_cons, ← hlabels]
      split <;> rfl

/-- Items labelled by a test of their positions are those at the positions that pass and at those
that do not. -/
theorem exists_labels_positions (items : List α) (test : Nat → Bool) :
    ∃ labelled : List (α × Bool), labelled.map Prod.fst = items ∧ ∀ passed,
      withLabel passed labelled =
        ((List.range items.length).filter fun position => test position = passed).filterMap
          (items[·]?) := by
  refine ⟨(List.range items.length).filterMap fun position =>
    items[position]?.map (·, test position), ?_, ?_⟩
  · rw [List.map_filterMap]
    simpa [Function.comp_def] using BulkReply.filterMap_range_getElem? items
  · intro passed
    rw [withLabel, List.filter_filterMap, List.map_filterMap, List.filterMap_filter]
    congr 1
    funext position
    cases items[position]? <;> by_cases hpassed : test position = passed <;> simp [hpassed]

end Labels

/-- The documents of a request, labelled by whether its reply takes them. -/
theorem BulkReply.exists_labels (documents : List Document) (reply : BulkReply) :
    ∃ labelled : List (Document × Bool), labelled.map Prod.fst = documents ∧
      withLabel true labelled = accepted documents reply ∧
      withLabel false labelled = refused documents reply := by
  cases reply with
  | error _ =>
      refine ⟨documents.map (·, false), ?_, withLabel_map true false documents,
        withLabel_map false false documents⟩
      rw [List.map_map]
      exact List.map_id _
  | ok outcome =>
      obtain ⟨labelled, hdocuments, hlabels⟩ :=
        exists_labels_positions documents fun position => !outcome.refuses position
      refine ⟨labelled, hdocuments, ?_, ?_⟩
      · rw [hlabels, accepted_ok]
        simp
      · rw [hlabels, refused, BulkOutcome.failedPositions_eq]
        simp

end SearchFeed
