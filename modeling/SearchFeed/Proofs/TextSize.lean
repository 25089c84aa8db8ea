import Mathlib.Data.List.GetD
import Mathlib.Data.String.Basic
import SearchFeed.Json.Text
import SearchFeed.Proofs.Batching

/-! # How far the estimated size may be off

The text of a document is less than six times as long as estimated and the
estimate at most twenty times the text, as long as no number takes more than 119
bytes. Such a number comes closest to the former bound, with texts of control
characters next to it, and a number of one digit to the latter. Each value leaves
one byte to spare, which pays for the comma that separates it from the next.
-/

namespace SearchFeed

namespace Json

section Quoting

theorem utf8Size_hexDigit (n : Nat) : (hexDigit n).utf8Size = 1 := by
  unfold hexDigit
  rcases Nat.lt_or_ge n 16 with hdigit | hlarge
  · revert n
    decide
  · rw [List.getD_eq_default _ _ hlarge]
    rfl

/-- A character is written with two bytes or with six if it takes one itself, or else as it is. -/
theorem escaped_cases (c : Char) :
    (c.utf8Size = 1 ∧ ((escaped c).utf8ByteSize = 2 ∨ (escaped c).utf8ByteSize = 6)) ∨
      escaped c = c.toString := by
  unfold escaped
  split_ifs with _ _ _ _ _ _ _ hcontrol
  iterate 7 exact .inl (by subst c; decide)
  · have hone : c.utf8Size = 1 := Char.utf8Size_eq_one_iff.mpr
      (UInt32.le_iff_toNat_le.mpr (Nat.le_of_lt (Nat.lt_trans hcontrol (by decide))))
    refine .inl ⟨hone, .inr ?_⟩
    rw [String.utf8ByteSize_ofList]
    simp only [String.utf8Len_cons, utf8Size_hexDigit]
    rfl
  · exact .inr rfl

/-- Escaping keeps a character's bytes or writes up to six for one. -/
theorem utf8ByteSize_escaped (c : Char) :
    c.utf8Size ≤ (escaped c).utf8ByteSize ∧ (escaped c).utf8ByteSize ≤ 6 * c.utf8Size := by
  rcases escaped_cases c with ⟨hone, hsize⟩ | hplain
  · omega
  · rw [hplain, Char.toString, String.utf8ByteSize_singleton]
    omega

theorem utf8ByteSize_foldl_escaped (cs : List Char) (written : String) :
    let text := cs.foldl (fun written c => written ++ escaped c) written
    written.utf8ByteSize + String.utf8Len cs ≤ text.utf8ByteSize ∧
      text.utf8ByteSize ≤ written.utf8ByteSize + 6 * String.utf8Len cs := by
  induction cs generalizing written with
  | nil => simp
  | cons c rest ih =>
      have hfirst := utf8ByteSize_escaped c
      have hrest := ih (written ++ escaped c)
      simp only [String.utf8ByteSize_append] at hrest
      rw [List.foldl_cons, String.utf8Len_cons]
      dsimp only
      omega

/-- A text is at most six times as long in quotes, the quotes themselves apart. -/
theorem utf8ByteSize_quoted (text : String) :
    quotedSize text ≤ (quoted text).utf8ByteSize ∧
      (quoted text).utf8ByteSize ≤ 6 * text.utf8ByteSize + 2 := by
  have hsize : String.utf8Len text.toList = text.utf8ByteSize := by
    rw [← String.utf8ByteSize_ofList, String.ofList_toList]
  have hquote : "\"".utf8ByteSize = 1 := rfl
  have hempty : "".utf8ByteSize = 0 := rfl
  have hwritten := utf8ByteSize_foldl_escaped text.toList ""
  simp only [quoted, quotedSize, String.utf8ByteSize_append]
  dsimp only at hwritten
  omega

end Quoting

mutual

def numberTexts : Json → List String
  | .int n => [toString n]
  | .double x => [doubleText x]
  | .array items => numberTextsOfItems items
  | .object members => numberTextsOfMembers members
  | _ => []

def numberTextsOfItems : List Json → List String
  | [] => []
  | item :: rest => item.numberTexts ++ numberTextsOfItems rest

def numberTextsOfMembers : List (String × Json) → List String
  | [] => []
  | (_, value) :: rest => value.numberTexts ++ numberTextsOfMembers rest

end

/-- Texts that take between 1 and 119 bytes each. -/
def AreShort (texts : List String) : Prop :=
  ∀ text ∈ texts, 1 ≤ text.utf8ByteSize ∧ text.utf8ByteSize ≤ 119

theorem areShort_append {first second : List String} :
    AreShort (first ++ second) ↔ AreShort first ∧ AreShort second :=
  List.forall_mem_append

section Separating

theorem utf8ByteSize_compactItems (item : Json) (rest : List Json) :
    let separated := item.compact.utf8ByteSize + (compactItems rest).utf8ByteSize
    separated ≤ (compactItems (item :: rest)).utf8ByteSize ∧
      (compactItems (item :: rest)).utf8ByteSize ≤ separated + 1 := by
  have hcomma : ",".utf8ByteSize = 1 := rfl
  cases rest with
  | nil => simp [compactItems]
  | cons next rest =>
      simp only [compactItems, String.utf8ByteSize_append]
      omega

theorem utf8ByteSize_compactMembers (key : String) (value : Json) (rest : List (String × Json)) :
    let separated := (quoted key).utf8ByteSize + 1 + value.compact.utf8ByteSize +
      (compactMembers rest).utf8ByteSize
    separated ≤ (compactMembers ((key, value) :: rest)).utf8ByteSize ∧
      (compactMembers ((key, value) :: rest)).utf8ByteSize ≤ separated + 1 := by
  have hcomma : ",".utf8ByteSize = 1 := rfl
  have hcolon : ":".utf8ByteSize = 1 := rfl
  cases rest with
  | nil => simp [compactMembers, hcolon]
  | cons next rest =>
      obtain ⟨nextKey, nextValue⟩ := next
      simp only [compactMembers, String.utf8ByteSize_append]
      omega

end Separating

mutual

/-- Estimate and text bound each other, and one byte of the latter bound is to spare. -/
theorem compact_bounds : ∀ {document : Json}, AreShort document.numberTexts →
    document.estimate ≤ 20 * document.compact.utf8ByteSize ∧
      document.compact.utf8ByteSize + 1 ≤ 6 * document.estimate
  | .null, _ => by decide
  | .bool true, _ => by decide
  | .bool false, _ => by decide
  | .int n, hshort => by
      have htext := hshort (toString n) (List.mem_singleton_self _)
      simp only [compact, estimate]
      omega
  | .double x, hshort => by
      have htext := hshort (doubleText x) (List.mem_singleton_self _)
      simp only [compact, estimate]
      omega
  | .string text, _ => by
      have hquoted := utf8ByteSize_quoted text
      simp only [compact, estimate, quotedSize] at hquoted ⊢
      omega
  | .array items, hshort => by
      have hitems : _ ∧ (compactItems items).utf8ByteSize ≤ _ := compactItems_bounds hshort
      have hopen : "[".utf8ByteSize = 1 := rfl
      have hclose : "]".utf8ByteSize = 1 := rfl
      simp only [compact, estimate, String.utf8ByteSize_append]
      omega
  | .object members, hshort => by
      have hmembers : _ ∧ (compactMembers members).utf8ByteSize ≤ _ :=
        compactMembers_bounds hshort
      have hopen : "\x7b".utf8ByteSize = 1 := rfl
      have hclose : "\x7d".utf8ByteSize = 1 := rfl
      simp only [compact, estimate, String.utf8ByteSize_append]
      omega

/-- The two factors for the items of an array. -/
theorem compactItems_bounds : ∀ {items : List Json}, AreShort (numberTextsOfItems items) →
    estimateItems items ≤ 20 * (compactItems items).utf8ByteSize ∧
      (compactItems items).utf8ByteSize ≤ 6 * estimateItems items
  | [], _ => by decide
  | item :: rest, hshort => by
      obtain ⟨hfirst, hothers⟩ := areShort_append.mp hshort
      have hitem := compact_bounds hfirst
      have hrest := compactItems_bounds hothers
      have hsize := utf8ByteSize_compactItems item rest
      simp only [estimateItems]
      dsimp only at hsize
      omega

/-- The two factors for the members of an object. -/
theorem compactMembers_bounds : ∀ {members : List (String × Json)},
    AreShort (numberTextsOfMembers members) →
    estimateMembers members ≤ 20 * (compactMembers members).utf8ByteSize ∧
      (compactMembers members).utf8ByteSize ≤ 6 * estimateMembers members
  | [], _ => by decide
  | (key, value) :: rest, hshort => by
      obtain ⟨hfirst, hothers⟩ := areShort_append.mp hshort
      have hkey := utf8ByteSize_quoted key
      have hvalue := compact_bounds hfirst
      have hrest := compactMembers_bounds hothers
      have hsize := utf8ByteSize_compactMembers key value rest
      simp only [estimateMembers, quotedSize] at hkey ⊢
      dsimp only at hsize
      omega

end

theorem sum_compact_add_length {documents : List Document}
    (hshort : ∀ document ∈ documents, AreShort document.numberTexts) :
    (documents.map fun document => document.compact.utf8ByteSize).sum + documents.length ≤
      6 * (documents.map estimate).sum := by
  induction documents with
  | nil => exact Nat.le_refl 0
  | cons document rest ih =>
      obtain ⟨hfirst, hothers⟩ := List.forall_mem_cons.mp hshort
      have hdocument := (compact_bounds hfirst).2
      have hrest := ih hothers
      simp only [List.map_cons, List.sum_cons, List.length_cons]
      omega

end Json

/-- A document is estimated at twenty times its text at most, and its text is less than six times
the estimate. So the texts of the documents that share a batch with others together take less than
six times the limit on bytes. -/
theorem text_size_within_estimate :
    (∀ document : Json, Json.AreShort document.numberTexts →
      document.estimate ≤ 20 * document.compact.utf8ByteSize ∧
      document.compact.utf8ByteSize + 1 ≤ 6 * document.estimate) ∧
    ∀ (κ : Type) (limits : BatchLimits) (entries : List (κ × Document)),
      1 ≤ limits.maxDocs → 1 ≤ limits.maxBytes →
      (entries.map fun entry => entry.2.estimate).sum < 2 ^ 64 →
      (∀ entry ∈ entries, Json.AreShort entry.2.numberTexts) →
      ∀ batch ∈ Batch.assembled limits entries, 2 ≤ batch.documents.length →
        (batch.documents.map fun document => document.compact.utf8ByteSize).sum <
          6 * limits.maxBytes := by
  refine ⟨fun _ => Json.compact_bounds, ?_⟩
  intro κ limits entries hdocs hbytes htotal hshort batch hmem htwo
  have hbelow : (batch.documents.map Json.estimate).sum ≤ limits.maxBytes := by
    rw [← Batch.bytes_of_mem_assembled entries hdocs hbytes htotal hmem]
    have hsize : batch.documents.length = batch.size := List.length_map _
    exact (Batch.closed_of_mem_assembled entries hdocs hbytes hmem).bytes_le (hsize ▸ htwo)
  have htexts : ∀ document ∈ batch.documents, Json.AreShort document.numberTexts := by
    intro document hdocument
    obtain ⟨entry, hentry, rfl⟩ := List.mem_map.mp hdocument
    exact hshort entry ((Batch.entries_sublist_of_mem_assembled entries hmem).subset hentry)
  have hsum := Json.sum_compact_add_length htexts
  omega

/-- Two documents that keep to the limit by their estimate, though their texts do not. -/
theorem text_size_within_estimate_control :
    let limits : BatchLimits := ⟨3, 64⟩
    let document : Document := .array [.int 7, .string "\x01\x02\x03\x04\x05\x06\x07\x0b"]
    let entries : List (Nat × Document) := [(0, document), (1, document)]
    let batch : Batch Nat := ⟨entries, 64⟩
    let sizes := batch.documents.map fun document => document.compact.utf8ByteSize
    Json.AreShort document.numberTexts ∧
      document.compact.utf8ByteSize + 1 ≤ 6 * document.estimate ∧
      batch ∈ Batch.assembled limits entries ∧ 2 ≤ batch.documents.length ∧
      limits.maxBytes < sizes.sum ∧ sizes.sum < 6 * limits.maxBytes := by
  intro limits document entries batch sizes
  have hshort : Json.AreShort document.numberTexts := by
    intro text htext
    obtain rfl := List.mem_singleton.mp htext
    decide
  have hestimate : document.estimate = 32 := rfl
  have hassembled : Batch.assembled limits entries = [batch] := by
    simp [entries, limits, batch, hestimate, Batch.assembled, Batch.pushAll, Batch.push, Batch.add,
      Batch.empty, Batch.overflows, Batch.isFull, Batch.size, Batch.finish, addSizes, greatestSize]
  have hmem : batch ∈ Batch.assembled limits entries := hassembled ▸ List.mem_singleton_self batch
  obtain ⟨hbounds, hbatches⟩ := text_size_within_estimate
  refine ⟨hshort, (hbounds document hshort).2, hmem, by decide, by decide, ?_⟩
  exact hbatches Nat limits entries (by decide) (by decide) (by decide)
    (by simp [entries, hshort]) batch hmem (by decide)

end SearchFeed
