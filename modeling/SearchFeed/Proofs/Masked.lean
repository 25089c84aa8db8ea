import Mathlib.Data.Nat.Digits.Defs
import Mathlib.Data.String.Basic
import SearchFeed.Batch
import SearchFeed.Json.Text
import SearchFeed.Proofs.Reply
import SearchFeed.Reporter.Settings

/-! # Clock values in documents

A document tells when it was exported. Masked documents have zeros in the place
of that time and are as large as they were, so that batches are cut and retry
queues fill up as they would with the documents themselves. Until the year
10000 a time is written with 24 bytes, and what is exported at one time and at
another is the same once it is masked.
-/

namespace SearchFeed

namespace Instant

theorem utf8ByteSize_ascii {cs : List Char} (hascii : ∀ c ∈ cs, c.val ≤ 127) :
    (String.ofList cs).utf8ByteSize = cs.length := by
  rw [String.utf8ByteSize_ofList]
  induction cs with
  | nil => rfl
  | cons c rest ih =>
      obtain ⟨hc, hrest⟩ := List.forall_mem_cons.mp hascii
      rw [String.utf8Len_cons, ih hrest, Char.utf8Size_eq_one_iff.mpr hc, List.length_cons]

/-- A number written to a width is as many bytes long, if it fits. -/
theorem utf8ByteSize_padded {width n : Nat} (hwidth : 0 < width) (hn : n < 10 ^ width) :
    (padded width n).utf8ByteSize = width := by
  have hlength := Nat.toDigits_length 10 n width hwidth hn
  rw [padded, utf8ByteSize_ascii, List.length_append, List.length_replicate]
  · omega
  · intro c hc
    rcases List.mem_append.mp hc with hc | hc
    · obtain rfl := List.eq_of_mem_replicate hc
      decide
    · have hdigit := Nat.isDigit_of_mem_toDigits (by decide) (by decide) hc
      have hbound := (Char.isDigit_iff_toNat.mp hdigit).2
      exact UInt32.le_iff_toNat_le.mpr (hbound.trans (by decide))

/-- A day before the year 10000 has a year of four digits, and a month and a day of two. -/
theorem calendarDay_lt {day : Nat} (hday : day < 2932897) :
    (calendarDay day).1 < 10000 ∧ (calendarDay day).2.1 < 100 ∧ (calendarDay day).2.2 < 100 := by
  unfold calendarDay
  dsimp only
  generalize hera : (day + 719468) / 146097 = era
  generalize hofEra : (day + 719468) % 146097 = ofEra
  generalize hyear : (ofEra - ofEra / 1460 + ofEra / 36524 - ofEra / 146096) / 365 = year
  generalize hofYear : ofEra - (365 * year + year / 4 - year / 100) = ofYear
  generalize hmonth : (5 * ofYear + 2) / 153 = month
  -- A year so reckoned may be a few days too long, but no longer.
  have hbound : ofYear ≤ 470 := by omega
  refine ⟨?_, ?_, ?_⟩
  · split <;> split <;> omega
  · split <;> omega
  · omega

/-- Before the year 10000. -/
def IsUsual (now : Instant) : Prop := now.millis < 253402300800000

/-- At any usual moment a timestamp is 24 bytes long. -/
theorem IsUsual.utf8ByteSize_text {now : Instant} (hnow : now.IsUsual) :
    now.text.utf8ByteSize = 24 := by
  unfold IsUsual at hnow
  have hday : now.millis / 1000 / 86400 < 2932897 := by omega
  obtain ⟨hyear, hmonth, hdate⟩ := calendarDay_lt hday
  unfold text
  simp only [String.utf8ByteSize_append]
  rw [utf8ByteSize_padded (by decide) hyear, utf8ByteSize_padded (by decide) hmonth,
    utf8ByteSize_padded (by decide) hdate, utf8ByteSize_padded (by decide) (by omega),
    utf8ByteSize_padded (by decide) (by omega), utf8ByteSize_padded (by decide) (by omega),
    utf8ByteSize_padded (by decide) (by omega)]
  rfl

end Instant

namespace Json

/-- A text of as many bytes, all of them zeros. -/
def zeroed : Json → Json
  | .string text => .string (zeros text.utf8ByteSize)
  | other => other

/-- A document with the members of one name changed. -/
def maskAt (name : String) (mask : Json → Json) : Json → Json
  | .object members => .object (members.map fun (key, value) =>
      (key, if key = name then mask value else value))
  | other => other

/-- A document that does not tell when it was exported. -/
def masked : Json → Json := maskAt "document_meta" (maskAt "indexed_at" zeroed)

theorem estimate_zeroed (value : Json) : value.zeroed.estimate = value.estimate := by
  cases value with
  | string text =>
      have hascii : ∀ c ∈ List.replicate text.utf8ByteSize '0', c.val ≤ 127 := by
        intro c hc
        obtain rfl := List.eq_of_mem_replicate hc
        decide
      simp only [zeroed, estimate, quotedSize, zeros]
      rw [Instant.utf8ByteSize_ascii hascii, List.length_replicate]
  | null => rfl
  | bool value => rfl
  | int value => rfl
  | double value => rfl
  | array items => rfl
  | object members => rfl

theorem estimate_maskAt (name : String) {mask : Json → Json}
    (hmask : ∀ value, (mask value).estimate = value.estimate) (document : Json) :
    (document.maskAt name mask).estimate = document.estimate := by
  cases document with
  | object members =>
      simp only [maskAt, estimate]
      congr 1
      induction members with
      | nil => rfl
      | cons member rest ih =>
          simp only [List.map_cons, estimateMembers, ih]
          split
          · rw [hmask]
          · rfl
  | null => rfl
  | bool value => rfl
  | int value => rfl
  | double value => rfl
  | string value => rfl
  | array items => rfl

/-- Masking keeps the size estimate, so batches are cut at the same places. -/
theorem estimate_masked (document : Document) : document.masked.estimate = document.estimate :=
  estimate_maskAt _ (estimate_maskAt _ estimate_zeroed) document

theorem masked_object (members : List (String × Json)) :
    masked (.object members) = .object (members.map fun (key, value) =>
      (key, if key = "document_meta" then value.maskAt "indexed_at" zeroed else value)) := rfl

end Json

section Exporting

variable {now other : Instant} (hnow : now.IsUsual) (hother : other.IsUsual)
include hnow hother

theorem documentMeta_maskAt : (documentMeta now).maskAt "indexed_at" Json.zeroed =
    (documentMeta other).maskAt "indexed_at" Json.zeroed := by
  simp [documentMeta, Json.maskAt, Json.zeroed, hnow.utf8ByteSize_text, hother.utf8ByteSize_text]

theorem masked_sitemapEntry (entry : SitemapEntry) :
    (Artifact.document now entry).masked = (Artifact.document other entry).masked := by
  simp [Artifact.document, Json.masked_object, documentMeta_maskAt hnow hother]

theorem masked_finding (finding : Finding) :
    (Artifact.document now finding).masked = (Artifact.document other finding).masked := by
  simp [Artifact.document, Json.masked_object, documentMeta_maskAt hnow hother]

theorem masked_trafficRecord (record : TrafficRecord) :
    (Artifact.document now record).masked = (Artifact.document other record).masked := by
  simp [Artifact.document, Json.masked_object, documentMeta_maskAt hnow hother]

/-- Two settings documents differ only in when they were made. -/
theorem masked_settingsDocument (projectId : String) (exported : List (SettingsPart × String)) :
    (settingsDocument now projectId exported).masked =
      (settingsDocument other projectId exported).masked := by
  simp [settingsDocument, Json.masked_object, documentMeta_maskAt hnow hother]

end Exporting

def Payload.masked : Payload → Payload
  | .bulk documents => .bulk (documents.map Json.masked)
  | .single document => .single document.masked

/-- A request that does not tell when its documents were exported. -/
def Request.masked (request : Request) : Request :=
  { request with payload := request.payload.masked }

def Exchange.masked (exchange : Exchange) : Exchange :=
  { exchange with request := exchange.request.masked }

/-- What is refused is told by position and not by what the documents say. -/
theorem BulkReply.refused_map (documents : List Document) (change : Document → Document)
    (reply : BulkReply) :
    refused (documents.map change) reply = (refused documents reply).map change := by
  cases reply with
  | error error => rfl
  | ok outcome =>
      simp only [refused, List.length_map, List.map_filterMap]
      apply List.filterMap_congr
      intro position _
      exact List.getElem?_map

namespace Batch

variable {κ : Type} (batch : Batch κ) (limits : BatchLimits) (key : κ) (document : Document)

def masked : Batch κ where
  entries := batch.entries.map fun (key, document) => (key, document.masked)
  bytes := batch.bytes

@[simp] theorem masked_documents : batch.masked.documents = batch.documents.map Json.masked := by
  simp [masked, documents, Function.comp_def]

@[simp] theorem masked_keys : batch.masked.keys = batch.keys := by
  simp [masked, keys, Function.comp_def]

/-- Batches that are the same when masked hold the same documents, but for clock values, and the
same keys. -/
theorem documents_alike {batch batch' : Batch κ} (hsame : batch.masked = batch'.masked) :
    batch.documents.map Json.masked = batch'.documents.map Json.masked := by
  rw [← masked_documents, hsame, masked_documents]

theorem keys_alike {batch batch' : Batch κ} (hsame : batch.masked = batch'.masked) :
    batch.keys = batch'.keys := by
  rw [← batch.masked_keys, hsame, batch'.masked_keys]

theorem masked_add : (batch.add key document).masked = batch.masked.add key document.masked := by
  simp [add, masked, Json.estimate_masked]

theorem masked_isFull : batch.masked.isFull limits = batch.isFull limits := by
  have hsize : batch.masked.size = batch.size := List.length_map _
  rw [isFull, isFull, hsize]
  rfl

/-- Masking changes no decision about room in a batch. -/
theorem masked_overflows :
    batch.masked.overflows limits document.masked = batch.overflows limits document := by
  simp [overflows, masked, Json.estimate_masked]

/-- Documents are put together in the same way whether they are masked or not. -/
theorem masked_push : batch.masked.push limits key document.masked =
    ((batch.push limits key document).1.map masked,
      (batch.push limits key document).2.masked) := by
  have hadded : empty.add key document.masked = (empty.add key document).masked :=
    (empty.masked_add key document).symm
  simp only [push, masked_overflows]
  split
  · dsimp only
    rw [hadded, masked_isFull]
    split <;> rfl
  · dsimp only
    rw [← masked_add, masked_isFull]
    split <;> rfl

theorem masked_finish : batch.masked.finish = batch.finish.map masked := by
  simp only [finish, masked, List.isEmpty_map]
  split <;> rfl

end Batch

namespace RetryQueue

variable (queue : RetryQueue) (index : String) (documents : List Document)

def masked : RetryQueue :=
  { queue with queues := queue.queues.map fun (name, waiting) => (name, waiting.map Json.masked) }

theorem lookup_masked : queue.masked.queues.lookup index =
    (queue.queues.lookup index).map (List.map Json.masked) := by
  obtain ⟨capacity, queues⟩ := queue
  simp only [masked]
  induction queues with
  | nil => rfl
  | cons entry rest ih =>
      obtain ⟨name, waiting⟩ := entry
      rw [List.map_cons, List.lookup_cons, List.lookup_cons]
      cases index == name with
      | true => rfl
      | false => exact ih

theorem masked_documents :
    queue.masked.documents index = (queue.documents index).map Json.masked := by
  rw [documents, documents, lookup_masked]
  cases queue.queues.lookup index <;> rfl

theorem masked_replaced (queues : List (String × List Document)) :
    (replaced index documents queues).map
        (fun (name, waiting) => (name, waiting.map Json.masked)) =
      replaced index (documents.map Json.masked)
        (queues.map fun (name, waiting) => (name, waiting.map Json.masked)) := by
  induction queues with
  | nil => rfl
  | cons entry rest ih =>
      simp only [replaced, List.map_cons]
      split
      · rfl
      · rw [List.map_cons, ih]

theorem masked_set : (queue.set index documents).masked =
    queue.masked.set index (documents.map Json.masked) := by
  simp only [set, masked, masked_replaced]

/-- Masked documents find as much room as the documents themselves. -/
theorem masked_offerAll : queue.masked.offerAll index (documents.map Json.masked) =
    ((queue.offerAll index documents).1, (queue.offerAll index documents).2.masked) := by
  simp only [offerAll, masked_set, masked_documents, List.length_map, List.map_append,
    ← List.map_take]
  rfl

/-- Polling a masked queue is masking what is polled and what is left. -/
theorem masked_poll (count : Nat) : queue.masked.poll index count =
    ((queue.poll index count).1.map Json.masked, (queue.poll index count).2.masked) := by
  simp only [poll, masked_documents, lookup_masked, Option.isSome_map, ← List.map_take,
    ← List.map_drop]
  split
  · rw [masked_set]
  · rfl

theorem size_masked : queue.masked.size index = queue.size index := by
  rw [size, masked_documents, List.length_map, size]

theorem totalSize_masked : queue.masked.totalSize = queue.totalSize := by
  simp only [totalSize, masked, List.length_flatMap, List.map_map, Function.comp_def,
    List.length_map]

theorem pending_masked : queue.masked.pending = queue.pending := by
  have hwaiting : (fun entry : String × List Document => !(entry.2.map Json.masked).isEmpty) =
      fun entry => !entry.2.isEmpty := by
    funext entry
    rw [List.isEmpty_map]
  simp only [pending, masked, List.filter_map, List.map_map, Function.comp_def, hwaiting]

end RetryQueue

end SearchFeed
