import Mathlib.Data.Set.Function
import SearchFeed.Artifact
import SearchFeed.Proofs.Joined

/-! # What keys tell apart

A key stands for the bytes of the identifying texts of an item with a bar
between any two. A bar inside a text looks like one between texts, so an item
is told apart from all others of its kind exactly if its texts hold no bars.
-/

namespace SearchFeed

namespace Text

theorem loop_eq (bytes : ByteArray) (place : Nat) (read : List UInt8) :
    ByteArray.toList.loop bytes place read = read.reverse ++ bytes.data.toList.drop place := by
  fun_induction ByteArray.toList.loop bytes place read with
  | case1 place read hplace ih =>
      have hlist : place < bytes.data.toList.length := by simpa using hplace
      rw [ih, List.drop_eq_getElem_cons hlist]
      simp [ByteArray.get!, hplace]
  | case2 place read hplace =>
      rw [List.drop_eq_nil_of_le (by simpa using Nat.le_of_not_lt hplace)]
      simp

/-- A text is known by its UTF-8 octets. -/
theorem utf8_inj {text other : String} :
    text.toUTF8.toList = other.toUTF8.toList ↔ text = other := by
  rw [ByteArray.toList, loop_eq, ByteArray.toList, loop_eq]
  simp only [List.reverse_nil, List.nil_append, List.drop_zero, Array.toList_inj]
  rw [← ByteArray.ext_iff, String.toUTF8, String.toUTF8, String.toByteArray_inj]

theorem toString_inj {n m : Nat} : toString n = toString m ↔ n = m := by
  refine ⟨fun hsame => ?_, congrArg toString⟩
  rw [Nat.toString_eq_ofList_toDigits, Nat.toString_eq_ofList_toDigits] at hsame
  rw [← Nat.ofDigitChars_ten_toDigits (n := n), String.ofList_injective hsame,
    Nat.ofDigitChars_ten_toDigits]

end Text

namespace PushKey

def bars (text : String) : Nat := Text.occurrences '|' text

theorem bars_eq_zero_iff {text : String} : bars text = 0 ↔ '|' ∉ text.toList :=
  List.count_eq_zero

theorem bars_toString (n : Nat) : bars (toString n) = 0 := by
  rw [bars_eq_zero_iff, Nat.toString_eq_ofList_toDigits, String.toList_ofList]
  intro hbar
  exact absurd (Nat.isDigit_of_mem_toDigits (by decide) (by decide) hbar) (by decide)

variable {fields others : List String}

/-- Two lists of fields give one material exactly when they give one joined text. -/
theorem material_inj :
    material fields = material others ↔ Text.joined "|" fields = Text.joined "|" others :=
  Text.utf8_inj

/-- Identifying texts are given back by their bytes and the number of bars in each of them. -/
theorem fields_eq_iff :
    fields = others ↔
      material fields = material others ∧ fields.map bars = others.map bars := by
  constructor
  · rintro rfl
    exact ⟨rfl, rfl⟩
  · rintro ⟨hmaterial, hbars⟩
    exact Text.joined_inj_of_occurrences '|' (material_inj.mp hmaterial) hbars

/-- Texts without bars have their bytes to themselves among all lists of as many texts: other texts
with these bytes would have to find bars of their own in the ones that are between texts. -/
theorem fields_eq_of_bars_eq_zero (hlength : fields.length = others.length)
    (hbars : ∀ field ∈ fields, bars field = 0) (hmaterial : material fields = material others) :
    fields = others := by
  cases fields with
  | nil => exact (List.length_eq_zero_iff.mp hlength.symm).symm
  | cons field fields =>
    cases others with
    | nil => cases hlength
    | cons other others =>
        have htotal : ((field :: fields).map bars).sum + fields.length =
            ((other :: others).map bars).sum + others.length := by
          refine (Text.occurrences_joined '|' field fields).symm.trans ?_
          refine Eq.trans ?_ (Text.occurrences_joined '|' other others)
          exact congrArg (Text.occurrences '|') (material_inj.mp hmaterial)
        have hnone : ((field :: fields).map bars).sum = 0 := by
          simpa [List.sum_eq_zero_iff_forall_eq_nat] using hbars
        have hsum : ((other :: others).map bars).sum = 0 := by
          have hlengths : fields.length = others.length := Nat.succ.inj hlength
          omega
        have hothers : ∀ field ∈ other :: others, bars field = 0 := by
          simpa [List.sum_eq_zero_iff_forall_eq_nat] using hsum
        refine fields_eq_iff.mpr ⟨hmaterial, ?_⟩
        rw [List.map_eq_replicate_iff.mpr hbars, List.map_eq_replicate_iff.mpr hothers, hlength]

/-- A bar inside a text can be taken for the one between that text and the next. -/
theorem material_cut (before : List String) (first second next : String) (after : List String) :
    material (before ++ (first ++ "|" ++ second) :: next :: after) =
      material (before ++ first :: (second ++ "|" ++ next) :: after) := by
  rw [material_inj]
  induction before with
  | nil => cases after <;> simp [Text.joined, String.append_assoc]
  | cons field rest ih =>
      cases rest <;> simpa [Text.joined] using ih

/-- A text with a bar falls into what stands before and after one of its bars. -/
theorem exists_cut {text : String} (hbar : '|' ∈ text.toList) :
    ∃ first second, text = first ++ "|" ++ second := by
  obtain ⟨first, second, hcut⟩ := List.append_of_mem hbar
  refine ⟨String.ofList first, String.ofList second, String.toList_injective ?_⟩
  rw [hcut]
  simp

theorem cut_ne (first second : String) : first ++ "|" ++ second ≠ first := by
  intro hsame
  have hlength := congrArg String.length hsame
  rw [String.length_append, String.length_append] at hlength
  have hbar : "|".length = 1 := rfl
  omega

end PushKey

section Items

open PushKey (material bars)

/-- Where the hash tells the two materials apart, two items share a key exactly when they share the
material. -/
theorem Artifact.key_inj {α : Type} [Artifact α] {item other : α}
    (hdistinct : Set.InjOn Blake3.hash
      {material (Artifact.identity item), material (Artifact.identity other)}) :
    Artifact.key item = Artifact.key other ↔
      material (Artifact.identity item) = material (Artifact.identity other) := by
  rw [Artifact.key, Artifact.key, PushKey.ofFields, PushKey.ofFields, PushKey.mk.injEq]
  exact ⟨fun hdigest => hdistinct (by simp) (by simp) hdigest, congrArg Blake3.hash⟩

theorem SitemapEntry.identity_inj {entry other : SitemapEntry} :
    Artifact.identity entry = Artifact.identity other ↔
      entry.url = other.url ∧ entry.method = other.method := by
  simp [Artifact.identity]

theorem Finding.identity_inj {finding other : Finding} :
    Artifact.identity finding = Artifact.identity other ↔
      finding.name = other.name ∧ finding.baseUrl = other.baseUrl ∧ finding.host = other.host ∧
        finding.port = other.port ∧ finding.severity = other.severity ∧
        finding.detail = other.detail := by
  simp only [Artifact.identity, List.cons.injEq, Text.toString_inj, and_true]

/-- An entry of the site map has its bytes to itself exactly if neither its URL nor its method holds
a bar. -/
theorem SitemapEntry.told_apart_iff (entry : SitemapEntry) :
    (∀ other : SitemapEntry,
      material (Artifact.identity entry) = material (Artifact.identity other) ↔
        entry.url = other.url ∧ entry.method = other.method) ↔
      '|' ∉ entry.url.toList ∧ '|' ∉ entry.method.toList := by
  constructor
  · intro hapart
    obtain ⟨url, method, status, mimeType, title⟩ := entry
    constructor
    · intro hbar
      obtain ⟨first, second, rfl⟩ := PushKey.exists_cut hbar
      have hsame := (hapart ⟨first, second ++ "|" ++ method, status, mimeType, title⟩).mp
        (PushKey.material_cut [] first second method [])
      exact PushKey.cut_ne first second hsame.1
    · intro hbar
      obtain ⟨first, second, rfl⟩ := PushKey.exists_cut hbar
      have hsame := (hapart ⟨url ++ "|" ++ first, second, status, mimeType, title⟩).mp
        (PushKey.material_cut [] url first second []).symm
      exact PushKey.cut_ne url first hsame.1.symm
  · rintro ⟨hurl, hmethod⟩ other
    rw [← identity_inj]
    refine ⟨PushKey.fields_eq_of_bars_eq_zero rfl ?_, congrArg material⟩
    simp only [Artifact.identity, List.forall_mem_cons, PushKey.bars_eq_zero_iff]
    exact ⟨hurl, hmethod, nofun⟩

/-- A finding has its bytes to itself exactly if none of the texts that identify it holds a bar. -/
theorem Finding.told_apart_iff (finding : Finding) :
    (∀ other : Finding,
      material (Artifact.identity finding) = material (Artifact.identity other) ↔
        finding.name = other.name ∧ finding.baseUrl = other.baseUrl ∧ finding.host = other.host ∧
          finding.port = other.port ∧ finding.severity = other.severity ∧
          finding.detail = other.detail) ↔
      ∀ text ∈ [finding.name, finding.baseUrl, finding.host, finding.severity, finding.detail],
        '|' ∉ text.toList := by
  constructor
  · intro hapart text htext hbar
    obtain ⟨name, severity, confidence, baseUrl, host, port, secure, detail, remediation,
      evidence⟩ := finding
    obtain ⟨first, second, hcut⟩ := PushKey.exists_cut hbar
    subst hcut
    simp only [List.mem_cons, List.not_mem_nil, or_false] at htext
    -- The texts around the port pass a part of themselves to a neighbour on their own side of it.
    rcases htext with rfl | rfl | rfl | rfl | rfl
    · have hsame := (hapart ⟨first, severity, confidence, second ++ "|" ++ baseUrl, host, port,
        secure, detail, remediation, evidence⟩).mp (PushKey.material_cut [] first second baseUrl
          [host, toString port, severity, detail])
      exact PushKey.cut_ne first second hsame.1
    · have hsame := (hapart ⟨name ++ "|" ++ first, severity, confidence, second, host, port,
        secure, detail, remediation, evidence⟩).mp (PushKey.material_cut [] name first second
          [host, toString port, severity, detail]).symm
      exact PushKey.cut_ne name first hsame.1.symm
    · have hsame := (hapart ⟨name, severity, confidence, baseUrl ++ "|" ++ first, second, port,
        secure, detail, remediation, evidence⟩).mp (PushKey.material_cut [name] baseUrl first second
          [toString port, severity, detail]).symm
      exact PushKey.cut_ne baseUrl first hsame.2.1.symm
    · have hsame := (hapart ⟨name, first, confidence, baseUrl, host, port,
        secure, second ++ "|" ++ detail, remediation, evidence⟩).mp (PushKey.material_cut
          [name, baseUrl, host, toString port] first second detail [])
      exact PushKey.cut_ne first second hsame.2.2.2.2.1
    · have hsame := (hapart ⟨name, severity ++ "|" ++ first, confidence, baseUrl, host, port,
        secure, second, remediation, evidence⟩).mp (PushKey.material_cut
          [name, baseUrl, host, toString port] severity first second []).symm
      exact PushKey.cut_ne severity first hsame.2.2.2.2.1.symm
  · intro hbars other
    rw [← identity_inj]
    refine ⟨PushKey.fields_eq_of_bars_eq_zero rfl ?_, congrArg material⟩
    simp only [List.forall_mem_cons, ← PushKey.bars_eq_zero_iff] at hbars
    obtain ⟨hname, hbaseUrl, hhost, hseverity, hdetail, -⟩ := hbars
    simp only [Artifact.identity, List.forall_mem_cons]
    exact ⟨hname, hbaseUrl, hhost, PushKey.bars_toString finding.port, hseverity, hdetail, nofun⟩

/-- The bytes behind a key tell an entry of the site map or a finding apart from all others exactly
if no bar occurs in the texts that identify it. In any case, two items of a kind are identified by
the same texts exactly if they have the same bytes and their texts, one by one, hold as many bars;
and as long as their bytes do not collide, they share a key exactly if they share these bytes. -/
theorem keys_tell_apart_without_bars (entry : SitemapEntry) (finding : Finding) :
    ((∀ other : SitemapEntry,
      material (Artifact.identity entry) = material (Artifact.identity other) ↔
        entry.url = other.url ∧ entry.method = other.method) ↔
      '|' ∉ entry.url.toList ∧ '|' ∉ entry.method.toList) ∧
    ((∀ other : Finding,
      material (Artifact.identity finding) = material (Artifact.identity other) ↔
        finding.name = other.name ∧ finding.baseUrl = other.baseUrl ∧ finding.host = other.host ∧
          finding.port = other.port ∧ finding.severity = other.severity ∧
          finding.detail = other.detail) ↔
      ∀ text ∈ [finding.name, finding.baseUrl, finding.host, finding.severity, finding.detail],
        '|' ∉ text.toList) ∧
    ∀ {α : Type} [Artifact α] (item other : α),
      (Artifact.identity item = Artifact.identity other ↔
        material (Artifact.identity item) = material (Artifact.identity other) ∧
          (Artifact.identity item).map bars = (Artifact.identity other).map bars) ∧
      (Set.InjOn Blake3.hash
          {material (Artifact.identity item), material (Artifact.identity other)} →
        (Artifact.key item = Artifact.key other ↔
          material (Artifact.identity item) = material (Artifact.identity other))) :=
  ⟨entry.told_apart_iff, finding.told_apart_iff,
    fun _ _ => ⟨PushKey.fields_eq_iff, Artifact.key_inj⟩⟩

/-- What ends the URL of one entry begins the method of another, so that two different entries share
a key. An entry and a finding without bars have their bytes to themselves. -/
theorem keys_tell_apart_without_bars_moved :
    let entry : SitemapEntry := ⟨"http://a.test/", "GET|POST", none, none, none⟩
    let other : SitemapEntry := ⟨"http://a.test/|GET", "POST", none, none, none⟩
    let plain : SitemapEntry := ⟨"http://a.test/", "POST", none, none, none⟩
    let finding : Finding :=
      ⟨"Open port", "low", "firm", "http://a.test/", "a.test", 80, false, "", "", []⟩
    Artifact.identity entry ≠ Artifact.identity other ∧
    Artifact.key entry = Artifact.key other ∧
    (∀ another : SitemapEntry,
      material (Artifact.identity plain) = material (Artifact.identity another) ↔
        plain.url = another.url ∧ plain.method = another.method) ∧
    ∀ another : Finding,
      material (Artifact.identity finding) = material (Artifact.identity another) ↔
        finding.name = another.name ∧ finding.baseUrl = another.baseUrl ∧
          finding.host = another.host ∧ finding.port = another.port ∧
          finding.severity = another.severity ∧ finding.detail = another.detail := by
  intro entry other plain finding
  obtain ⟨hplain, hfinding, hkeys⟩ := keys_tell_apart_without_bars plain finding
  obtain ⟨hsame, hshared⟩ := hkeys entry other
  have hbytes : material (Artifact.identity entry) = material (Artifact.identity other) := rfl
  refine ⟨fun hidentity => ?_, (hshared ?_).mpr hbytes, hplain.mpr ?_, hfinding.mpr ?_⟩
  · exact absurd (hsame.mp hidentity).2 (by decide +kernel)
  · rw [hbytes, Set.pair_eq_singleton]
    exact Set.injOn_singleton _ _
  · decide +kernel
  · decide +kernel

end Items

end SearchFeed
