import SearchFeed.Config
import SearchFeed.Proofs.Lowercase
import SearchFeed.Proofs.Padding

/-! # Names in any case

A name that has only basic lower-case letters, none of them a `k`, is what a
text becomes in lower case just if each character of the text is the one of the
name or its capital. Blanks around a name do not matter.
-/

namespace SearchFeed

namespace Text

/-- A character that stands for one of a name: the same, or its capital. -/
def InEitherCase (written c : Char) : Prop := written = c ∨ written = c.toUpper
deriving Decidable

/-- The same for a name in which hyphens may stand for underscores. -/
def InEitherCaseOrHyphen (written c : Char) : Prop :=
  InEitherCase written c ∨ written = '-' ∧ c = '_'
deriving Decidable

theorem toLower_eq_iff {written c : Char} (hupper : c.isUpper = false) :
    written.toLower = c ↔ InEitherCase written c := by
  constructor
  · rintro rfl
    by_cases hwritten : written.isUpper
    · exact .inr ((Char.toUpper_toLower_eq_toUpper written).trans
        (Char.toUpper_eq_of_not_isLower (Char.not_isLower_of_isUpper hwritten))).symm
    · exact .inl (Char.toLower_eq_of_not_isUpper hwritten).symm
  · have hlower : c.toLower = c := Char.toLower_eq_of_not_isUpper (by rw [hupper]; decide)
    rintro (rfl | rfl)
    · exact hlower
    · exact (Char.toLower_toUpper_eq_toLower c).trans hlower

theorem ascii_of_ascii_toLower {c : Char} (hascii : c.toLower.toNat < 0x80) : c.toNat < 0x80 := by
  by_cases hupper : c.isUpper
  · have hrange : 0x41 ≤ c.toNat ∧ c.toNat ≤ 0x5a := by
      simpa [Char.isUpper, UInt32.le_iff_toNat_le] using hupper
    omega
  · rwa [Char.toLower_eq_of_not_isUpper hupper] at hascii

theorem hyphen_toLower_iff {written c : Char} (hupper : c.isUpper = false) (hhyphen : c ≠ '-') :
    (if written.toLower = '-' then '_' else written.toLower) = c ↔
      InEitherCaseOrHyphen written c := by
  constructor
  · intro hspelled
    split at hspelled
    next hlower =>
      rcases (toLower_eq_iff (by decide)).mp hlower with rfl | rfl
      · exact .inr ⟨rfl, hspelled.symm⟩
      · exact .inr ⟨rfl, hspelled.symm⟩
    next => exact .inl ((toLower_eq_iff hupper).mp hspelled)
  · rintro (hcase | ⟨rfl, rfl⟩)
    · rw [(toLower_eq_iff hupper).mpr hcase, if_neg hhyphen]
    · rfl

theorem map_eq_iff_forall₂ {α β : Type} {f : α → β} {R : α → β → Prop} {results : List β}
    (hR : ∀ b ∈ results, ∀ a, f a = b ↔ R a b) (items : List α) :
    items.map f = results ↔ List.Forall₂ R items results := by
  induction results generalizing items with
  | nil => rw [List.map_eq_nil_iff, List.forall₂_nil_right_iff]
  | cons result results ih =>
      cases items with
      | nil => exact iff_of_false (by simp) (by simp)
      | cons item items =>
          obtain ⟨hresult, hresults⟩ := List.forall_mem_cons.mp hR
          rw [List.map_cons, List.cons.injEq, List.forall₂_cons, hresult, ih hresults]

section Lowered

variable {name : List Char} {replace : Char → Char} {stands : Char → Char → Prop}

/-- A text becomes a plain name, in lower case and with some characters replaced, just if it does
so character by character. -/
theorem map_lowercase_eq_iff (hname : ∀ c ∈ name, Unicode.IsPlain c)
    (hreplace : ∀ c, Unicode.IsPlain (replace c) → Unicode.IsPlain c)
    (hstands : ∀ c ∈ name, ∀ written, replace written.toLower = c ↔ stands written c)
    (text : List Char) :
    (Unicode.lowercaseFrom [] text).map replace = name ↔ List.Forall₂ stands text name := by
  have hlowered (hascii : ∀ c ∈ text, c.toNat < 0x80) :
      (Unicode.lowercaseFrom [] text).map replace =
        text.map fun written => replace written.toLower := by
    rw [Unicode.lowercaseFrom_ascii [] hascii, List.map_map]
    rfl
  rw [← map_eq_iff_forall₂ hstands]
  constructor
  · rintro rfl
    have hplain : ∀ d ∈ Unicode.lowercaseFrom [] text, Unicode.IsPlain d := fun d hd =>
      hreplace d (hname _ (List.mem_map_of_mem hd))
    exact (hlowered (Unicode.ascii_of_lowercaseFrom hplain)).symm
  · rintro rfl
    refine hlowered fun c hc => ascii_of_ascii_toLower ?_
    exact (hreplace _ (hname _ (List.mem_map_of_mem hc))).1

end Lowered

/-- The characters of names: basic lower-case letters other than `k`, and underscores. -/
def isNameChar (c : Char) : Bool := c.isLower && c ≠ 'k' || c = '_'

/-- Whether a text is a name: it is not empty and has only characters of names. -/
def isName (name : String) : Bool := !name.toList.isEmpty && name.toList.all isNameChar

/-- The word is the name in any letter case. -/
def Spells (name : String) (word : List Char) : Prop :=
  List.Forall₂ InEitherCase word name.toList
deriving Decidable

/-- The word is the name in any letter case, with a hyphen in place of an underscore or not. -/
def SpellsHyphened (name : String) (word : List Char) : Prop :=
  List.Forall₂ InEitherCaseOrHyphen word name.toList
deriving Decidable

theorem isPlain_of_isNameChar {c : Char} (hc : isNameChar c = true) : Unicode.IsPlain c := by
  rcases Bool.or_eq_true_iff.mp hc with hletter | hunderscore
  · obtain ⟨hlower, hk⟩ := Bool.and_eq_true_iff.mp hletter
    have hrange : 0x61 ≤ c.toNat ∧ c.toNat ≤ 0x7a := by
      simpa [Char.isLower, UInt32.le_iff_toNat_le] using hlower
    exact ⟨by omega, Bool.eq_false_iff.mpr (Char.not_isUpper_of_isLower hlower),
      of_decide_eq_true hk⟩
  · rw [of_decide_eq_true hunderscore]
    decide

section Names

variable {name : String} (hname : isName name = true)
include hname

theorem isNameChar_of_mem {c : Char} (hc : c ∈ name.toList) : isNameChar c = true :=
  List.all_eq_true.mp (Bool.and_eq_true_iff.mp hname).2 c hc

theorem isPlain_of_mem {c : Char} (hc : c ∈ name.toList) : Unicode.IsPlain c :=
  isPlain_of_isNameChar (isNameChar_of_mem hname hc)

/-- For a name of lower-case letters, a text has it as its lower case exactly when it spells it in
either case. -/
theorem lowercase_eq_iff (text : String) :
    Unicode.lowercase text = name ↔ Spells name text.toList := by
  rw [← String.toList_inj, Unicode.lowercase, String.toList_ofList, Spells,
    ← map_lowercase_eq_iff (fun _ hc => isPlain_of_mem hname hc) (fun _ hplain => hplain)
      (fun _ hc _ => toLower_eq_iff (isPlain_of_mem hname hc).2.1), List.map_id']

/-- The same with hyphens allowed for underscores. -/
theorem underscored_lowercase_eq_iff (text : String) :
    DataSource.underscored (Unicode.lowercase text) = name ↔ SpellsHyphened name text.toList := by
  rw [← String.toList_inj, DataSource.underscored, String.toList_ofList, Unicode.lowercase,
    String.toList_ofList]
  refine map_lowercase_eq_iff (fun _ hc => isPlain_of_mem hname hc) (fun c hplain => ?_)
    (fun c hc _ => hyphen_toLower_iff (isPlain_of_mem hname hc).2.1 ?_) _
  · by_cases hhyphen : c = '-'
    · rw [hhyphen]
      decide
    · rwa [if_neg hhyphen] at hplain
  · rintro rfl
    exact absurd (isNameChar_of_mem hname hc) (by decide)

end Names

/-! ### Words -/

def isWordChar (c : Char) : Bool := c.isAlpha || c = '_' || c = '-'

theorem not_isBlank_of_isWordChar {c : Char} (hc : isWordChar c = true) : isBlank c = false := by
  simp only [isWordChar, Bool.or_eq_true, decide_eq_true_eq] at hc
  rcases hc with (halpha | rfl) | rfl
  · refine Bool.eq_false_iff.mpr fun hblank => ?_
    rw [not_isAlpha_of_isBlank hblank] at halpha
    cases halpha
  · decide
  · decide

theorem isWordChar_of_stands {written c : Char} (hstands : InEitherCaseOrHyphen written c)
    (hc : isNameChar c = true) : isWordChar written = true := by
  rcases Bool.or_eq_true_iff.mp hc with hletter | hunderscore
  · have halpha : c.isAlpha = true := by
      rw [Char.isAlpha, (Bool.and_eq_true_iff.mp hletter).1, Bool.or_true]
    rcases hstands with (rfl | rfl) | ⟨rfl, -⟩
    · rw [isWordChar, halpha]
      rfl
    · rw [isWordChar, Char.isAlpha_toUpper_eq_isAlpha, halpha]
      rfl
    · rfl
  · rw [of_decide_eq_true hunderscore] at hstands
    rcases hstands with (rfl | rfl) | ⟨rfl, -⟩ <;> rfl

/-- A word that spells names. -/
def IsWord (word : List Char) : Prop := word ≠ [] ∧ ∀ c ∈ word, isWordChar c = true

theorem IsWord.not_isBlank {word : List Char} (hword : IsWord word) :
    ∀ c ∈ word, isBlank c = false :=
  fun c hc => not_isBlank_of_isWordChar (hword.2 c hc)

theorem isWordChar_of_forall₂ {word name : List Char}
    (hname : ∀ c ∈ name, isNameChar c = true)
    (hword : List.Forall₂ InEitherCaseOrHyphen word name) : ∀ c ∈ word, isWordChar c = true := by
  induction hword with
  | nil => exact List.forall_mem_nil _
  | cons hstands _ ih =>
      obtain ⟨hfirst, hrest⟩ := List.forall_mem_cons.mp hname
      exact List.forall_mem_cons.mpr ⟨isWordChar_of_stands hstands hfirst, ih hrest⟩

theorem SpellsHyphened.isWord {name : String} (hname : isName name = true) {word : List Char}
    (hword : SpellsHyphened name word) : IsWord word := by
  refine ⟨?_, isWordChar_of_forall₂ (fun _ hc => isNameChar_of_mem hname hc) hword⟩
  rintro rfl
  rw [SpellsHyphened, List.forall₂_nil_left_iff] at hword
  rw [isName, hword] at hname
  cases hname

theorem Spells.isWord {name : String} (hname : isName name = true) {word : List Char}
    (hword : Spells name word) : IsWord word :=
  SpellsHyphened.isWord hname (hword.imp fun _ _ => .inl)

theorem lowercase_trim_eq_iff {name : String} (hname : isName name = true) (text : String) :
    Unicode.lowercase (trim text) = name ↔ Padded (Spells name) text.toList := by
  rw [lowercase_eq_iff hname, trim, String.toList_ofList,
    padded_iff fun _ hword => (Spells.isWord hname hword).not_isBlank]

end Text

/-! ### What is named -/

/-- Of things that all have different names, the one found under a name is the one that has it. -/
theorem find?_named_eq_some_iff {α : Type} {all : List α} {name : α → String}
    (hall : ∀ a, a ∈ all) (hname : Function.Injective name) {text : String} {a : α} :
    (all.find? fun a => name a = text) = some a ↔ text = name a := by
  constructor
  · intro hfound
    have hnamed := List.find?_some hfound
    exact (decide_eq_true_iff.mp hnamed).symm
  · rintro rfl
    have hsome : (all.find? fun other => name other = name a).isSome :=
      List.find?_isSome.mpr ⟨a, hall a, decide_eq_true rfl⟩
    obtain ⟨other, hfound⟩ := Option.isSome_iff_exists.mp hsome
    have hnamed := List.find?_some hfound
    rw [hfound, hname (decide_eq_true_iff.mp hnamed)]

namespace ScopeKind

theorem isName_name (kind : ScopeKind) : Text.isName kind.name = true := by
  cases kind <;> rw [name, Text.isName, String.toList_ofList] <;> decide

theorem name_injective : Function.Injective name := by
  intro kind other
  cases kind <;> cases other <;> decide

theorem ofText?_eq_some_iff {text : String} {kind : ScopeKind} :
    ofText? text = some kind ↔ Text.Padded (Text.Spells kind.name) text.toList := by
  rw [ofText?, named?, find?_named_eq_some_iff (fun kind => by cases kind <;> decide)
    name_injective, Text.lowercase_trim_eq_iff kind.isName_name]

end ScopeKind

namespace SettingsPart

theorem isName_name (part : SettingsPart) : Text.isName part.name = true := by
  cases part <;> rw [name, Text.isName, String.toList_ofList] <;> decide

theorem name_injective : Function.Injective name := by
  intro part other
  cases part <;> cases other <;> decide

theorem ofText?_eq_some_iff {text : String} {part : SettingsPart} :
    ofText? text = some part ↔ Text.Padded (Text.Spells part.name) text.toList := by
  rw [ofText?, named?, find?_named_eq_some_iff (fun part => by cases part <;> decide)
    name_injective, Text.lowercase_trim_eq_iff part.isName_name]

end SettingsPart

namespace DataSource

/-- The names that a family goes by in a list of sources, in lower case and with underscores. -/
def names : DataSource → List String
  | .findings => ["findings", "issues"]
  | .proxyHistory => ["proxy_history", "proxyhistory"]
  | source => [source.name]

theorem isName_of_mem_names {source : DataSource} {name : String} (hname : name ∈ source.names) :
    Text.isName name = true := by
  cases source <;>
    simp only [names, DataSource.name, List.mem_cons, List.not_mem_nil, or_false] at hname <;>
    rcases hname with rfl | rfl <;> rw [Text.isName, String.toList_ofList] <;> decide

theorem spelled?_eq_some_iff {text : String} {source : DataSource} :
    spelled? text = some source ↔ text ∈ source.names := by
  constructor
  · intro hspelled
    unfold spelled? at hspelled
    split at hspelled <;> cases hspelled <;> decide
  · intro hmem
    cases source <;> simp only [names, name, List.mem_cons, List.not_mem_nil, or_false] at hmem <;>
      rcases hmem with rfl | rfl <;> rfl

/-- The word is one of the names of the family, in any letter case and with hyphens or not. -/
def Spelled (source : DataSource) (word : List Char) : Prop :=
  ∃ name ∈ source.names, Text.SpellsHyphened name word
deriving Decidable

theorem Spelled.isWord {source : DataSource} {word : List Char} (hword : source.Spelled word) :
    Text.IsWord word := by
  obtain ⟨name, hname, hspells⟩ := hword
  exact Text.SpellsHyphened.isWord (isName_of_mem_names hname) hspells

theorem ofText?_eq_some_iff {text : String} {source : DataSource} :
    ofText? text = some source ↔ Text.Padded source.Spelled text.toList := by
  rw [ofText?, spelled?_eq_some_iff, Text.padded_iff fun _ hword => hword.isWord.not_isBlank]
  have hspells {name : String} (hname : name ∈ source.names) :
      underscored (Unicode.lowercase (Text.trim text)) = name ↔
        Text.SpellsHyphened name (Text.trimChars text.toList) := by
    rw [Text.underscored_lowercase_eq_iff (isName_of_mem_names hname), Text.trim,
      String.toList_ofList]
  constructor
  · exact fun hmem => ⟨_, hmem, (hspells hmem).mp rfl⟩
  · rintro ⟨name, hname, hword⟩
    rwa [(hspells hname).mpr hword]

end DataSource

namespace LogFormat

theorem isName_name (format : LogFormat) : Text.isName format.name = true := by
  cases format <;> rw [name, Text.isName, String.toList_ofList] <;> decide

end LogFormat

end SearchFeed
