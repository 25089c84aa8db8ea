import SearchFeed.Proofs.BadVariable

/-! # The variables of lists

Two variables hold lists: the sources and the parts of the settings. What such a
variable accepts is a grammar: items between commas, each with blanks around it
or not, blank items for nothing, and every other item a name that is known. An
accepted text sets the list to what it lists, unless another variable is at
fault, and a text that is not accepted never gets as far as a list.
-/

namespace SearchFeed

/-- The variables that hold lists. -/
inductive ListVariable where
  | sources
  | parts
deriving DecidableEq, Repr

namespace ListVariable

def Item : ListVariable → Type
  | sources => DataSource
  | parts => SettingsPart

def setting : ListVariable → Setting
  | sources => .selected
  | parts => .parts

def names : ListVariable → List String
  | sources => DataSource.all.flatMap DataSource.names
  | parts => SettingsPart.all.map SettingsPart.name

example : sources.names = ["settings", "sitemap", "findings", "issues", "proxy_history",
    "proxyhistory", "traffic"] := rfl

example : parts.names = ["project", "user"] := rfl

/-- What becomes of an item before it is compared with the names. -/
def plain : ListVariable → String → String
  | sources, item => DataSource.underscored (Unicode.lowercase (Text.trim item))
  | parts, item => Unicode.lowercase (Text.trim item)

/-- The word is a spelling of the item. -/
def Spelled : (list : ListVariable) → list.Item → List Char → Prop
  | sources => DataSource.Spelled
  | parts => fun part => Text.Spells part.name

def chosen : (list : ListVariable) → Config → List list.Item
  | sources, config => config.sources.selected
  | parts, config => config.sources.settingsParts

def replace : (list : ListVariable) → List list.Item → Config → Config
  | sources, items, config => { config with sources.selected := items }
  | parts, items, config => { config with sources.settingsParts := items }

variable (list : ListVariable)

theorem isWord_of_spelled (item : list.Item) (word : List Char) (hword : list.Spelled item word) :
    Text.IsWord word := by
  cases list with
  | sources => exact DataSource.Spelled.isWord hword
  | parts => exact Text.Spells.isWord (SettingsPart.isName_name item) hword

/-- An item is known just if it is a spelling of something, but for the blanks around it. -/
theorem plain_mem_names_iff {part : List Char} :
    list.plain (String.ofList part) ∈ list.names ↔
      ∃ item, Text.Padded (list.Spelled item) part := by
  cases list with
  | sources =>
      have hread (source : DataSource) :
          DataSource.underscored (Unicode.lowercase (Text.trim (String.ofList part))) ∈
              source.names ↔ Text.Padded source.Spelled part := by
        rw [← DataSource.spelled?_eq_some_iff, ← DataSource.ofText?,
          DataSource.ofText?_eq_some_iff, String.toList_ofList]
      have hall (source : DataSource) : source ∈ DataSource.all := by cases source <;> decide
      simp only [names, plain, List.mem_flatMap, hall, true_and, hread]
      rfl
  | parts =>
      have hread (chosen : SettingsPart) :
          chosen.name = Unicode.lowercase (Text.trim (String.ofList part)) ↔
            Text.Padded (Text.Spells chosen.name) part := by
        rw [eq_comm, Text.lowercase_trim_eq_iff chosen.isName_name, String.toList_ofList]
      have hall (chosen : SettingsPart) : chosen ∈ SettingsPart.all := by
        cases chosen <;> decide
      simp only [names, plain, List.mem_map, hall, true_and, hread]
      rfl

end ListVariable

namespace Config

variable (config : Config) (environment : Environment)

/-- If no other variable is at fault, a value results just if the text of a variable denotes it. -/
theorem override_update_ok_iff {setting : Setting} (hformat : setting ≠ .format)
    (hothers : ∀ other, other ≠ setting → environment.IsBad other → other = .format)
    {text : String} {value : setting.Value} :
    (∃ result, config.override (environment.update setting.key (some text)) = .ok result ∧
      result.get setting = value) ↔ setting.Denotes value text := by
  have hset := environment.update_self setting.key (some text)
  constructor
  · rintro ⟨result, hresult, rfl⟩
    obtain ⟨hsound, rfl⟩ := (override_eq_ok_iff config).mp hresult
    rcases (environment.update setting.key (some text)).unset_or_denotes_or_isBad setting with
      hunset | ⟨other, value, hother, hvalue⟩ | hbad
    · cases hset.symm.trans hunset
    · cases hset.symm.trans hother
      rwa [get_amended, Environment.replacement?_eq (Environment.given_of_denotes hset hvalue),
        Option.getD_some]
    · exact absurd (Environment.fault?_eq_none_iff_isBad.mp (hsound setting) hbad) hformat
  · intro hvalue
    have hgiven := Environment.given_of_denotes hset hvalue
    refine ⟨_, (override_eq_ok_iff config).mpr ⟨fun other => ?_, rfl⟩, ?_⟩
    · by_cases hother : other = setting
      · subst hother
        exact Environment.fault?_eq_none_iff.mpr ⟨_, hgiven⟩
      · rw [environment.fault?_update_of_ne hother]
        exact Environment.fault?_eq_none_iff_isBad.mpr (hothers other hother)
    · rw [get_amended, Environment.replacement?_eq hgiven, Option.getD_some]

/-- The variable of a list accepts exactly its grammar. A text that lists some items changes the
configuration that there is without the variable in just its list. A part that is neither blank nor
known refuses the configuration, and a text without such a part lists something. If no other
variable is at fault, the configuration is accepted just if the text lists something, with a list of
exactly these items, in order and with all repeats. -/
theorem override_takes_lists (list : ListVariable) (text : String) :
    (∀ items, IsListing list.Spelled text items →
      config.override (environment.update list.setting.key (some text)) =
        list.replace items <$> config.override (environment.update list.setting.key none)) ∧
    (∀ part ∈ text.toList.splitOn ',', ¬ (∀ c ∈ part, Text.isBlank c = true) →
      list.plain (String.ofList part) ∉ list.names →
      ∃ error, config.override (environment.update list.setting.key (some text)) = .error error ∧
        (error.NamesVariable list.setting.key ∨
          config.override (environment.update list.setting.key none) = .error error)) ∧
    ((∀ part ∈ text.toList.splitOn ',', (∀ c ∈ part, Text.isBlank c = true) ∨
      list.plain (String.ofList part) ∈ list.names) → ∃ items, IsListing list.Spelled text items) ∧
    ((∀ other, other ≠ list.setting → environment.IsBad other → other = .format) →
      ∀ items, (∃ result, config.override (environment.update list.setting.key (some text)) =
        .ok result ∧ list.chosen result = items) ↔ IsListing list.Spelled text items) := by
  refine ⟨fun items hlisting => ?_, fun part hmem hblank hunknown => ?_, fun hparts => ?_,
    fun hothers items => ?_⟩
  · cases list with
    | sources => exact config.override_update_of_denotes environment .selected hlisting
    | parts => exact config.override_update_of_denotes environment .parts hlisting
  · rw [list.plain_mem_names_iff] at hunknown
    have hnone := not_isListing list.isWord_of_spelled hmem hblank hunknown
    cases list with
    | sources => exact config.override_update_of_not_denotes environment (by decide) hnone
    | parts => exact config.override_update_of_not_denotes environment (by decide) hnone
  · simp only [list.plain_mem_names_iff] at hparts
    exact (exists_isListing_iff list.isWord_of_spelled).mpr hparts
  · cases list with
    | sources => exact config.override_update_ok_iff environment (by decide) hothers
    | parts => exact config.override_update_ok_iff environment (by decide) hothers

/-- Without the variable an empty environment leaves the configuration as it is. -/
theorem override_unset (setting : Setting) :
    config.override (Environment.update (fun _ => none) setting.key none) = .ok config := by
  have hnone (key : String) : Environment.update (fun _ => none) setting.key none key = none := by
    by_cases hkey : key = setting.key
    · rw [hkey, Environment.update_self]
    · exact Function.update_of_ne hkey _ _
  refine (override_eq_ok_iff config).mpr ⟨fun other =>
    Environment.fault?_eq_none_iff.mpr ⟨none, Environment.given_of_unset (hnone _)⟩, ?_⟩
  refine ext_get (fun other => ?_) rfl
  rw [get_amended, Environment.replacement?_of_unset (hnone _), Option.getD_none]

/-- Sources are taken in other spellings, with repeats and past an item that is missing, and so are
parts of the settings; a source that nobody knows refuses the configuration by name. -/
theorem override_takes_lists_respelled :
    (∃ result, override {} (Environment.update (fun _ => none) "SOURCES"
      (some "Proxy-History,, ISSUES,issues")) = .ok result ∧
        result.sources.selected = [.proxyHistory, .findings, .findings]) ∧
    (∃ result, override {} (Environment.update (fun _ => none) "SETTINGS_PARTS"
      (some "User ,PROJECT")) = .ok result ∧ result.sources.settingsParts = [.user, .project]) ∧
    ∃ error, override {} (Environment.update (fun _ => none) "SOURCES"
      (some "settings,site-maps")) = .error error ∧ error.NamesVariable "SOURCES" := by
  have hothers (list : ListVariable) (other : Setting) (_ : other ≠ list.setting)
      (hbad : Environment.IsBad (fun _ => none) other) : other = .format := by
    obtain ⟨_, hset, _⟩ := hbad
    cases hset
  have hnone : ∀ c ∈ ([] : List Char), Text.isBlank c = true := List.forall_mem_nil _
  have hspace : ∀ c ∈ [' '], Text.isBlank c = true := List.forall_mem_singleton.mpr rfl
  have hsources : IsListing (ListVariable.Spelled .sources) "Proxy-History,, ISSUES,issues"
      [DataSource.proxyHistory, .findings, .findings] := by
    have hfirst : DataSource.Spelled .proxyHistory "Proxy-History".toList :=
      ⟨"proxy_history", by decide, by decide +kernel⟩
    have hloud : DataSource.Spelled .findings "ISSUES".toList :=
      ⟨"issues", by decide, by decide +kernel⟩
    have hquiet : DataSource.Spelled .findings "issues".toList :=
      ⟨"issues", by decide, by decide +kernel⟩
    refine ⟨["Proxy-History".toList, [], " ISSUES".toList, "issues".toList], by decide +kernel, ?_⟩
    refine .item ⟨[], _, [], hnone, hfirst, hnone, by decide +kernel⟩ (.blank hnone ?_)
    refine .item ⟨[' '], _, [], hspace, hloud, hnone, by decide +kernel⟩ ?_
    exact .item ⟨[], _, [], hnone, hquiet, hnone, by decide +kernel⟩ .nil
  have hparts : IsListing (ListVariable.Spelled .parts) "User ,PROJECT"
      [SettingsPart.user, .project] := by
    have huser : Text.Spells (SettingsPart.name .user) "User".toList := by decide +kernel
    have hproject : Text.Spells (SettingsPart.name .project) "PROJECT".toList := by decide +kernel
    refine ⟨["User ".toList, "PROJECT".toList], by decide +kernel, ?_⟩
    refine .item ⟨[], _, [' '], hnone, huser, hspace, by decide +kernel⟩ ?_
    exact .item ⟨[], _, [], hnone, hproject, hnone, by decide +kernel⟩ .nil
  have hunknown : ListVariable.plain .sources (String.ofList "site-maps".toList) ∉
      ListVariable.names .sources := by
    rw [ListVariable.plain_mem_names_iff]
    rintro ⟨source, hword⟩
    have hspelled : source.Spelled (Text.trimChars "site-maps".toList) :=
      (Text.padded_iff (fun _ hword => hword.isWord.not_isBlank) _).mp hword
    revert hspelled
    cases source <;> decide +kernel
  refine ⟨?_, ?_, ?_⟩
  · obtain ⟨-, -, -, haccepted⟩ := override_takes_lists {} (fun _ => none) .sources
      "Proxy-History,, ISSUES,issues"
    exact (haccepted (hothers .sources) _).mpr hsources
  · obtain ⟨-, -, -, haccepted⟩ := override_takes_lists {} (fun _ => none) .parts
      "User ,PROJECT"
    exact (haccepted (hothers .parts) _).mpr hparts
  · obtain ⟨-, hrefused, -, -⟩ := override_takes_lists {} (fun _ => none) .sources
      "settings,site-maps"
    obtain ⟨error, herror, hnames | hother⟩ := hrefused "site-maps".toList (by decide +kernel)
      (fun hblank => absurd (hblank 's' (by decide)) (by decide)) hunknown
    · exact ⟨error, herror, hnames⟩
    · cases hother.symm.trans (override_unset {} .selected)

end Config

end SearchFeed
