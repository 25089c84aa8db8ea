import SearchFeed.Proofs.Listing
import SearchFeed.Proofs.Numeral
import SearchFeed.Proofs.Setting

/-! # What the texts of variables denote

Each variable is read in its own way, but always with one of three results: it
is not set, its text denotes a value of its setting, which is then the result,
or its text denotes none, and then the fault names the variable. The one
exception is the log format, which has no faults: every text that denotes no
format stands for plain text.
-/

namespace SearchFeed

namespace ConfigError

/-- What is told of an error contains the full name of a variable, both as a whole and in its first
layer. -/
def NamesVariable (error : ConfigError) (key : String) : Prop :=
  (variableStem ++ key).toList <:+: error.headline.toList ∧
    (variableStem ++ key).toList <:+: error.message.toList

theorem layers_eq (error : ConfigError) :
    error.layers = error.headline :: error.layers.tail := by
  cases error <;> rfl

/-- The whole message of an error holds its first line. -/
theorem headline_infix_message (error : ConfigError) :
    error.headline.toList <:+: error.message.toList := by
  rw [message, layers_eq]
  cases error.layers.tail with
  | nil => exact List.infix_rfl
  | cons layer layers =>
      rw [Text.joined, String.toList_append, String.toList_append, List.append_assoc]
      · exact (List.prefix_append ..).isInfix
      · exact List.cons_ne_nil layer layers

theorem namesVariable_of_headline {error : ConfigError} {key : String} (before after : String)
    (hheadline : error.headline = before ++ (variableStem ++ key) ++ after) :
    error.NamesVariable key := by
  have hcontains : (variableStem ++ key).toList <:+: error.headline.toList := by
    rw [hheadline]
    simp only [String.toList_append]
    exact List.infix_append ..
  exact ⟨hcontains, hcontains.trans error.headline_infix_message⟩

end ConfigError

/-- The text of a variable denotes a value of its setting. -/
def Setting.Denotes : (setting : Setting) → setting.Value → String → Prop
  | .baseUrl, url, text => url = baseUrlOfVariable text
  | .stem, value, text | .level, value, text | .forwardLevel, value, text => value = text
  | .maxDocs, n, text | .maxBytes, n, text | .interval, n, text | .capacity, n, text
  | .drainInterval, n, text | .drainSize, n, text => Text.Padded (Text.IsNumeral n) text.toList
  | .toolStats, value, text | .forward, value, text =>
    Text.Padded (· = (Text.truthWord value).toList) text.toList
  | .scope, kind, text => Text.Padded (Text.Spells kind.name) text.toList
  | .selected, sources, text => IsListing DataSource.Spelled text sources
  | .parts, chosen, text => IsListing (fun part => Text.Spells part.name) text chosen
  | .format, chosen, text => Text.Spells chosen.name text.toList

theorem logFormatOfVariable_eq {format : LogFormat} {text : String}
    (hspells : Text.Spells format.name text.toList) : logFormatOfVariable text = format := by
  rw [logFormatOfVariable, (Text.lowercase_eq_iff format.isName_name text).mpr hspells]
  cases format <;> rfl

theorem logFormatOfVariable_of_unknown {text : String}
    (hnone : ∀ format : LogFormat, ¬ Text.Spells format.name text.toList) :
    logFormatOfVariable text = .text := by
  refine if_neg fun hjson => hnone .json ?_
  exact (Text.lowercase_eq_iff (LogFormat.isName_name .json) text).mp hjson

namespace Environment

/-- How a variable is read: if it is set, as the only value that its text denotes, and if that
denotes none, with a fault that names the variable. -/
inductive Reads {α : Type} (environment : Environment) (key : String)
    (denotes : α → String → Prop) : Except ConfigError (Option α) → Prop
  | unset : environment key = none → Reads environment key denotes (.ok none)
  | value {text value} : environment key = some text →
      (∀ other, denotes other text ↔ other = value) →
      Reads environment key denotes (.ok (some value))
  | fault {text error} : environment key = some text → (∀ value, ¬ denotes value text) →
      error.NamesVariable key → Reads environment key denotes (.error error)

variable (environment : Environment) (key : String)

theorem reads_map {α : Type} (read : String → α) :
    Reads environment key (fun value text => value = read text)
      (.ok ((environment key).map read)) := by
  cases htext : environment key with
  | none => exact .unset htext
  | some text => exact .value htext fun _ => Iff.rfl

theorem reads_text :
    Reads environment key (fun value text => value = text) (.ok (environment key)) := by
  cases htext : environment key with
  | none => exact .unset htext
  | some text => exact .value htext fun _ => Iff.rfl

theorem reads_whole :
    Reads environment key (fun n text => Text.Padded (Text.IsNumeral n) text.toList)
      (environment.whole key) := by
  unfold whole
  cases htext : environment key with
  | none => exact .unset htext
  | some text =>
      dsimp only
      cases hread : Text.readWhole (Text.trim text) with
      | ok n =>
          refine .value htext fun other => ?_
          rw [← Text.readWhole_trim_eq_ok_iff, hread, Except.ok.injEq, eq_comm]
      | error fault =>
          refine .fault htext (fun n hn => ?_) (ConfigError.namesVariable_of_headline
            "Failed to parse " (": " ++ fault.message) ?_)
          · rw [Text.readWhole_trim_eq_ok_iff.mpr hn] at hread
            cases hread
          · simp only [ConfigError.headline, ConfigError.layers, List.head?_cons, Option.getD_some,
              String.append_assoc]

theorem reads_truth :
    Reads environment key (fun value text => Text.Padded (· = (Text.truthWord value).toList)
      text.toList) (environment.truth key) := by
  unfold truth
  cases htext : environment key with
  | none => exact .unset htext
  | some text =>
      dsimp only
      cases hread : Text.readTruth? (Text.trim text) with
      | some value =>
          refine .value htext fun other => ?_
          rw [← Text.readTruth?_trim_eq_some_iff, hread, Option.some.injEq, eq_comm]
      | none =>
          refine .fault htext (fun value hvalue => ?_) (ConfigError.namesVariable_of_headline
            "Failed to parse "
            " (expected bool): provided string was not `true` or `false`" ?_)
          · rw [Text.readTruth?_trim_eq_some_iff.mpr hvalue] at hread
            cases hread
          · simp only [ConfigError.headline, ConfigError.layers, List.head?_cons, Option.getD_some,
              String.append_assoc]

theorem reads_scope :
    Reads environment "SCOPE" (fun kind text => Text.Padded (Text.Spells kind.name) text.toList)
      (environment.scope "SCOPE") := by
  unfold scope
  cases htext : environment "SCOPE" with
  | none => exact .unset htext
  | some text =>
      dsimp only
      cases hread : ScopeKind.ofText? text with
      | some kind =>
          refine .value htext fun other => ?_
          rw [← ScopeKind.ofText?_eq_some_iff, hread, Option.some.injEq, eq_comm]
      | none =>
          refine .fault htext (fun kind hkind => ?_) (ConfigError.namesVariable_of_headline
            "Invalid " " value" ?_)
          · rw [ScopeKind.ofText?_eq_some_iff.mpr hkind] at hread
            cases hread
          · have hvalue : "SCOPE value" = "SCOPE" ++ " value" := by simp only [String.reduceAppend]
            change "Invalid " ++ variableStem ++ "SCOPE value" = _
            rw [hvalue]
            simp only [String.append_assoc]

/-- A variable that holds a list reads as the list its text is a listing of. -/
theorem reads_list {α : Type} {isNameOf : α → List Char → Prop} {read? : String → Option α}
    (hword : ∀ value word, isNameOf value word → Text.IsWord word)
    (hread : ∀ text value, read? text = some value ↔ Text.Padded (isNameOf value) text.toList)
    (unknown : String → ConfigError) :
    Reads environment key (fun values text => IsListing isNameOf text values)
      (environment.list key read? unknown) := by
  unfold list
  cases htext : environment key with
  | none => exact .unset htext
  | some text =>
      dsimp only
      cases hitems : (listItems text).mapM (readItem key read? unknown) with
      | ok values =>
          refine .value htext fun other => ?_
          rw [← mapM_listItems_eq_ok_iff hword hread, hitems, Except.ok.injEq, eq_comm]
      | error error =>
          refine .fault htext (fun values hvalues => ?_) ?_
          · rw [(mapM_listItems_eq_ok_iff hword hread).mpr hvalues] at hitems
            cases hitems
          · obtain ⟨item, -, rfl⟩ := exists_unknown_of_mapM_readItem hitems
            refine ConfigError.namesVariable_of_headline "Failed to parse " "" ?_
            rw [String.append_empty, ← String.append_assoc]
            rfl

/-- Every variable but the log format is read by what its text denotes. -/
theorem reads_given {setting : Setting} (hformat : setting ≠ .format) :
    Reads environment setting.key setting.Denotes (environment.given setting) := by
  cases setting with
  | baseUrl => exact environment.reads_map _ _
  | stem => exact environment.reads_text _
  | maxDocs => exact environment.reads_whole _
  | maxBytes => exact environment.reads_whole _
  | interval => exact environment.reads_whole _
  | toolStats => exact environment.reads_truth _
  | capacity => exact environment.reads_whole _
  | drainInterval => exact environment.reads_whole _
  | drainSize => exact environment.reads_whole _
  | scope => exact environment.reads_scope
  | selected =>
      exact environment.reads_list _ (fun _ _ hword => hword.isWord)
        (fun _ _ => DataSource.ofText?_eq_some_iff) _
  | parts =>
      exact environment.reads_list _ (fun part _ hword => hword.isWord part.isName_name)
        (fun _ _ => SettingsPart.ofText?_eq_some_iff) _
  | level => exact environment.reads_text _
  | format => exact absurd rfl hformat
  | forward => exact environment.reads_truth _
  | forwardLevel => exact environment.reads_text _

/-- The variable of a setting is set, but its text denotes none of the values of the setting. -/
def IsBad (setting : Setting) : Prop :=
  ∃ text, environment setting.key = some text ∧ ∀ value, ¬ setting.Denotes value text

/-- A variable is unset, denotes a value of its setting, or is bad. -/
theorem unset_or_denotes_or_isBad (setting : Setting) :
    environment setting.key = none ∨
      (∃ text value, environment setting.key = some text ∧ setting.Denotes value text) ∨
      environment.IsBad setting := by
  cases htext : environment setting.key with
  | none => exact .inl rfl
  | some text =>
      by_cases hdenotes : ∃ value, setting.Denotes value text
      · obtain ⟨value, hvalue⟩ := hdenotes
        exact .inr (.inl ⟨text, value, rfl, hvalue⟩)
      · exact .inr (.inr ⟨text, htext, not_exists.mp hdenotes⟩)

variable {environment} {setting : Setting}

theorem given_format_of_set {text : String} (hset : environment (Setting.key .format) = some text) :
    environment.given .format = .ok (some (logFormatOfVariable text)) :=
  congrArg (fun chosen : Option String => Except.ok (chosen.map logFormatOfVariable)) hset

theorem given_of_unset (hunset : environment setting.key = none) :
    environment.given setting = .ok none := by
  by_cases hformat : setting = .format
  · subst hformat
    exact congrArg (fun chosen : Option String => Except.ok (chosen.map logFormatOfVariable)) hunset
  · generalize hgiven : environment.given setting = result
    have hreads := environment.reads_given hformat
    rw [hgiven] at hreads
    cases hreads with
    | unset => rfl
    | value hset => cases hunset.symm.trans hset
    | fault hset => cases hunset.symm.trans hset

theorem given_of_denotes {text : String} {value : setting.Value}
    (hset : environment setting.key = some text) (hvalue : setting.Denotes value text) :
    environment.given setting = .ok (some value) := by
  by_cases hformat : setting = .format
  · subst hformat
    rw [given_format_of_set hset, logFormatOfVariable_eq hvalue]
  · generalize hgiven : environment.given setting = result
    have hreads := environment.reads_given hformat
    rw [hgiven] at hreads
    cases hreads with
    | unset hunset => cases hunset.symm.trans hset
    | value hother honly =>
        cases hother.symm.trans hset
        rw [(honly value).mp hvalue]
    | fault hother hnone =>
        cases hother.symm.trans hset
        exact absurd hvalue (hnone value)

/-- A bad variable is an error that names it, for every setting but the log format. -/
theorem given_of_isBad (hbad : environment.IsBad setting) (hformat : setting ≠ .format) :
    ∃ error, environment.given setting = .error error ∧ error.NamesVariable setting.key := by
  obtain ⟨text, hset, hnone⟩ := hbad
  generalize hgiven : environment.given setting = result
  have hreads := environment.reads_given hformat
  rw [hgiven] at hreads
  cases hreads with
  | unset hunset => cases hunset.symm.trans hset
  | value hother honly =>
      cases hother.symm.trans hset
      exact absurd ((honly _).mpr rfl) (hnone _)
  | fault _ _ hnames => exact ⟨_, rfl, hnames⟩

/-- A bad log format is taken as text, without an error. -/
theorem given_format_of_isBad (hbad : environment.IsBad .format) :
    environment.given .format = .ok (some .text) := by
  obtain ⟨text, hset, hnone⟩ := hbad
  rw [given_format_of_set hset, logFormatOfVariable_of_unknown hnone]

end Environment

end SearchFeed
