import SearchFeed.Proofs.Override

/-! # Variables at fault

The first variable whose text denotes none of the values of its setting refuses
the configuration, with an error that names it. The log format is the one
exception: a text that is not the name of a format counts as the name of plain
text, whatever format was configured, and no error tells of it.
-/

namespace SearchFeed

namespace Environment

variable {environment : Environment} {setting : Setting}

/-- The first variable, in the order in which they are looked at, whose text denotes nothing. -/
structure IsFirstBad (environment : Environment) (setting : Setting) : Prop where
  isBad : environment.IsBad setting
  earlier : ∀ other ∈ setting.earlier, ¬ environment.IsBad other

/-- No fault is found with a variable that is not bad, nor with the one for the log format. -/
theorem fault?_eq_none_iff_isBad :
    environment.fault? setting = none ↔ (environment.IsBad setting → setting = .format) := by
  constructor
  · intro hnone hbad
    by_contra hformat
    obtain ⟨error, hgiven, -⟩ := given_of_isBad hbad hformat
    rw [fault?_eq_some_iff.mpr hgiven] at hnone
    cases hnone
  · intro hgood
    rcases environment.unset_or_denotes_or_isBad setting with
      hunset | ⟨text, value, hset, hvalue⟩ | hbad
    · exact fault?_eq_none_iff.mpr ⟨_, given_of_unset hunset⟩
    · exact fault?_eq_none_iff.mpr ⟨_, given_of_denotes hset hvalue⟩
    · obtain rfl := hgood hbad
      exact fault?_eq_none_iff.mpr ⟨_, given_format_of_isBad hbad⟩

theorem fault?_forward {error : ConfigError} (hfault : environment.fault? .forward = some error) :
    error = .notTruth "LOG_FORWARD" := by
  have hgiven : environment.truth "LOG_FORWARD" = .error error := fault?_eq_some_iff.mp hfault
  unfold truth at hgiven
  split at hgiven
  next => cases hgiven
  next =>
    split at hgiven
    next => cases hgiven
    next => exact (Except.error.inj hgiven).symm

theorem not_namesVariable_forward : ¬ (ConfigError.notTruth "LOG_FORWARD").NamesVariable
    "LOG_FORMAT" := by
  -- The first layer of the error has no text of the user in it, and can be searched through.
  rintro ⟨hheadline, -⟩
  revert hheadline
  simp only [ConfigError.headline, ConfigError.layers, List.head?_cons, Option.getD_some,
    variableStem, String.toList_append]
  repeat rw [String.toList_ofList]
  decide +kernel

/-- No error names the log format, unless a variable that is looked at earlier is at fault. -/
theorem not_namesVariable_format
    (hearlier : ∀ other ∈ Setting.earlier .format, ¬ environment.IsBad other) {error : ConfigError}
    (herror : Setting.all.findSome? environment.fault? = some error) :
    ¬ error.NamesVariable "LOG_FORMAT" := by
  obtain ⟨_, first, _, -, hfault, -⟩ := List.findSome?_eq_some_iff.mp herror
  have hbad : environment.IsBad first ∧ first ≠ .format := by
    by_contra hgood
    rw [not_and_not_right] at hgood
    rw [fault?_eq_none_iff_isBad.mpr hgood] at hfault
    cases hfault
  have horder : first ∈ Setting.earlier .format ∨ first = .format ∨ first = .forward ∨
      first = .forwardLevel := by
    cases first <;> decide
  rcases horder with hmem | rfl | rfl | rfl
  · exact absurd hbad.1 (hearlier first hmem)
  · exact absurd rfl hbad.2
  · rw [fault?_forward hfault]
    exact not_namesVariable_forward
  · cases hfault

end Environment

namespace Config

variable (config : Config) (environment : Environment)

/-- The first bad variable is the one that the error names, if it is not the one for the log format.
-/
theorem override_firstBad {environment : Environment} {setting : Setting}
    (hfirst : environment.IsFirstBad setting) (hformat : setting ≠ .format) :
    ∃ error, config.override environment = .error error ∧ error.NamesVariable setting.key := by
  obtain ⟨error, hgiven, hnames⟩ := Environment.given_of_isBad hfirst.isBad hformat
  refine ⟨error, (override_eq_error_iff _).mpr (List.findSome?_eq_some_iff.mpr
    ⟨_, setting, _, setting.all_eq, Environment.fault?_eq_some_iff.mpr hgiven, ?_⟩), hnames⟩
  intro other hother
  exact Environment.fault?_eq_none_iff_isBad.mpr fun hbad =>
    absurd hbad (hfirst.earlier other hother)

/-- A configuration is refused just if some variable other than the log format holds a text that
denotes nothing, and the error then names the first of all such variables, unless that is the log
format. If it is accepted, each setting is as it was if its variable is not set, and else what the
text of the variable denotes; only a log format that no text names becomes plain text. -/
theorem override_bad_variables :
    (∀ setting, environment.IsFirstBad setting →
      ((∃ error, config.override environment = .error error ∧ error.NamesVariable setting.key) ↔
        setting ≠ .format)) ∧
    ((∃ error, config.override environment = .error error) ↔
      ∃ setting, environment.IsBad setting ∧ setting ≠ .format) ∧
    ∀ result, config.override environment = .ok result → ∀ setting,
      environment setting.key = none ∧ result.get setting = config.get setting ∨
      (∃ text, environment setting.key = some text ∧ setting.Denotes (result.get setting) text) ∨
      setting = .format ∧ environment.IsBad .format ∧ result.log.format = .text := by
  refine ⟨fun setting hfirst => ⟨?_, config.override_firstBad hfirst⟩, ?_, ?_⟩
  · rintro ⟨error, herror, hnames⟩ rfl
    exact Environment.not_namesVariable_format hfirst.earlier
      ((override_eq_error_iff config).mp herror) hnames
  · constructor
    · rintro ⟨error, herror⟩
      by_contra hnone
      have hsound : ∀ setting, environment.fault? setting = none := fun setting =>
        Environment.fault?_eq_none_iff_isBad.mpr fun hbad =>
          by_contra fun hformat => hnone ⟨setting, hbad, hformat⟩
      cases herror.symm.trans ((override_eq_ok_iff config).mpr ⟨hsound, rfl⟩)
    · rintro ⟨setting, hbad, hformat⟩
      cases hresult : config.override environment with
      | error error => exact ⟨error, rfl⟩
      | ok result =>
          have hsound := ((override_eq_ok_iff config).mp hresult).1 setting
          exact absurd (Environment.fault?_eq_none_iff_isBad.mp hsound hbad) hformat
  · intro result hresult setting
    obtain ⟨hsound, rfl⟩ := (override_eq_ok_iff config).mp hresult
    rcases environment.unset_or_denotes_or_isBad setting with
      hunset | ⟨text, value, hset, hvalue⟩ | hbad
    · refine .inl ⟨hunset, ?_⟩
      rw [get_amended, Environment.replacement?_of_unset hunset, Option.getD_none]
    · refine .inr (.inl ⟨text, hset, ?_⟩)
      rwa [get_amended, Environment.replacement?_eq (Environment.given_of_denotes hset hvalue),
        Option.getD_some]
    · obtain rfl := Environment.fault?_eq_none_iff_isBad.mp (hsound setting) hbad
      refine .inr (.inr ⟨rfl, hbad, ?_⟩)
      exact (config.get_amended environment .format).trans
        (congrArg (Option.getD · config.log.format)
          (Environment.replacement?_eq (Environment.given_format_of_isBad hbad)))

/-- A log format of `yaml` is accepted, and replaces the one that was configured. -/
theorem override_bad_variables_yaml :
    ∃ environment : Environment, environment.IsFirstBad .format ∧
      environment "LOG_FORMAT" = some "yaml" ∧
      ∃ result, override { log := { format := .json } } environment = .ok result ∧
        result.log.format = .text := by
  let environment : Environment := Environment.update (fun _ => none) "LOG_FORMAT" (some "yaml")
  have hset : environment "LOG_FORMAT" = some "yaml" := Environment.update_self _ _ _
  have hunknown (format : LogFormat) : ¬ Text.Spells format.name "yaml".toList := by
    cases format <;> simp [Text.Spells, Text.InEitherCase, LogFormat.name]
  have hbad : environment.IsBad .format := ⟨"yaml", hset, hunknown⟩
  have honly (setting : Setting) (hsetting : environment.IsBad setting) : setting = .format := by
    by_contra hformat
    obtain ⟨text, hother, -⟩ := hsetting
    cases hother.symm.trans (Function.update_of_ne (Setting.key_injective.ne hformat) _ _)
  have hearlier : ∀ other ∈ Setting.earlier .format, ¬ environment.IsBad other := by
    intro other hother hsetting
    rw [honly other hsetting] at hother
    exact absurd hother (by decide)
  obtain ⟨-, hrefused, haccepted⟩ :=
    override_bad_variables { log := { format := .json } } environment
  refine ⟨environment, ⟨hbad, hearlier⟩, hset, ?_⟩
  cases hresult : override { log := { format := .json } } environment with
  | error error =>
      obtain ⟨setting, hsetting, hformat⟩ := hrefused.mp ⟨error, hresult⟩
      exact absurd (honly setting hsetting) hformat
  | ok result =>
      refine ⟨result, rfl, ?_⟩
      rcases haccepted result hresult .format with ⟨hunset, -⟩ | ⟨text, hother, hnamed⟩ | hplain
      · cases hset.symm.trans hunset
      · cases hset.symm.trans hother
        exact absurd hnamed (hunknown _)
      · exact hplain.2.2

end Config

end SearchFeed
