import Mathlib.Logic.Function.Basic
import SearchFeed.Proofs.Variable

/-! # What variables do to a configuration

Whether an environment is refused, and which values it sets, does not depend on
the configuration that it is put on. Each variable has its effect by itself: the
one of a list replaces its setting with what its text lists, and whether that
text is accepted depends on nothing else.
-/

namespace SearchFeed

namespace Environment

variable {environment other : Environment} {setting setting' : Setting}

/-- A setting is at fault unless its variable is unset or can be read. -/
theorem fault?_eq_none_iff :
    environment.fault? setting = none ↔ ∃ value, environment.given setting = .ok value := by
  unfold fault?
  cases environment.given setting with
  | ok value => exact iff_of_true rfl ⟨value, rfl⟩
  | error error => exact iff_of_false (by simp) (by simp)

theorem fault?_eq_some_iff {error : ConfigError} :
    environment.fault? setting = some error ↔ environment.given setting = .error error := by
  unfold fault?
  cases environment.given setting <;> simp

theorem replacement?_of_unset (hunset : environment setting.key = none) :
    environment.replacement? setting = none :=
  replacement?_eq (given_of_unset hunset)

/-- A variable that is set and not at fault replaces its setting. -/
theorem exists_replacement? (hset : (environment setting.key).isSome)
    (hfault : environment.fault? setting = none) :
    ∃ value, environment.replacement? setting = some value := by
  rcases environment.unset_or_denotes_or_isBad setting with
    hunset | ⟨text, value, htext, hvalue⟩ | hbad
  · rw [hunset] at hset
    cases hset
  · exact ⟨value, replacement?_eq (given_of_denotes htext hvalue)⟩
  · by_cases hformat : setting = .format
    · subst hformat
      exact ⟨.text, replacement?_eq (given_format_of_isBad hbad)⟩
    · obtain ⟨error, hgiven, -⟩ := given_of_isBad hbad hformat
      obtain ⟨value, hvalue⟩ := fault?_eq_none_iff.mp hfault
      cases hgiven.symm.trans hvalue

/-- What a variable gives depends on that variable only. -/
theorem given_congr (hkey : environment setting.key = other setting.key) :
    environment.given setting = other.given setting := by
  cases setting <;> simp only [Setting.key] at hkey <;>
    simp only [given, whole, truth, scope, list, hkey] <;> rfl

def update (environment : Environment) (key : String) (known : Option String) : Environment :=
  Function.update environment key known

@[simp]
theorem update_self (environment : Environment) (key : String) (known : Option String) :
    environment.update key known key = known :=
  Function.update_self ..

theorem given_update_of_ne (environment : Environment) (hother : setting' ≠ setting)
    (known : Option String) :
    (environment.update setting.key known).given setting' = environment.given setting' := by
  refine given_congr ?_
  exact Function.update_of_ne (Setting.key_injective.ne hother) known environment

/-- What another variable is changed to makes no setting faulty. -/
theorem fault?_update_of_ne (environment : Environment) (hother : setting' ≠ setting)
    (known : Option String) :
    (environment.update setting.key known).fault? setting' = environment.fault? setting' := by
  rw [fault?, environment.given_update_of_ne hother, fault?]

theorem replacement?_update_of_ne (environment : Environment) (hother : setting' ≠ setting)
    (known : Option String) :
    (environment.update setting.key known).replacement? setting' =
      environment.replacement? setting' := by
  rw [replacement?, environment.given_update_of_ne hother, replacement?]

end Environment

namespace Config

variable (config : Config) {environment : Environment} {result : Config}

/-- The override succeeds exactly when no variable is at fault, and then gives the amended
configuration. -/
theorem override_eq_ok_iff :
    config.override environment = .ok result ↔
      (∀ setting, environment.fault? setting = none) ∧ config.amended environment = result := by
  have hall : (∀ setting, environment.fault? setting = none) ↔
      Setting.all.findSome? environment.fault? = none := by
    rw [List.findSome?_eq_none_iff]
    exact ⟨fun hnone setting _ => hnone setting, fun hnone setting => hnone _ setting.mem_all⟩
  rw [override_eq, Environment.settled, hall]
  cases Setting.all.findSome? environment.fault? <;> simp

/-- The override fails with the fault that comes first in the order of the settings. -/
theorem override_eq_error_iff {error : ConfigError} :
    config.override environment = .error error ↔
      Setting.all.findSome? environment.fault? = some error := by
  rw [override_eq, Environment.settled]
  cases Setting.all.findSome? environment.fault? <;> simp

/-- Whether an environment is refused, with which error, and what it sets, does not depend on the
configuration: two of them are refused alike, or both get the same values for all settings whose
variables are set, keep all that is their own, and are left as they then are if the environment is
put on top of them again. -/
theorem override_independent (environment : Environment) (one other : Config) :
    (∃ error, one.override environment = .error error ∧
      other.override environment = .error error) ∨
    ∃ one' other', one.override environment = .ok one' ∧ other.override environment = .ok other' ∧
      (∀ setting, (environment setting.key).isSome → one'.get setting = other'.get setting) ∧
      (∀ setting, environment setting.key = none →
        one'.get setting = one.get setting ∧ other'.get setting = other.get setting) ∧
      one'.scope.custom = one.scope.custom ∧ other'.scope.custom = other.scope.custom ∧
      one'.override environment = .ok one' ∧ other'.override environment = .ok other' := by
  cases hfirst : Setting.all.findSome? environment.fault? with
  | some error =>
      exact .inl ⟨error, (override_eq_error_iff _).mpr hfirst,
        (override_eq_error_iff _).mpr hfirst⟩
  | none =>
      have hfault (setting : Setting) : environment.fault? setting = none :=
        List.findSome?_eq_none_iff.mp hfirst setting setting.mem_all
      refine .inr ⟨one.amended environment, other.amended environment,
        (override_eq_ok_iff _).mpr ⟨hfault, rfl⟩, (override_eq_ok_iff _).mpr ⟨hfault, rfl⟩,
        fun setting hset => ?_, fun setting hunset => ?_, rfl, rfl,
        (override_eq_ok_iff _).mpr ⟨hfault, amended_amended _ _⟩,
        (override_eq_ok_iff _).mpr ⟨hfault, amended_amended _ _⟩⟩
      · obtain ⟨value, hvalue⟩ := Environment.exists_replacement? hset (hfault setting)
        rw [get_amended, get_amended, hvalue, Option.getD_some, Option.getD_some]
      · rw [get_amended, get_amended, Environment.replacement?_of_unset hunset]
        exact ⟨rfl, rfl⟩

/-- A variable whose text denotes a value replaces its setting, and nothing else is different from
how it would be without the variable. -/
theorem override_update_of_denotes (environment : Environment) (setting : Setting)
    {value : setting.Value} {text : String} (hvalue : setting.Denotes value text) :
    config.override (environment.update setting.key (some text)) =
      (fun result => result.set setting value) <$>
        config.override (environment.update setting.key none) := by
  -- Neither of the two environments has a fault at this variable, and they agree on all others.
  have hset := Environment.given_of_denotes
    (environment.update_self setting.key (some text)) hvalue
  have hunset := Environment.given_of_unset (environment.update_self setting.key none)
  have hfaults : (environment.update setting.key (some text)).fault? =
      (environment.update setting.key none).fault? := by
    funext other
    by_cases hother : other = setting
    · subst hother
      rw [Environment.fault?, Environment.fault?, hset, hunset]
    · rw [environment.fault?_update_of_ne hother, environment.fault?_update_of_ne hother]
  have hamended : config.amended (environment.update setting.key (some text)) =
      (config.amended (environment.update setting.key none)).set setting value := by
    refine ext_get (fun other => ?_) (Eq.symm ((custom_set _ _ _).trans rfl))
    by_cases hother : other = setting
    · subst hother
      rw [get_set, get_amended, Environment.replacement?_eq hset, Option.getD_some]
    · rw [get_set_of_ne _ _ hother, get_amended, get_amended,
        environment.replacement?_update_of_ne hother, environment.replacement?_update_of_ne hother]
  rw [override_eq, override_eq, Environment.settled, Environment.settled, hfaults, hamended]
  cases Setting.all.findSome? (environment.update setting.key none).fault? <;> rfl

/-- A variable whose text denotes nothing refuses the configuration. -/
theorem override_update_of_not_denotes (environment : Environment) {setting : Setting}
    {text : String} (hformat : setting ≠ .format)
    (hnone : ∀ value, ¬ setting.Denotes value text) :
    ∃ error, config.override (environment.update setting.key (some text)) = .error error ∧
      (error.NamesVariable setting.key ∨
        config.override (environment.update setting.key none) = .error error) := by
  obtain ⟨fault, hfault, hnames⟩ := Environment.given_of_isBad
    ⟨text, environment.update_self setting.key (some text), hnone⟩ hformat
  have hunset := Environment.given_of_unset (environment.update_self setting.key none)
  cases hfirst : Setting.all.findSome? (environment.update setting.key (some text)).fault? with
  | none =>
      rw [List.findSome?_eq_none_iff] at hfirst
      have hsound := hfirst setting setting.mem_all
      rw [Environment.fault?_eq_some_iff.mpr hfault] at hsound
      cases hsound
  | some error =>
      refine ⟨error, (override_eq_error_iff _).mpr hfirst, ?_⟩
      obtain ⟨before, first, after, hall, herror, hbefore⟩ :=
        List.findSome?_eq_some_iff.mp hfirst
      by_cases hself : first = setting
      · subst hself
        rw [Environment.fault?_eq_some_iff.mpr hfault] at herror
        cases herror
        exact .inl hnames
      · -- Without the variable the one that is first at fault is still the first.
        refine .inr ((override_eq_error_iff _).mpr (List.findSome?_eq_some_iff.mpr
          ⟨before, first, after, hall, ?_, fun other hmem => ?_⟩))
        · rwa [environment.fault?_update_of_ne hself] at herror ⊢
        · by_cases hother : other = setting
          · subst hother
            exact Environment.fault?_eq_none_iff.mpr ⟨none, hunset⟩
          · have hsound := hbefore other hmem
            rwa [environment.fault?_update_of_ne hother] at hsound ⊢

end Config

end SearchFeed
