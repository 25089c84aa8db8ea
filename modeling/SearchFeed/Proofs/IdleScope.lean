import SearchFeed.Config.Review
import SearchFeed.Proofs.ScopeUnion
import SearchFeed.Switches

/-! # Scopes that let nothing through

A custom scope without a usable entry lets nothing through. The review of a
configuration warns of such a scope only if it has no entries at all: it counts
entries as they are listed, and reads patterns as if case mattered, while the
filter leaves out blank entries and reads patterns with case ignored.
-/

namespace SearchFeed

namespace Config

section Reviews

variable {remarks : List Remark}

/-- A review that finds no fault tells all that is doubtful. -/
theorem review_of_no_fault (hsound : ∀ error, Remark.fault error ∉ remarks) :
    (review remarks).2 = none ∧
      ∀ event, event ∈ (review remarks).1 ↔ Remark.doubt event ∈ remarks := by
  induction remarks with
  | nil => simp [review]
  | cons remark rest ih =>
      cases remark with
      | fault error => exact absurd List.mem_cons_self (hsound error)
      | doubt first =>
          obtain ⟨hend, htold⟩ := ih fun error hfault =>
            hsound error (List.mem_cons_of_mem _ hfault)
          refine ⟨hend, fun event => ?_⟩
          simp only [review, List.mem_cons, htold, Remark.doubt.injEq]

/-- A configuration passes its review when no remark is a fault; doubts do not refuse it. -/
theorem review_eq_none_iff :
    (review remarks).2 = none ↔ ∀ error, Remark.fault error ∉ remarks := by
  refine ⟨fun haccepted error hfault => ?_, fun hsound => (review_of_no_fault hsound).1⟩
  induction remarks with
  | nil => cases hfault
  | cons remark rest ih =>
      cases remark with
      | fault first => cases haccepted
      | doubt first =>
          rcases List.mem_cons.mp hfault with hfirst | hrest
          · cases hfirst
          · exact ih haccepted hrest

end Reviews

def idleScopeWarning : Event where
  level := .warn
  target := reviewTarget
  fields := []
  message := "scope.kind is custom but no scope.custom entries are configured; " ++
    "nothing will be exported"

variable {config : Config}

theorem not_doubt_zeroRemark {setting : String} {value : Nat} {event : Event} :
    Remark.doubt event ∉ zeroRemark setting value := by
  unfold zeroRemark
  split <;> simp

/-- What is told about a large setting names it, which the warning does not. -/
theorem not_idle_largeRemark {setting consequence field : String} {value limit : Nat} :
    Remark.doubt idleScopeWarning ∉ largeRemark setting consequence field value limit := by
  unfold largeRemark
  split <;> simp [idleScopeWarning]

theorem not_doubt_destinationRemarks {index : IndexSettings} {event : Event} :
    Remark.doubt event ∉ destinationRemarks index := by
  rw [destinationRemarks, List.mem_append, not_or]
  constructor
  · split <;> simp
  · split
    next => simp
    next =>
      split
      next => simp
      next => dsimp only; split <;> simp

theorem not_doubt_entryRemarks {entry : ScopeEntry} {event : Event} :
    Remark.doubt event ∉ entryRemarks entry := by
  unfold entryRemarks
  split <;> simp

/-- The idle-scope doubt is raised for a custom scope with no entries at all, blank ones counting as
entries. -/
theorem idle_mem_remarks_iff : Remark.doubt idleScopeWarning ∈ config.remarks ↔
    config.scope.kind = .custom ∧ config.scope.custom = [] := by
  simp only [remarks, batchRemarks, retryRemarks, scopeRemarks, List.mem_append, List.mem_flatMap,
    not_doubt_zeroRemark, not_idle_largeRemark, not_doubt_destinationRemarks,
    not_doubt_entryRemarks, and_false, exists_false, false_or]
  split
  next hidle => exact iff_of_true List.mem_cons_self hidle
  next hbusy => exact iff_of_false List.not_mem_nil hbusy

/-- An accepted configuration has no entry whose pattern cannot be read where case matters. -/
theorem readable_of_accepted (haccepted : (review config.remarks).2 = none) {entry : ScopeEntry}
    (hentry : entry ∈ config.scope.custom) (hkind : entry.kind = .regex) :
    (Pattern.ofText? false entry.value).isSome = true := by
  by_contra hbroken
  refine review_eq_none_iff.mp haccepted (.during (.checkingPattern entry.value) .pattern) ?_
  have hfault : entryRemarks entry =
      [.fault (.during (.checkingPattern entry.value) .pattern)] :=
    if_pos ⟨hkind, by simpa using hbroken⟩
  have hscope : .fault (.during (.checkingPattern entry.value) .pattern) ∈
      config.scope.custom.flatMap entryRemarks :=
    List.mem_flatMap.mpr ⟨entry, hentry, hfault ▸ List.mem_cons_self⟩
  exact List.mem_append_right _ (List.mem_append_left _ hscope)

end Config

/-- A pattern that can be read where case matters, but not where it is ignored. -/
structure ScopeEntry.NeedsCase (entry : ScopeEntry) : Prop where
  kind : entry.kind = .regex
  readable : (Pattern.ofText? false entry.value).isSome = true
  unreadable : (Pattern.ofText? true entry.value).isSome = false

/-- A filter has a matcher exactly when one of its entries can be used. -/
theorem ScopeFilter.matchers_ne_nil_iff (settings : ScopeSettings) :
    (ofSettings settings).matchers ≠ [] ↔ ∃ entry ∈ settings.custom, entry.IsUsable := by
  simp only [ofSettings, ne_eq, List.filterMap_eq_nil_iff, not_forall, exists_prop,
    ← ScopeEntry.isSome_matcher?_iff, Option.isSome_iff_ne_none]

namespace Config

/-- An accepted configuration with a custom scope is warned of just if the scope has no entries, and
its filter has something to match with just if an entry is usable. It goes without a warning and
without anything to match with just if it has entries and each is blank or a pattern that can be
read only where case matters; then no address is in scope. -/
theorem idle_scope_unreported_iff (config : Config)
    (haccepted : (review config.remarks).2 = none) (hcustom : config.scope.kind = .custom) :
    let warned := idleScopeWarning ∈ (review config.remarks).1
    let filter := (Switches.ofConfig config).filter
    (warned ↔ config.scope.custom = []) ∧
      (filter.matchers ≠ [] ↔ ∃ entry ∈ config.scope.custom, entry.IsUsable) ∧
      (¬ (warned ∨ filter.matchers ≠ []) ↔ config.scope.custom ≠ [] ∧
        ∀ entry ∈ config.scope.custom,
          Text.isBlankText entry.value = true ∨ entry.NeedsCase) ∧
      (filter.matchers = [] → ∀ url hostInScope, filter.admits url hostInScope = false) := by
  intro warned filter
  have hwarned : warned ↔ config.scope.custom = [] := by
    have htold := (review_of_no_fault (review_eq_none_iff.mp haccepted)).2 idleScopeWarning
    exact htold.trans (idle_mem_remarks_iff.trans (and_iff_right hcustom))
  have hmatchers : filter.matchers ≠ [] ↔ ∃ entry ∈ config.scope.custom, entry.IsUsable :=
    ScopeFilter.matchers_ne_nil_iff config.scope
  have hunusable {entry : ScopeEntry} (hentry : entry ∈ config.scope.custom) :
      ¬ entry.IsUsable ↔ Text.isBlankText entry.value = true ∨ entry.NeedsCase := by
    constructor
    · intro hidle
      refine or_iff_not_imp_left.mpr fun hfilled => ?_
      by_contra hcase
      refine hidle ⟨Bool.eq_false_iff.mpr hfilled, fun hkind => ?_⟩
      by_contra hunread
      exact hcase ⟨hkind, readable_of_accepted haccepted hentry hkind,
        Bool.eq_false_iff.mpr hunread⟩
    · rintro (hblank | hcase) husable
      · exact absurd hblank (Bool.eq_false_iff.mp husable.not_blank)
      · exact absurd (husable.readable hcase.kind) (Bool.eq_false_iff.mp hcase.unreadable)
  refine ⟨hwarned, hmatchers, ?_, fun hnone url hostInScope => ?_⟩
  · rw [not_or, hwarned, hmatchers, not_exists]
    simp only [not_and]
    exact and_congr_right fun _ => forall₂_congr fun entry hentry => hunusable hentry
  · have hkind : filter.kind = .custom := hcustom
    rw [ScopeFilter.admits, hkind, hnone]
    rfl

/-- The only entry of a custom scope is blank: nobody is told that nothing gets through. -/
theorem idle_scope_unreported_iff_blank :
    let config : Config := { scope := ⟨.custom, [⟨.string, "  "⟩]⟩ }
    let filter := (Switches.ofConfig config).filter
    (review config.remarks).2 = none ∧ config.scope.kind = .custom ∧
      ¬ (idleScopeWarning ∈ (review config.remarks).1 ∨ filter.matchers ≠ []) ∧
      filter.admits "http://a.test" true = false := by
  intro config filter
  have haccepted : (review config.remarks).2 = none := by decide
  obtain ⟨-, -, hunreported, hidle⟩ := idle_scope_unreported_iff config haccepted rfl
  have hblank : ∀ entry ∈ config.scope.custom,
      Text.isBlankText entry.value = true ∨ entry.NeedsCase :=
    List.forall_mem_singleton.mpr (.inl (by decide))
  have hsilent := hunreported.mpr ⟨by decide, hblank⟩
  exact ⟨haccepted, rfl, hsilent, hidle (not_not.mp (not_or.mp hsilent).2) _ _⟩

end Config

end SearchFeed
