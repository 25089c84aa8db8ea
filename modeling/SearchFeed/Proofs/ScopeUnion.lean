import SearchFeed.Proofs.Quoting
import SearchFeed.Scope

/-! # Custom scopes as unions of their entries

A custom scope has an address in it just if one of its entries accepts what is
compared with the entries. Entries that are blank or broken accept nothing, so
that a scope is a union of its other entries, in whatever order and however
often they are listed. What is compared is the host where there is one, and the
word of the host tool does not come in.
-/

namespace SearchFeed

namespace ScopeEntry

/-- An entry that can accept something: it is not blank and, if it is a pattern, can be read where
case is ignored. -/
structure IsUsable (entry : ScopeEntry) : Prop where
  not_blank : Text.isBlankText entry.value = false
  readable : entry.kind = .regex → (Pattern.ofText? true entry.value).isSome = true

variable {entry : ScopeEntry}

/-- An entry makes a matcher exactly when it can be used. -/
theorem isSome_matcher?_iff : entry.matcher?.isSome = true ↔ entry.IsUsable := by
  unfold matcher?
  constructor
  · intro hmatcher
    split at hmatcher
    next => cases hmatcher
    next hblank =>
      refine ⟨Bool.eq_false_iff.mpr hblank, fun hkind => ?_⟩
      rw [hkind, Option.isSome_map] at hmatcher
      exact hmatcher
  · rintro ⟨hblank, hreadable⟩
    rw [hblank, if_neg Bool.false_ne_true]
    cases hkind : entry.kind with
    | string => rfl
    | regex => rw [Option.isSome_map, hreadable hkind]

def accepts (entry : ScopeEntry) (target : String) : Bool :=
  entry.matcher?.any (Matcher.accepts target)

theorem IsUsable.of_accepts {target : String} (haccepts : entry.accepts target = true) :
    entry.IsUsable := by
  rw [← isSome_matcher?_iff]
  obtain ⟨matcher, hmatcher, -⟩ := (Option.any_eq_true ..).mp haccepts
  rw [hmatcher, Option.isSome_some]

end ScopeEntry

/-- The host of an address as it is read, if it can be read and has one. -/
def Url.hostOf? (url : String) : Option String := (Url.ofText? url).bind Url.host?

theorem scopeTarget_eq_host {url host : String} (hhost : Url.hostOf? url = some host) :
    scopeTarget url = host := by
  obtain ⟨read, hread, -⟩ := Option.bind_eq_some_iff.mp hhost
  -- A blank text is passed over before it is read, but none of them is an address.
  rw [scopeTarget, if_neg (Bool.eq_false_iff.mp (not_isBlankText hread))]
  exact congrArg (Option.getD · url) hhost

namespace ScopeFilter

def custom (entries : List ScopeEntry) : ScopeFilter := ofSettings ⟨.custom, entries⟩

variable (entries : List ScopeEntry) (url : String) (hostInScope : Bool)

theorem admits_custom :
    (custom entries).admits url hostInScope =
      entries.any fun entry => entry.accepts (scopeTarget url) := by
  have hany : (custom entries).admits url hostInScope =
      (entries.filterMap ScopeEntry.matcher?).any (Matcher.accepts (scopeTarget url)) := by
    rw [custom, ofSettings, admits]
    cases entries.filterMap ScopeEntry.matcher? <;> rfl
  rw [hany, List.any_filterMap]
  rfl

/-- A custom scope admits a URL exactly when one of its entries accepts its host, or the URL if it
has none. -/
theorem admits_custom_iff :
    (custom entries).admits url hostInScope = true ↔
      ∃ entry ∈ entries, entry.accepts (scopeTarget url) = true := by
  rw [admits_custom, List.any_eq_true]

variable {entries url hostInScope} {others : List ScopeEntry}

/-- A scope has in it what another one has whose usable entries are all listed in it, too. -/
theorem admits_of_usable_subset
    (hlisted : ∀ entry ∈ entries, entry.IsUsable → entry ∈ others)
    (hadmits : (custom entries).admits url hostInScope = true) :
    (custom others).admits url hostInScope = true := by
  obtain ⟨entry, hentry, haccepts⟩ := (admits_custom_iff ..).mp hadmits
  exact (admits_custom_iff ..).mpr ⟨entry, hlisted entry hentry (.of_accepts haccepts), haccepts⟩

/-- Addresses with the same host are in scope together. -/
theorem admits_of_same_host {url' host : String} (hhost : Url.hostOf? url = some host)
    (hhost' : Url.hostOf? url' = some host) :
    (custom entries).admits url hostInScope = (custom entries).admits url' hostInScope := by
  rw [admits_custom, admits_custom, scopeTarget_eq_host hhost, scopeTarget_eq_host hhost']

/-- A custom scope has an address in it just if one of its parts has. Only the usable entries
matter, neither their order nor their number, and more entries never take an address out. The
word of the host tool does not matter, and of an address with a host nothing but the host does. -/
theorem custom_scope_unites_entries (first second : List ScopeEntry) (url : String)
    (hostInScope : Bool) :
    ((custom (first ++ second)).admits url hostInScope = true ↔
      (custom first).admits url hostInScope = true ∨
        (custom second).admits url hostInScope = true) ∧
    ((∀ entry : ScopeEntry, entry.IsUsable → (entry ∈ first ↔ entry ∈ second)) →
      (custom first).admits url hostInScope = (custom second).admits url hostInScope) ∧
    (first ⊆ second → (custom first).admits url hostInScope = true →
      (custom second).admits url hostInScope = true) ∧
    (∀ other, (custom first).admits url other = (custom first).admits url hostInScope) ∧
    ∀ url' host, Url.hostOf? url = some host → Url.hostOf? url' = some host →
      (custom first).admits url hostInScope = (custom first).admits url' hostInScope := by
  refine ⟨?_, ?_, ?_, ?_, ?_⟩
  · simp only [admits_custom, List.any_append, Bool.or_eq_true]
  · intro hsame
    rw [Bool.eq_iff_iff]
    constructor
    · exact admits_of_usable_subset fun entry hentry husable => (hsame entry husable).mp hentry
    · exact admits_of_usable_subset fun entry hentry husable => (hsame entry husable).mpr hentry
  · exact fun hsubset => admits_of_usable_subset fun entry hentry _ => hsubset hentry
  · intro other
    rw [admits_custom, admits_custom]
  · exact fun url' host hhost hhost' => admits_of_same_host hhost hhost'

/-- Entries that are blank, broken or listed twice make no difference, and neither do the user, the
port, the path and the query of an address. -/
theorem custom_scope_unites_entries_same_host :
    let entry : ScopeEntry := ⟨.string, "::1"⟩
    let padded : List ScopeEntry := [⟨.string, " "⟩, entry, ⟨.regex, "(a"⟩, entry]
    (custom [entry]).admits "http://[::1]" true = (custom padded).admits "http://[::1]" true ∧
    (custom padded).admits "http://[::1]" true =
      (custom padded).admits "https://me:pw@[0::1]:8443/a?b" true := by
  intro entry padded
  have hsame : ∀ other : ScopeEntry, other.IsUsable → (other ∈ [entry] ↔ other ∈ padded) := by
    intro other husable
    have hblank : other ≠ ⟨.string, " "⟩ := by
      rintro rfl
      exact absurd husable.not_blank (by decide)
    have hbroken : other ≠ ⟨.regex, "(a"⟩ := by
      rintro rfl
      exact absurd (husable.readable rfl) (by decide)
    simp [padded, hblank, hbroken]
  have hhost : Url.hostOf? "http://[::1]" = some "[::1]" := by decide +kernel
  have hhost' : Url.hostOf? "https://me:pw@[0::1]:8443/a?b" = some "[::1]" := by decide +kernel
  obtain ⟨-, hlisted, -, -, -⟩ :=
    custom_scope_unites_entries [entry] padded "http://[::1]" true
  obtain ⟨-, -, -, -, hplaced⟩ :=
    custom_scope_unites_entries padded [] "http://[::1]" true
  exact ⟨hlisted hsame, hplaced _ _ hhost hhost'⟩

end ScopeFilter

end SearchFeed
