import SearchFeed.Proofs.FinalSigma
import SearchFeed.Proofs.LoginReading
import SearchFeed.Proofs.ScopeUnion

/-! # Entries that an address holds as they are written

An address without a host is compared as a whole with the entries of a custom
scope. Entry and address are put in lower case first, each by itself. So an
entry that the address holds as it is written is found in it as long as its
sigmas get the same form in both, and that is certain just if the entry alone
settles which of them end words.
-/

namespace SearchFeed

open Unicode (lowercaseFrom KeepsSigmas SettlesSigmas)

theorem Text.occursIn_iff {part text : List Char} : occursIn part text = true ↔ part <:+: text := by
  induction text with
  | nil => rw [occursIn, List.isEmpty_iff, List.infix_nil]
  | cons c rest ih =>
      rw [occursIn, Bool.or_eq_true, ih, List.isPrefixOf_iff_prefix, List.infix_cons_iff]

theorem scopeTarget_of_no_host {url : String} (hhost : Url.hostOf? url = none) :
    scopeTarget url = url := by
  rw [scopeTarget]
  split
  next => rfl
  next => exact congrArg (Option.getD · url) hhost

/-- No address begins with a dot. -/
theorem Url.hostOf?_dot (rest : List Char) : hostOf? (String.ofList ('.' :: rest)) = none := by
  obtain ⟨tail, hcleaned⟩ := exists_cleaned_append rest
  have hdot : cleaned ('.' :: rest) = '.' :: tail :=
    hcleaned ['.'] (List.cons_ne_nil '.' []) (List.forall_mem_singleton.mpr (by decide))
  rw [hostOf?, ofText?, String.toList_ofList, ofChars?, hdot]
  rfl

namespace ScopeEntry

/-- A text is accepted by an entry just if the one holds the other in lower case. -/
theorem accepts_string_iff {value target : String} (hfilled : Text.isBlankText value = false) :
    (ScopeEntry.mk .string value).accepts target = true ↔
      lowercaseFrom [] value.toList <:+: lowercaseFrom [] target.toList := by
  have hmatcher : (ScopeEntry.mk .string value).matcher? =
      some (.contains (Unicode.lowercase value)) := by
    rw [matcher?, if_neg (Bool.eq_false_iff.mp hfilled)]
  rw [accepts, hmatcher, Option.any_some, Matcher.accepts, Text.occursIn_iff, Unicode.lowercase,
    Unicode.lowercase, String.toList_ofList, String.toList_ofList]

end ScopeEntry

namespace ScopeFilter

variable {value url : String} {entries : List ScopeEntry} {before after : List Char}

/-- An entry that occurs as it stands in a URL without a host admits it, if lowercasing keeps its
sigmas there. -/
theorem admits_of_keepsSigmas (hfilled : Text.isBlankText value = false)
    (hentry : ⟨.string, value⟩ ∈ entries) (hhost : Url.hostOf? url = none)
    (hurl : url.toList = before ++ value.toList ++ after)
    (hkeeps : KeepsSigmas before value.toList after) (hostInScope : Bool) :
    (custom entries).admits url hostInScope = true := by
  refine (admits_custom_iff ..).mpr ⟨_, hentry, ?_⟩
  rw [scopeTarget_of_no_host hhost, ScopeEntry.accepts_string_iff hfilled, hurl]
  exact hkeeps.lowercase_infix

/-- A scope of one text leaves out each address without a host that does not hold it in lower
case. -/
theorem not_admits_of_not_infix (hfilled : Text.isBlankText value = false)
    (hhost : Url.hostOf? url = none)
    (hlost : ¬ lowercaseFrom [] value.toList <:+: lowercaseFrom [] url.toList)
    (hostInScope : Bool) : (custom [⟨.string, value⟩]).admits url hostInScope = false := by
  rw [Bool.eq_false_iff, ne_eq, admits_custom_iff]
  rintro ⟨entry, hentry, haccepts⟩
  obtain rfl := List.mem_singleton.mp hentry
  rw [scopeTarget_of_no_host hhost, ScopeEntry.accepts_string_iff hfilled] at haccepts
  exact hlost haccepts

/-- An address without a host is in every custom scope that lists a text which it holds as it is
written, if what stands around the text leaves its sigmas as they are. This goes for all addresses
that hold the text just if the text alone settles which of its sigmas end words. -/
theorem verbatim_entry_admits_iff (value : String) (hfilled : Text.isBlankText value = false) :
    (∀ (entries : List ScopeEntry) (url : String) (hostInScope : Bool) (before after : List Char),
      ⟨.string, value⟩ ∈ entries → Url.hostOf? url = none →
      url.toList = before ++ value.toList ++ after → KeepsSigmas before value.toList after →
      (custom entries).admits url hostInScope = true) ∧
    ((∀ (entries : List ScopeEntry) (url : String) (hostInScope : Bool),
      ⟨.string, value⟩ ∈ entries → Url.hostOf? url = none → value.toList <:+: url.toList →
      (custom entries).admits url hostInScope = true) ↔ SettlesSigmas value.toList) := by
  refine ⟨?_, ?_, ?_⟩
  · intro entries url hostInScope before after hentry hhost hurl hkeeps
    exact admits_of_keepsSigmas hfilled hentry hhost hurl hkeeps hostInScope
  · intro hadmits
    by_contra hloose
    obtain ⟨before, after, hlost⟩ := Unicode.exists_not_infix hloose
    let url := String.ofList ('.' :: (before ++ value.toList ++ after))
    have hurl : url.toList = '.' :: (before ++ value.toList ++ after) := String.toList_ofList
    have hhost : Url.hostOf? url = none := Url.hostOf?_dot _
    have hholds : value.toList <:+: url.toList := by
      rw [hurl]
      exact (List.infix_append ..).trans (List.suffix_cons ..).isInfix
    have hadmitted := hadmits [⟨.string, value⟩] url false List.mem_cons_self hhost hholds
    have hrefused := not_admits_of_not_infix hfilled hhost (by rwa [hurl]) false
    exact absurd hadmitted (Bool.eq_false_iff.mp hrefused)
  · rintro hsettles entries url hostInScope hentry hhost ⟨before, after, hurl⟩
    exact admits_of_keepsSigmas hfilled hentry hhost hurl.symm (hsettles.keepsSigmas before after)
      hostInScope

/-- A text that ends in a sigma is found in the address that it makes up, but not in one that goes
on with another letter. -/
theorem verbatim_entry_admits_iff_last_sigma :
    let value := "aΣ"
    let entries : List ScopeEntry := [⟨.string, value⟩]
    Text.isBlankText value = false ∧ (custom entries).admits value true = true ∧
      (custom entries).admits ".aΣa" true = false ∧
      ¬ ∀ (entries : List ScopeEntry) (url : String) (hostInScope : Bool),
        ⟨.string, value⟩ ∈ entries → Url.hostOf? url = none → value.toList <:+: url.toList →
        (custom entries).admits url hostInScope = true := by
  intro value entries
  have hfilled : Text.isBlankText value = false := by decide
  have hvalue : value.toList = ['a'] ++ 'Σ' :: [] := String.toList_ofList
  have hcased : Unicode.nextIsCased (List.reverse ['a']) = true := Unicode.nextIsCased_small_a []
  obtain ⟨hkept, hall⟩ := verbatim_entry_admits_iff value hfilled
  refine ⟨hfilled, ?_, ?_, ?_⟩
  · refine hkept entries value true [] [] List.mem_cons_self (by decide +kernel) (by simp) ?_
    intro lead rest _
    rw [List.reverse_nil, List.append_nil, List.append_nil]
  · have hlonger : ".aΣa".toList = ['.'] ++ (['a'] ++ 'Σ' :: []) ++ ['a'] := String.toList_ofList
    refine not_admits_of_not_infix hfilled (by decide +kernel) ?_ true
    rw [hvalue, hlonger]
    exact Unicode.not_infix_of_last hcased rfl
  · intro hadmits
    have hend := (hall.mp hadmits ['a'] [] hvalue).2 rfl
    rw [hcased] at hend
    cases hend

end ScopeFilter

end SearchFeed
