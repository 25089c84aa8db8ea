import SearchFeed.Event
import SearchFeed.Json
import SearchFeed.Pattern.Reader
import SearchFeed.Text.Search
import SearchFeed.Unicode.Lowercase
import SearchFeed.Url.Reader

/-! # Scope

Which addresses are eligible for export: all of them, those the host tool has
in its own scope, or those that a list of texts and patterns accepts. A list
entry is compared with the host of an address, or with the whole address where
it has no host; letter case does not matter.
-/

namespace SearchFeed

/-- What decides whether an address is eligible. -/
inductive ScopeKind where
  | all
  /-- The host tool's own scope. -/
  | burp
  | custom
deriving DecidableEq, Repr, Inhabited

namespace ScopeKind

/-- All kinds of scope. -/
def values : List ScopeKind := [.all, .burp, .custom]

/-- The name of a kind. -/
def name : ScopeKind → String
  | .all => "all"
  | .burp => "burp"
  | .custom => "custom"

/-- The kind of exactly that name. -/
def named? (text : String) : Option ScopeKind := values.find? fun kind => kind.name = text

/-- The kind that a text names, whatever its case and the blanks around it. -/
def ofText? (text : String) : Option ScopeKind := named? (Unicode.lowercase (Text.trim text))

end ScopeKind

/-- How an entry of a custom scope is to be read. -/
inductive EntryKind where
  /-- As a text that has to occur in the target. -/
  | string
  /-- As a pattern that has to match a part of the target. -/
  | regex
deriving DecidableEq, Repr, Inhabited

namespace EntryKind

/-- The name of a kind of entry. -/
def name : EntryKind → String
  | .string => "string"
  | .regex => "regex"

/-- The kind of exactly that name. -/
def named? (text : String) : Option EntryKind :=
  [EntryKind.string, EntryKind.regex].find? fun kind => kind.name = text

end EntryKind

/-- An entry of a custom scope. -/
structure ScopeEntry where
  kind : EntryKind
  value : String
deriving DecidableEq, Repr

/-- The scope as it is configured. -/
structure ScopeSettings where
  kind : ScopeKind := .all
  custom : List ScopeEntry := []
deriving DecidableEq, Repr, Inhabited

/-- What a custom scope accepts a target by. -/
inductive Matcher where
  /-- The target holds this text, which is in lower case. -/
  | contains (value : String)
  /-- The pattern matches a part of the target. -/
  | pattern (found : Pattern)

namespace Matcher

/-- Whether the target is accepted. -/
def accepts (target : String) : Matcher → Bool
  | .contains value => Text.occursIn value.toList (Unicode.lowercase target).toList
  | .pattern found => found.occursIn target

end Matcher

namespace ScopeEntry

/-- What an entry accepts targets by; blank ones and broken patterns accept nothing. -/
def matcher? (entry : ScopeEntry) : Option Matcher :=
  if Text.isBlankText entry.value then none
  else match entry.kind with
    | .string => some (.contains (Unicode.lowercase entry.value))
    | .regex => (Pattern.ofText? true entry.value).map .pattern

/-- Whether the entry is a pattern that breaks the rules of its notation. -/
def isBroken (entry : ScopeEntry) : Bool :=
  !Text.isBlankText entry.value && entry.kind = .regex && entry.matcher?.isNone

end ScopeEntry

/-- A scope that is ready to decide. -/
structure ScopeFilter where
  kind : ScopeKind := .all
  matchers : List Matcher := []

/-- What a custom scope compares with its entries: the host of an address, or else the whole
address. -/
def scopeTarget (url : String) : String :=
  if Text.isBlankText url then url else ((Url.ofText? url).bind Url.host?).getD url

namespace ScopeFilter

/-- The part of the program that speaks about scope decisions. -/
def target : String := "artifact_export_core::scope"

/-- The filter for a configured scope. -/
def ofSettings (settings : ScopeSettings) : ScopeFilter :=
  ⟨settings.kind, settings.custom.filterMap ScopeEntry.matcher?⟩

/-- What is told about the entries that were left out because they are broken. -/
def settingsEvents (settings : ScopeSettings) : List Event :=
  (settings.custom.filter ScopeEntry.isBroken).map fun entry =>
    { level := .debug, target, message := "Skipping invalid scope regex",
      fields := [⟨"pattern", entry.value⟩, ⟨"error", "<regex>"⟩] }

/-- Whether an address is eligible, given whether the host tool has it in scope. -/
def admits (filter : ScopeFilter) (url : String) (hostInScope : Bool) : Bool :=
  match filter.kind with
  | .all => true
  | .burp => hostInScope
  | .custom =>
    if filter.matchers.isEmpty then false
    else
      let subject := scopeTarget url
      filter.matchers.any (Matcher.accepts subject)

/-- What is told about a decision. Of long addresses only the start is told. -/
def decisionEvent (filter : ScopeFilter) (url : String) (admitted : Bool) : Event where
  level := .trace
  target := target
  message := "Scope decision"
  fields := [⟨"scope", filter.kind.name⟩, ⟨"url", String.ofList (url.toList.take 80)⟩,
    Field.ofBool "result" admitted]

end ScopeFilter

end SearchFeed
