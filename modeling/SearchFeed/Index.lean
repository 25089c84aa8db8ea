import SearchFeed.Source

/-! # Index names

Every family of documents goes to an index of its own, named after a common
stem. Logs and snapshots of the exporter itself go to the index named by the
stem alone.
-/

namespace SearchFeed

/-- What an index holds. -/
inductive IndexKind where
  | traffic
  | tool
  | settings
  | sitemap
  | findings
deriving DecidableEq, Repr, Inhabited

namespace IndexKind

/-- All kinds, in the order in which they are listed. -/
def all : List IndexKind := [.traffic, .tool, .settings, .sitemap, .findings]

/-- The name of a kind. -/
def name : IndexKind → String
  | .traffic => "traffic"
  | .tool => "tool"
  | .settings => "settings"
  | .sitemap => "sitemap"
  | .findings => "findings"

/-- The kind of exactly that name. -/
def named? (text : String) : Option IndexKind := all.find? fun kind => kind.name = text

/-- Where the documents of a source go; recorded and live messages share an index. -/
def ofSource : DataSource → IndexKind
  | .settings => .settings
  | .sitemap => .sitemap
  | .findings => .findings
  | .proxyHistory => .traffic
  | .traffic => .traffic

end IndexKind

/-- How the indexes are named. -/
structure IndexNaming where
  stem : String
deriving DecidableEq, Repr, Inhabited

namespace IndexNaming

/-- The name of the index of a kind. -/
def name (naming : IndexNaming) : IndexKind → String
  | .tool => naming.stem
  | kind => naming.stem ++ "-" ++ kind.name

/-- The kind whose index has this name. -/
def kind? (naming : IndexNaming) (index : String) : Option IndexKind :=
  IndexKind.all.find? fun kind => naming.name kind = index

/-- The names of the indexes that the selected sources are written to, each once and in the order
of the selection, and the tool index last. -/
def names (naming : IndexNaming) (selected : List DataSource) : List String :=
  (selected.map fun source => naming.name (.ofSource source)).eraseDups ++ [naming.name .tool]

end IndexNaming

/-- One value for each kind of index. -/
structure PerKind (α : Type) where
  traffic : α
  tool : α
  settings : α
  sitemap : α
  findings : α
deriving Repr, Inhabited

namespace PerKind

variable {α : Type}

/-- The same value for every kind. -/
def const (value : α) : PerKind α := ⟨value, value, value, value, value⟩

/-- The value of a kind. -/
def get (values : PerKind α) : IndexKind → α
  | .traffic => values.traffic
  | .tool => values.tool
  | .settings => values.settings
  | .sitemap => values.sitemap
  | .findings => values.findings

/-- The values with the one of a kind replaced. -/
def set (values : PerKind α) (kind : IndexKind) (value : α) : PerKind α :=
  match kind with
  | .traffic => { values with traffic := value }
  | .tool => { values with tool := value }
  | .settings => { values with settings := value }
  | .sitemap => { values with sitemap := value }
  | .findings => { values with findings := value }

/-- The values with the one of a kind changed. -/
def modify (values : PerKind α) (kind : IndexKind) (change : α → α) : PerKind α :=
  values.set kind (change (values.get kind))

@[simp] theorem get_const (value : α) (kind : IndexKind) : (const value).get kind = value := by
  cases kind <;> rfl

theorem get_set (values : PerKind α) (kind other : IndexKind) (value : α) :
    (values.set kind value).get other = if other = kind then value else values.get other := by
  cases kind <;> cases other <;> rfl

theorem get_modify (values : PerKind α) (kind other : IndexKind) (change : α → α) :
    (values.modify kind change).get other =
      if other = kind then change (values.get other) else values.get other := by
  unfold modify
  rw [get_set]
  split
  · rename_i same
    rw [same]
  · rfl

end PerKind

end SearchFeed
