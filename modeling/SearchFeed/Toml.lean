/-! # Configuration data

What a configuration file says, apart from how it is written. The value of a
date or of a number with a fraction is nowhere asked for and not kept.
-/

namespace SearchFeed

/-- A value of a configuration file. -/
inductive Toml where
  | text (value : String)
  | whole (value : Int)
  | real
  | truth (value : Bool)
  | date
  | array (items : List Toml)
  | table (entries : List (String × Toml))
deriving Repr, Inhabited

end SearchFeed
