import SearchFeed.Text.Joined
import SearchFeed.Text.Whole

/-! # Log events

What the exporter has to tell about its work: a level, the part of the program
that speaks, a message and named values.
-/

namespace SearchFeed

/-- How important an event is. -/
inductive Level where
  | error
  | warn
  | info
  | debug
  | trace
deriving DecidableEq, Repr, Inhabited

namespace Level

/-- All levels, the most important first. -/
def all : List Level := [.error, .warn, .info, .debug, .trace]

/-- The position of a level, counted from the most important. -/
def rank : Level → Nat
  | .error => 1
  | .warn => 2
  | .info => 3
  | .debug => 4
  | .trace => 5

/-- The name of a level. -/
def name : Level → String
  | .error => "ERROR"
  | .warn => "WARN"
  | .info => "INFO"
  | .debug => "DEBUG"
  | .trace => "TRACE"

/-- The name of a level in lower-case letters. -/
def lowerName : Level → String
  | .error => "error"
  | .warn => "warn"
  | .info => "info"
  | .debug => "debug"
  | .trace => "trace"

/-- The level that a text names, by its position or by its name in any mixture of cases. -/
def ofText? (text : String) : Option Level :=
  match Text.readWhole text with
  | .ok n => all.find? fun level => level.rank = n
  | .error _ => all.find? fun level => level.lowerName.toList = text.toList.map Char.toLower

end Level

/-- A named value of an event, as it is written. -/
structure Field where
  name : String
  value : String
deriving DecidableEq, Repr

/-- An event. -/
structure Event where
  level : Level
  target : String
  message : String
  fields : List Field
deriving DecidableEq, Repr

namespace Event

/-- The named values one after the other. -/
def fieldsText (fields : List Field) : String :=
  Text.joined " " (fields.map fun field => field.name ++ "=" ++ field.value)

/-- The message followed by the named values. -/
def text (event : Event) : String :=
  if event.fields.isEmpty then event.message
  else if event.message.isEmpty then fieldsText event.fields
  else event.message ++ " " ++ fieldsText event.fields

end Event

/-- A field that holds a number. -/
def Field.ofNat (name : String) (n : Nat) : Field := ⟨name, toString n⟩

/-- A field that holds a truth value. -/
def Field.ofBool (name : String) (b : Bool) : Field := ⟨name, if b then "true" else "false"⟩

end SearchFeed
