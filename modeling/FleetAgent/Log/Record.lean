/-!
# Log records

A log record has a level, the target that wrote it, and named fields; its text is the field
`message`.

## Main definitions

* `LogLevel`, `LogRecord`.
* `LogRecord.optional`: how an optional number is shown in a field.
-/

namespace FleetAgent

/-- The level of a log record. -/
inductive LogLevel where
  | debug
  | info
  | warn
  | error
deriving DecidableEq, Inhabited, Repr

/-- The name of the level. -/
def LogLevel.name : LogLevel → String
  | debug => "DEBUG"
  | info => "INFO"
  | warn => "WARN"
  | error => "ERROR"

/-- A log record. -/
structure LogRecord where
  /-- How important it is. -/
  level : LogLevel
  /-- Which part of the program wrote it. -/
  target : String
  /-- The text of the record. -/
  message : String
  /-- The other fields, each with its name. -/
  fields : List (String × String) := []
deriving DecidableEq, Inhabited, Repr

namespace LogRecord

/-- All fields of the record, the text among them. -/
def allFields (r : LogRecord) : List (String × String) := ("message", r.message) :: r.fields

/-- An optional number as it is shown in a field. -/
def optional : Option Nat → String
  | some n => "Some(" ++ toString n ++ ")"
  | none => "None"

end LogRecord

end FleetAgent
