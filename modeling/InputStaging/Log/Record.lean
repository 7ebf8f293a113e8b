import InputStaging.Log
import InputStaging.Text.Json

/-!
# Log records

A record is one line of the log, in one of two forms: fields divided by bars, or a JSON
object. The time of a record is a text by then.
-/

namespace InputStaging

inductive LogForm where
  | bars
  | json
  deriving DecidableEq, Repr

structure Record where
  time : String
  level : Level
  logger : String
  message : String
  /-- What broke off, in its own words. -/
  exception : Option String := none

namespace Record

def ofEvent (time : String) (e : Event) : Record where
  time
  level := e.level
  logger := e.logger
  message := e.message

def bars (r : Record) : String :=
  " | ".intercalate [r.time, r.level.name, r.logger, r.message]

/-- A JSON object on one line. What is not ASCII is written as it is. -/
def json (r : Record) : String :=
  let field (e : String × String) :=
    Text.jsonString false e.1 ++ ": " ++ Text.jsonString false e.2
  let fields := [("ts", r.time), ("level", r.level.name), ("logger", r.logger),
    ("message", r.message)] ++ (r.exception.map fun x => ("exc_info", x)).toList
  "\x7b" ++ ", ".intercalate (fields.map field) ++ "\x7d"

def text (form : LogForm) (r : Record) : String :=
  match form with
  | .bars => r.bars
  | .json => r.json

end Record

end InputStaging
