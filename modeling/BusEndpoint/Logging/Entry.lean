/-!
Log entries. An entry may carry the text of an error, or arguments for the
placeholders of its message. Placeholders are replaced from left to right, and
what an argument brings in is never taken for a placeholder.
-/

namespace BusEndpoint

inductive LogLevel where
  | debug
  | info
  | warn
  | error
  | fatal
deriving DecidableEq

namespace LogLevel

def rank : LogLevel → Nat
  | debug => 0
  | info => 1
  | warn => 2
  | error => 3
  | fatal => 4

def name : LogLevel → String
  | debug => "debug"
  | info => "info"
  | warn => "warn"
  | error => "error"
  | fatal => "fatal"

def all : List LogLevel := [debug, info, warn, error, fatal]

def ofName? (name : String) : Option LogLevel := all.find? fun level => level.name == name

theorem ofName?_name (level : LogLevel) : ofName? level.name = some level := by
  cases level <;> decide

/-- The level is the given one or a more severe one. -/
def isAtLeast (level minimum : LogLevel) : Bool := decide (minimum.rank ≤ level.rank)

end LogLevel

structure LogEntry where
  level : LogLevel
  message : String
  error : Option String := none
  args : Option (List String) := none
deriving DecidableEq

namespace LogEntry

def placeholder : List Char := ['\x7b', '\x7d']

/-- Put the arguments in the place of the placeholders. Placeholders without
an argument stay, and arguments without a placeholder are left out. -/
def fill : List Char → List String → List Char
  | '\x7b' :: '\x7d' :: rest, arg :: args => arg.toList ++ fill rest args
  | '\x7b' :: '\x7d' :: rest, [] => placeholder ++ fill rest []
  | c :: rest, args => c :: fill rest args
  | [], _ => []

/-- The text of the entry. -/
def render (entry : LogEntry) : String :=
  match entry.args with
  | none => entry.message
  | some args => String.ofList (fill entry.message.toList args)

end LogEntry

end BusEndpoint
