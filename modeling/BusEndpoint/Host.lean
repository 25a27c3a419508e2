import BusEndpoint.Identifier
import BusEndpoint.Task
/-!
What an endpoint needs of the function host it runs in: fresh identifiers,
the time of day, a place to report what happens, and cancellation tokens. The
state of the host is a parameter everywhere; a part of the library that keeps
state of its own is given a slot for it.
-/

namespace BusEndpoint

/-- A part of the state `σ` that one owner reads and writes. -/
structure Slot (σ α : Type) where
  get : σ → α
  set : α → σ → σ
  get_set : ∀ value s, get (set value s) = value

namespace Slot

variable {σ τ α β : Type}

/-- The whole state. -/
def whole : Slot σ σ := ⟨id, fun value _ => value, fun _ _ => rfl⟩

/-- A slot in the first of two states. -/
def onFirst (slot : Slot σ α) : Slot (σ × τ) α where
  get s := slot.get s.1
  set value s := (slot.set value s.1, s.2)
  get_set value s := slot.get_set value s.1

/-- The second of two states. -/
def second : Slot (σ × τ) τ := ⟨Prod.snd, fun value s => (s.1, value), fun _ _ => rfl⟩

def modify (slot : Slot σ α) (f : α → α) (s : σ) : σ := slot.set (f (slot.get s)) s

/-- Change the part and give an answer. -/
def update (slot : Slot σ α) (f : α → β × α) : StateM σ β := fun s =>
  let (answer, value) := f (slot.get s)
  (answer, slot.set value s)

end Slot

/-- How severe a report is, the most severe first. -/
inductive Severity where
  | error
  | warn
  | info
  | debug
  | trace
deriving DecidableEq

namespace Severity

def rank : Severity → Nat
  | error => 0
  | warn => 1
  | info => 2
  | debug => 3
  | trace => 4

def name : Severity → String
  | error => "error"
  | warn => "warn"
  | info => "info"
  | debug => "debug"
  | trace => "trace"

def all : List Severity := [error, warn, info, debug, trace]

def ofName? (name : String) : Option Severity := all.find? fun severity => severity.name == name

theorem ofName?_name (severity : Severity) : ofName? severity.name = some severity := by
  cases severity <;> decide

/-- A report passes a threshold if it is at least as severe. -/
def passes (severity threshold : Severity) : Bool := decide (severity.rank ≤ threshold.rank)

end Severity

inductive FieldValue where
  | text (value : String)
  | count (value : Nat)
  | flag (value : Bool)
deriving DecidableEq

/-- A report to the host: something that happened, or the beginning of a
stretch of work. -/
inductive Diagnostic where
  | event (severity : Severity) (fields : List (String × FieldValue)) (message : String)
  | span (name : String) (fields : List (String × FieldValue))
deriving DecidableEq

/-- A stretch of work counts as information. -/
def Diagnostic.severity : Diagnostic → Severity
  | event severity _ _ => severity
  | span _ _ => .info

/-- Function hosts with states `σ`. -/
class Host (σ : Type) where
  identifiers : Slot σ IdentifierSupply
  /-- The time of day as text. -/
  clock : σ → String
  report : Diagnostic → σ → σ

namespace Host

variable {σ τ : Type} [Host σ]

def freshIdentifier : StateM σ String := (identifiers (σ := σ)).update IdentifierSupply.take

def note (diagnostic : Diagnostic) : StateM σ Unit := modify (report diagnostic)

/-- Report an event. -/
def event (severity : Severity) (fields : List (String × FieldValue)) (message : String) :
    StateM σ Unit := note (.event severity fields message)

/-- A host beside which somebody else keeps a state. -/
instance : Host (σ × τ) where
  identifiers := (identifiers (σ := σ)).onFirst
  clock s := clock s.1
  report diagnostic s := (report diagnostic s.1, s.2)

end Host

/-- Report an event within a task. -/
def Task.event {σ : Type} [Host σ] (severity : Severity) (fields : List (String × FieldValue))
    (message : String) : Task σ Unit :=
  .perform (Host.event severity fields message)

/-- Report the beginning of a stretch of work. -/
def Task.span {σ : Type} [Host σ] (name : String) (fields : List (String × FieldValue)) :
    Task σ Unit :=
  .perform (Host.note (.span name fields))

/-- A token tells of every state whether the call it belongs to has been
cancelled. -/
abbrev CancellationToken (σ : Type) := σ → Bool

end BusEndpoint
