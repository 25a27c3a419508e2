/-!
The gate in front of the one-time start of an engine. Callers pass one at a
time in the order of their arrival; a caller that gives up leaves the line,
and passes the gate on if it has reached its turn. The gate also keeps what
the start has come to.
-/

namespace BusEndpoint

/-- How far the start of an engine has come. -/
inductive StartState (ι : Type) where
  | notStarted
  | starting
  | started (engineInstance : ι)
deriving DecidableEq

namespace StartState

variable {ι : Type}

def started? : StartState ι → Option ι
  | started i => some i
  | _ => none

def name : StartState ι → String
  | notStarted => "NotStarted"
  | starting => "Starting"
  | started _ => "Started"

end StartState

structure StartGate (ι : Type) where
  state : StartState ι := .notStarted
  /-- The ticket of the caller whose turn it is. -/
  holder : Option Nat := none
  /-- The tickets of those who wait, the next one first. -/
  line : List Nat := []
  nextTicket : Nat := 0
deriving DecidableEq

namespace StartGate

variable {ι : Type}

instance : Inhabited (StartGate ι) := ⟨{}⟩

/-- Take a ticket. If the gate is free it is at once this caller's turn. -/
def enter (gate : StartGate ι) : Nat × StartGate ι :=
  let ticket := gate.nextTicket
  match gate.holder with
  | none => (ticket, { gate with holder := some ticket, nextTicket := ticket + 1 })
  | some _ => (ticket, { gate with line := gate.line ++ [ticket], nextTicket := ticket + 1 })

def isTurnOf (gate : StartGate ι) (ticket : Nat) : Bool := decide (gate.holder = some ticket)

/-- Pass the gate on to the next in line. -/
def release (gate : StartGate ι) : StartGate ι :=
  { gate with holder := gate.line.head?, line := gate.line.tail }

/-- Give up a ticket. -/
def leave (ticket : Nat) (gate : StartGate ι) : StartGate ι :=
  if gate.isTurnOf ticket then gate.release
  else { gate with line := gate.line.erase ticket }

def setState (state : StartState ι) (gate : StartGate ι) : StartGate ι := { gate with state }

end StartGate

end BusEndpoint
