import BusEndpoint.Text.Quoted
import BusEndpoint.Text.Unsigned
/-!
Services that the host offers to the engine: at most one of each kind, where
the kind determines the type of the service.
-/

namespace BusEndpoint

/-- Services by kind. -/
structure ServiceRegistry (κ : Type) (service : κ → Type) where
  entries : List ((kind : κ) × service kind) := []

namespace ServiceRegistry

variable {κ : Type} [DecidableEq κ] {service : κ → Type}

/-- The first service of a kind in a list. -/
def find? (kind : κ) : List ((kind : κ) × service kind) → Option (service kind)
  | [] => none
  | ⟨other, found⟩ :: rest =>
    if h : other = kind then some (h ▸ found) else find? kind rest

def get? (registry : ServiceRegistry κ service) (kind : κ) : Option (service kind) :=
  find? kind registry.entries

/-- Offer a service. It takes the place of an earlier one of its kind. -/
def insert (registry : ServiceRegistry κ service) (kind : κ) (offered : service kind) :
    ServiceRegistry κ service :=
  ⟨⟨kind, offered⟩ :: registry.entries.filter fun e => !decide (e.1 = kind)⟩

def size (registry : ServiceRegistry κ service) : Nat := registry.entries.length

def isEmpty (registry : ServiceRegistry κ service) : Bool := registry.entries.isEmpty

def line (registry : ServiceRegistry κ service) : String :=
  Text.recordLine "ServiceRegistry" [("services", Text.decimal registry.size)]

theorem get?_insert_self (registry : ServiceRegistry κ service) (kind : κ)
    (offered : service kind) : (registry.insert kind offered).get? kind = some offered := by
  simp [insert, get?, find?]

end ServiceRegistry

end BusEndpoint
