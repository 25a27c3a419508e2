import BusEndpoint.Failure
import BusEndpoint.Recoverability
/-!
The configuration of an endpoint and how it is resolved. The endpoint's name
is the first candidate that is not blank, taken as it stands; candidates are
the explicit name, the declared name, a setting, and the binding expression.
-/

namespace BusEndpoint

/-- Where settings are looked up. -/
abbrev SettingsSource := String → Option String

namespace SettingsSource

def ofDictionary (settings : Dictionary String) : SettingsSource := settings.get?

/-- The variables of a process environment. A name that cannot name a
variable is never found. -/
def environment (assigned : Dictionary String) : SettingsSource := fun name =>
  if name = "" ∨ name.toList.any fun c => c = '=' ∨ c.toNat = 0 then none
  else assigned.get? name

end SettingsSource

inductive TransactionMode where
  | none
  | receiveOnly
  | sendsAtomicWithReceive
deriving DecidableEq

namespace TransactionMode

def name : TransactionMode → String
  | none => "none"
  | receiveOnly => "receive_only"
  | sendsAtomicWithReceive => "sends_atomic_with_receive"

def all : List TransactionMode := [none, receiveOnly, sendsAtomicWithReceive]

def ofName? (name : String) : Option TransactionMode := all.find? fun mode => mode.name == name

theorem ofName?_name (mode : TransactionMode) : ofName? mode.name = some mode := by
  cases mode <;> decide

end TransactionMode

structure Configuration where
  endpointName : String
  connectionName : String
  connectionString : Option String
  transactionMode : TransactionMode
  recoverability : RecoverabilitySettings
  sendOnly : Bool
deriving DecidableEq

/-- What is known before the configuration is resolved. -/
structure ConfigurationDraft where
  explicitName : Option String := .none
  declaredName : Option String := .none
  bindingExpression : Option String := .none
  connectionName : Option String := .none
  transactionMode : TransactionMode := .receiveOnly
  recoverability : RecoverabilitySettings := {}
  sendOnly : Bool := false

namespace ConfigurationDraft

def endpointNameSetting : String := "ENDPOINT_NAME"

def defaultConnectionName : String := "BUS_CONNECTION_STRING"

/-- The name between two percent signs, if the expression has this form. -/
def referredSetting? (expression : String) : Option String :=
  match expression.toList with
  | '%' :: rest =>
    if rest.getLast? = some '%' then some (String.ofList rest.dropLast) else none
  | _ => none

/-- A binding expression stands for the setting it refers to, or for
itself. -/
def resolveBinding (source : SettingsSource) (expression : String) : Option String :=
  match referredSetting? expression with
  | some name => source name
  | none => some expression

/-- The candidates for the endpoint's name, in their order. -/
def candidates (draft : ConfigurationDraft) (source : SettingsSource) : List (Option String) :=
  [draft.explicitName, draft.declaredName, source endpointNameSetting,
    draft.bindingExpression.bind (resolveBinding source)]

def resolveName (draft : ConfigurationDraft) (source : SettingsSource) : Option String :=
  (draft.candidates source).findSome? fun candidate => candidate.bind Text.nonBlank

def resolveConnectionName (draft : ConfigurationDraft) : String :=
  (draft.connectionName.bind Text.nonBlank).getD defaultConnectionName

/-- The mode is checked before the name. -/
def resolve (draft : ConfigurationDraft) (source : SettingsSource) :
    Except BusError Configuration :=
  if draft.transactionMode ≠ .receiveOnly then
    .error (.configuration ("transaction mode `" ++ draft.transactionMode.name ++
      "` is not supported by function-hosted endpoints; use `receive_only`"))
  else
    match draft.resolveName source with
    | none =>
      .error (.configuration ("endpoint name is required; set it explicitly, declare it, " ++
        "or provide the `" ++ endpointNameSetting ++ "` setting"))
    | some endpointName =>
      let connectionName := draft.resolveConnectionName
      .ok
        { endpointName, connectionName
          connectionString := source connectionName
          transactionMode := draft.transactionMode
          recoverability := draft.recoverability
          sendOnly := draft.sendOnly }

end ConfigurationDraft

end BusEndpoint
