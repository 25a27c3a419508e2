import BusEndpoint.Endpoint
import BusEndpoint.Proofs.Dictionary
import BusEndpoint.Proofs.Endpoint.Selection
import BusEndpoint.Proofs.Messages.TypeNames
import BusEndpoint.Proofs.Transport.Sending

/-! Types and what is registered for them. An engine is put together by registering handlers and
routes for types, and every message carries the name of its type with it. The name is the same
one for all of them, so a message finds what was registered last for its type: the route when it
is sent, and the handler when it has arrived. -/

namespace BusEndpoint

/-- A message carries the name of its type as a header. -/
theorem OutgoingMessage.get?_type_ofJson (id sentAt messageType : String) (body : Json) :
    (ofJson id sentAt messageType body).headers.get? Header.enclosedMessageTypes =
      some messageType := by
  have distinct : [Header.messageId, Header.enclosedMessageTypes, Header.contentType,
      Header.timeSent].Nodup := by decide
  exact Dictionary.get?_insertAll_of_mem _ distinct (by simp)

namespace InMemory

open MessageType

variable {σ κ : Type}

/-- A step in putting an engine together. -/
inductive Registration (σ : Type) where
  | handle (fullName : String) (handler : Handler σ)
  | route (fullName endpoint : String)

namespace Registration

/-- The handler that is registered, under the name of its type. -/
def handler? : Registration σ → Option (String × Handler σ)
  | handle fullName handler => some (ofFullName fullName, handler)
  | route _ _ => none

/-- The endpoint that is registered, under the name of its type. -/
def endpoint? : Registration σ → Option (String × String)
  | handle _ _ => none
  | route fullName endpoint => some (ofFullName fullName, endpoint)

end Registration

namespace EngineState

def register (engine : EngineState σ) : Registration σ → EngineState σ
  | .handle fullName handler => engine.handle fullName handler
  | .route fullName endpoint => engine.route fullName endpoint

/-- Register one after the other. -/
def registerAll (engine : EngineState σ) (registrations : List (Registration σ)) : EngineState σ :=
  registrations.foldl register engine

theorem handlers_registerAll (engine : EngineState σ) (registrations : List (Registration σ)) :
    (engine.registerAll registrations).handlers =
      engine.handlers.insertAll (registrations.filterMap Registration.handler?) := by
  induction registrations generalizing engine with
  | nil => rfl
  | cons registration rest ih =>
      cases registration with
      | handle fullName handler => exact ih (engine.handle fullName handler)
      | route fullName endpoint => exact ih (engine.route fullName endpoint)

theorem routes_registerAll (engine : EngineState σ) (registrations : List (Registration σ)) :
    (engine.registerAll registrations).routes =
      engine.routes.insertAll (registrations.filterMap Registration.endpoint?) := by
  induction registrations generalizing engine with
  | nil => rfl
  | cons registration rest ih =>
      cases registration with
      | handle fullName handler => exact ih (engine.handle fullName handler)
      | route fullName endpoint => exact ih (engine.route fullName endpoint)

end EngineState

/-- A message goes by this name: when it is sent, to find its route, and when it has arrived, to
find its handler. -/
structure GoesBy (message : OutgoingMessage) (name : String) : Prop where
  stamped : message.messageType = name ∧
    message.headers.get? Header.enclosedMessageTypes = some name
  routed : ∀ (options : SendOptions) (routes : Routes),
    options.resolve routes message.messageType = options.destination.or (routes.get? name)
  /-- The sender may have given another name for the type. -/
  dispatched : ∀ {σ κ : Type} (receiver : Receiver σ κ) (token : TransportToken σ)
    (options : SendOptions) (sender fresh : String),
    Selects receiver.handlers ((options.headers.get? Header.enclosedMessageTypes).getD name)
      message.body (receiver.select
        ((InboundMessage.ofWire fresh (message.prepare options sender).toWire).context token))

/-- Where the headers of a message say that its type has a name, that one is looked up. -/
theorem handledType_ofWire_prepare {message : OutgoingMessage} {name : String}
    (hHeader : message.headers.get? Header.enclosedMessageTypes = some name)
    (options : SendOptions) (sender fresh : String) :
    handledType (InboundMessage.ofWire fresh (message.prepare options sender).toWire).headers =
      (options.headers.get? Header.enclosedMessageTypes).getD name := by
  have hArrived := (message.arrives options sender fresh).others Header.enclosedMessageTypes
    (by decide) (by decide) (by decide) (by decide)
  rw [InboundMessage.header?, hHeader] at hArrived
  rw [handledType, hArrived]
  cases options.headers.get? Header.enclosedMessageTypes <;> rfl

theorem goesBy_of_stamped {message : OutgoingMessage} {name : String}
    (hType : message.messageType = name)
    (hHeader : message.headers.get? Header.enclosedMessageTypes = some name) :
    GoesBy message name where
  stamped := ⟨hType, hHeader⟩
  routed options routes := by rw [SendOptions.resolve, hType]
  dispatched {σ κ} receiver token options sender fresh := by
    rw [← handledType_ofWire_prepare hHeader options sender fresh,
      ← (message.arrives options sender fresh).body]
    exact receiver.selects_select
      ((InboundMessage.ofWire fresh (message.prepare options sender).toWire).context token)

/-- Every message that is made for a type goes by the name of the type. -/
theorem goesBy_ofFullName [Host σ] {fullName : String} {body : Except String Json} {s : σ}
    {message : OutgoingMessage}
    (hMade : ((Payload.ofType fullName body).toMessage s).1 = .ok message) :
    GoesBy message (ofFullName fullName) := by
  cases body with
  | error reason => cases hMade
  | ok json =>
      cases hMade
      exact goesBy_of_stamped rfl (OutgoingMessage.get?_type_ofJson ..)

/-- What there is to the name of a type. -/
structure IsTypeName (name fullName : String) : Prop where
  cut : IsNameOf name fullName
  only : ∀ other, IsNameOf other fullName → other = name
  settled : ofFullName name = name
  argumentsUnread : ∀ front arguments, fullName = front ++ "<" ++ arguments →
    name = ofFullName front ++ "<" ++ arguments
  /-- The handler that is registered last for the type is kept under its name. -/
  handled : ∀ {σ : Type} (engine : EngineState σ) (before after : List (Registration σ))
    (handler : Handler σ), (∀ other ∈ after, ∀ later, other.handler? ≠ some (name, later)) →
      (engine.registerAll (before ++ .handle fullName handler :: after)).handlers.get? name =
        some handler
  /-- Registrations for types of other names have nothing to do with it. -/
  unhandled : ∀ {σ : Type} (engine : EngineState σ) (registrations : List (Registration σ)),
    (∀ other ∈ registrations, ∀ handler, other.handler? ≠ some (name, handler)) →
      (engine.registerAll registrations).handlers.get? name = engine.handlers.get? name
  routed : ∀ {σ : Type} (engine : EngineState σ) (before after : List (Registration σ))
    (endpoint : String), (∀ other ∈ after, ∀ later, other.endpoint? ≠ some (name, later)) →
      (engine.registerAll (before ++ .route fullName endpoint :: after)).routes.get? name =
        some endpoint
  unrouted : ∀ {σ : Type} (engine : EngineState σ) (registrations : List (Registration σ)),
    (∀ other ∈ registrations, ∀ endpoint, other.endpoint? ≠ some (name, endpoint)) →
      (engine.registerAll registrations).routes.get? name = engine.routes.get? name
  sent : ∀ {σ : Type} [Host σ] (body : Except String Json) (s : σ) (message : OutgoingMessage),
    ((Payload.ofType fullName body).toMessage s).1 = .ok message → GoesBy message name

theorem isTypeName_ofFullName (fullName : String) : IsTypeName (ofFullName fullName) fullName where
  cut := isNameOf_iff.mpr rfl
  only _ := isNameOf_iff.mp
  settled := ofFullName_ofFullName fullName
  argumentsUnread := by
    rintro front arguments rfl
    exact ofFullName_append_arguments front arguments
  handled engine before after handler hLast := by
    rw [engine.handlers_registerAll]
    exact Dictionary.get?_insertAll_filterMap_of_last _ rfl hLast
  unhandled engine registrations hNone := by
    rw [engine.handlers_registerAll]
    exact Dictionary.get?_insertAll_filterMap_of_none _ hNone
  routed engine before after endpoint hLast := by
    rw [engine.routes_registerAll]
    exact Dictionary.get?_insertAll_filterMap_of_last _ rfl hLast
  unrouted engine registrations hNone := by
    rw [engine.routes_registerAll]
    exact Dictionary.get?_insertAll_filterMap_of_none _ hNone
  sent _ _ _ := goesBy_ofFullName

end InMemory

end BusEndpoint
