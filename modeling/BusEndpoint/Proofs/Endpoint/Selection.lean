import BusEndpoint.InMemory.Engine

/-! How a message finds its handler. The handler is looked up, the body is read and
decoded, and whichever of these fails first decides with what the message fails. -/

namespace BusEndpoint.InMemory

variable {σ τ κ : Type}

/-- What a handler does with a body that it has decoded. -/
abbrev HandlerWork (σ : Type) := HandlerContext σ → Task σ (Except Failure Unit)

/-- The name under which the handler of a message is looked up. -/
def handledType (headers : Headers) : String := (headers.get? Header.enclosedMessageTypes).getD ""

/-- What handlers make of a message of a type. -/
inductive Selects (handlers : Dictionary (Handler σ)) (messageType : String) (body : Bytes) :
    Except Failure (HandlerWork σ) → Prop where
  | unknown (hHandler : handlers.get? messageType = none) :
      Selects handlers messageType body (.error (.bus (.noHandler messageType)))
  | unreadable {handler : Handler σ} {error : Json.ReadError}
      (hHandler : handlers.get? messageType = some handler) (hRead : Json.read body = .error error) :
      Selects handlers messageType body (.error (.malformed error.message))
  | undecodable {handler : Handler σ} {json : Json} {error : DecodeError}
      (hHandler : handlers.get? messageType = some handler) (hRead : Json.read body = .ok json)
      (hDecode : handler json = .error error) :
      Selects handlers messageType body (.error (.malformed error.message))
  | decoded {handler : Handler σ} {json : Json} {work : HandlerWork σ}
      (hHandler : handlers.get? messageType = some handler) (hRead : Json.read body = .ok json)
      (hDecode : handler json = .ok work) : Selects handlers messageType body (.ok work)

/-- A message selects one thing only. -/
theorem Selects.unique {handlers : Dictionary (Handler σ)} {messageType : String} {body : Bytes}
    {selected other : Except Failure (HandlerWork σ)}
    (selects : Selects handlers messageType body selected)
    (also : Selects handlers messageType body other) : selected = other := by
  cases selects <;> cases also <;> simp_all

/-- What a message fails with that selects nothing is no cancellation. -/
theorem Selects.isCancellation_eq_false {handlers : Dictionary (Handler σ)} {messageType : String}
    {body : Bytes} {failure : Failure}
    (selects : Selects handlers messageType body (.error failure)) :
    failure.isCancellation = false := by
  cases selects with
  | unknown => rfl
  | unreadable => rfl
  | undecodable => rfl

variable {receiver : Receiver σ κ} {context : MessageContext σ} {messageType : String} {body : Bytes}
  {selected : Except Failure (HandlerWork σ)}

theorem Receiver.selects_iff :
    Selects receiver.handlers (handledType context.headers) context.body selected ↔
      receiver.select context = selected := by
  constructor
  · intro selects
    rw [handledType] at selects
    cases selects with
    | unknown hHandler => simp only [select, hHandler]
    | unreadable hHandler hRead => simp only [select, hHandler, hRead]
    | undecodable hHandler hRead hDecode =>
        simp only [select, hHandler, hRead, hDecode]
        rfl
    | decoded hHandler hRead hDecode =>
        simp only [select, hHandler, hRead, hDecode]
        rfl
  · rintro rfl
    rw [select, ← handledType]
    split
    · rename_i hHandler
      exact .unknown hHandler
    · rename_i handler hHandler
      split
      · rename_i error hRead
        exact .unreadable hHandler hRead
      · rename_i json hRead
        cases hDecode : handler json with
        | error error => exact .undecodable hHandler hRead hDecode
        | ok work => exact .decoded hHandler hRead hDecode

theorem Receiver.selects_select (receiver : Receiver σ κ) (context : MessageContext σ) :
    Selects receiver.handlers (handledType context.headers) context.body (receiver.select context) :=
  selects_iff.mpr rfl

/-- Handlers that decode alike select alike, and work as is said of each of them. -/
theorem Selects.carry {plain : Dictionary (Handler σ)} {carried : Dictionary (Handler τ)}
    {carry : String → Json → HandlerWork σ → HandlerWork τ}
    (hHandlers : ∀ name, carried.get? name =
      (plain.get? name).map fun handler body => (handler body).map (carry name body))
    (selects : Selects plain messageType body selected) :
    (∃ failure, selected = .error failure ∧ Selects carried messageType body (.error failure)) ∨
      ∃ json work, Json.read body = .ok json ∧ selected = .ok work ∧
        Selects carried messageType body (.ok (carry messageType json work)) := by
  have hCarried {handler : Handler σ} (hHandler : plain.get? messageType = some handler) :
      carried.get? messageType =
        some fun body => (handler body).map (carry messageType body) := by
    rw [hHandlers, hHandler]
    rfl
  cases selects with
  | unknown hHandler =>
      exact .inl ⟨_, rfl, .unknown (by rw [hHandlers, hHandler]; rfl)⟩
  | unreadable hHandler hRead => exact .inl ⟨_, rfl, .unreadable (hCarried hHandler) hRead⟩
  | undecodable hHandler hRead hDecode =>
      exact .inl ⟨_, rfl, .undecodable (hCarried hHandler) hRead (by rw [hDecode]; rfl)⟩
  | decoded hHandler hRead hDecode =>
      exact .inr ⟨_, _, hRead, rfl, .decoded (hCarried hHandler) hRead (by rw [hDecode]; rfl)⟩

namespace Receiver

/-- A message that selects nothing fails at once. -/
theorem onMessage_of_error {failure : Failure}
    (selects : Selects receiver.handlers (handledType context.headers) context.body
      (.error failure)) : receiver.onMessage context = .done (.error failure) := by
  rw [onMessage, selects_iff.mp selects]
  rfl

theorem onMessage_of_ok {work : HandlerWork σ}
    (selects : Selects receiver.handlers (handledType context.headers) context.body (.ok work)) :
    receiver.onMessage context =
      work ⟨context.messageId, context.headers, receiver.session⟩ := by
  rw [onMessage, selects_iff.mp selects]

/-- A message fails at once, or goes to one of the handlers. -/
theorem onMessage_cases (receiver : Receiver σ κ) (context : MessageContext σ) :
    (∃ failure, receiver.onMessage context = .done (.error failure)) ∨
      ∃ name handler json work, receiver.handlers.get? name = some handler ∧
        handler json = .ok work ∧ receiver.onMessage context =
          work ⟨context.messageId, context.headers, receiver.session⟩ := by
  have selects := receiver.selects_select context
  cases hSelected : receiver.select context with
  | error failure => exact .inl ⟨failure, onMessage_of_error (hSelected ▸ selects)⟩
  | ok work =>
      rw [hSelected] at selects
      have hWork := onMessage_of_ok selects
      cases selects with
      | decoded hHandler _ hDecode => exact .inr ⟨_, _, _, work, hHandler, hDecode, hWork⟩

end Receiver

end BusEndpoint.InMemory
