import BusEndpoint.Json.Decode
/-!
Message types to try out. All their fields have to be given, other members are
not looked at, and a message is kept as the object of its fields.
-/

namespace BusEndpoint.Scripted

/-- Read a message of the type with this name and these fields, in the order in which they
are declared. -/
def readMessage (messageType : String) (fields : List (String × Decoder Json)) : Decoder Json :=
  fun value => do
    let declared := fields.map fun (name, decode) =>
      (Decode.field name decode fun found given => (name, found) :: given).require
    let given ← Decode.record messageType declared [] value
    return .object (fields.filterMap fun (name, _) =>
      (given.lookup name).map fun found => (name, found))

end BusEndpoint.Scripted
