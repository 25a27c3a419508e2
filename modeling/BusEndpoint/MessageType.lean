/-!
Names of message types. A type is named on the wire by its full name without
the path in front of it; generic arguments keep theirs.
-/

namespace BusEndpoint.MessageType

/-- The part behind the last separator that ends before the first opening
bracket, where `candidate` is the part behind the last separator so far. -/
def behindPath (candidate : List Char) : List Char → List Char
  | [] => candidate
  | c :: rest =>
    if c = '<' then candidate
    else if c = ':' ∧ rest.head? = some ':' then behindPath rest.tail rest
    else behindPath candidate rest

/-- The name under which a type with this full name travels. -/
def ofFullName (fullName : String) : String :=
  String.ofList (behindPath fullName.toList fullName.toList)

end BusEndpoint.MessageType
