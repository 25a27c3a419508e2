import BusEndpoint.Dictionary
/-!
JSON values. Integers of the 64-bit ranges are kept exactly; every other
number is a 64-bit binary fraction, kept as its bit pattern so that equality
of values is decidable and zero keeps its sign.
-/

namespace BusEndpoint

inductive Number where
  | integer (value : Int)
  | fraction (bits : UInt64)
deriving DecidableEq

/-- Members of an object stand in the order in which they are written. The
reader delivers them ordered by name. -/
inductive Json where
  | null
  | boolean (value : Bool)
  | number (value : Number)
  | string (text : String)
  | array (elements : List Json)
  | object (members : List (String × Json))

namespace Json

instance : Inhabited Json := ⟨null⟩

def natural (n : Nat) : Json := .number (.integer n)

/-- An object whose members are ordered by name; of two members with one name
the later stays. -/
def ofMembers (members : List (String × Json)) : Json :=
  .object (Dictionary.ofList members).entries

def ofDictionary (d : Dictionary Json) : Json := .object d.entries

def text? : Json → Option String
  | string text => some text
  | _ => none

def natural? : Json → Option Nat
  | number (.integer n) => n.toNat?
  | _ => none

def boolean? : Json → Option Bool
  | boolean value => some value
  | _ => none

/-- The elements of an array; any other value has none. -/
def elements : Json → List Json
  | array elements => elements
  | _ => []

/-- The members of an object; any other value has none. -/
def members : Json → List (String × Json)
  | object members => members
  | _ => []

def member? (value : Json) (name : String) : Option Json :=
  match value with
  | .object members => findEntry name members
  | _ => none

end Json

end BusEndpoint
