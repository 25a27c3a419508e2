import BusEndpoint.Json.Writer
import BusEndpoint.Text.Quoted
/-!
Reading records out of JSON values. A record may be written as an object or
as an array of its fields in declared order. Members of an object are taken in
the order of their names, so that of several bad members the first by name is
reported; unknown members are passed over.
-/

namespace BusEndpoint

/-- Why a value is not of the wanted kind. `found` and `wanted` are phrases. -/
inductive DecodeError where
  | invalidType (found wanted : String)
  | invalidInteger (value : Int) (wanted : String)
  | missingField (name : String)
  | tooShort (length : Nat) (record : String) (fields : Nat)
  | tooLong (length : Nat)
deriving DecidableEq

def DecodeError.message : DecodeError → String
  | invalidType found wanted => "invalid type: " ++ found ++ ", expected " ++ wanted
  | invalidInteger value wanted =>
    "invalid value: integer `" ++ Number.integerText value ++ "`, expected " ++ wanted
  | missingField name => "missing field `" ++ name ++ "`"
  | tooShort length record fields =>
    "invalid length " ++ Text.decimal length ++ ", expected struct " ++ record ++ " with " ++
      Text.decimal fields ++ (if fields = 1 then " element" else " elements")
  | tooLong length =>
    "invalid length " ++ Text.decimal length ++ ", expected fewer elements in array"

/-- A way to read values of one kind. -/
abbrev Decoder (α : Type) := Json → Except DecodeError α

namespace Json

/-- What kind of value this is, as a phrase. -/
def phrase : Json → String
  | null => "null"
  | boolean b => "boolean `" ++ Text.truth b ++ "`"
  | number (.integer n) => "integer `" ++ Number.integerText n ++ "`"
  | number (.fraction bits) => "floating point `" ++ Number.fractionText bits ++ "`"
  | string text => "string " ++ Text.quoted text
  | array _ => "sequence"
  | object _ => "map"

end Json

namespace Decode

variable {α β ρ : Type}

def text : Decoder String
  | .string s => .ok s
  | value => .error (.invalidType value.phrase "a string")

def boolean : Decoder Bool
  | .boolean b => .ok b
  | value => .error (.invalidType value.phrase "a boolean")

/-- An integer below a size. -/
def unsigned (wanted : String) (size : Nat) : Decoder Nat
  | .number (.integer n) =>
    if 0 ≤ n ∧ n < size then .ok n.toNat else .error (.invalidInteger n wanted)
  | value => .error (.invalidType value.phrase wanted)

def word8 : Decoder UInt8 := fun value => (unsigned "u8" UInt8.size value).map UInt8.ofNat

def word32 : Decoder UInt32 := fun value => (unsigned "u32" UInt32.size value).map UInt32.ofNat

def word64 : Decoder UInt64 := fun value => (unsigned "u64" UInt64.size value).map UInt64.ofNat

/-- Null stands for an absent value. -/
def optional (decode : Decoder α) : Decoder (Option α)
  | .null => .ok none
  | value => (decode value).map some

def sequence (decode : Decoder α) : Decoder (List α)
  | .array elements => elements.mapM decode
  | value => .error (.invalidType value.phrase "a sequence")

def members (decode : Decoder α) : List (String × Json) → Except DecodeError (Dictionary α)
  | entries =>
    entries.foldlM (fun d e => (decode e.2).map (d.insert e.1)) Dictionary.empty

def dictionary (decode : Decoder α) : Decoder (Dictionary α)
  | .object entries => members decode entries
  | value => .error (.invalidType value.phrase "a map")

def any : Decoder Json := .ok

/-- One field of a record type `ρ`: how a value for it changes the record. A
field that is not required keeps the value it has in the blank record. -/
structure RecordField (ρ : Type) where
  name : String
  required : Bool
  read : ρ → Decoder ρ

/-- A field that is read by `decode` and stored by `store`. -/
def field (name : String) (decode : Decoder α) (store : α → ρ → ρ) : RecordField ρ :=
  ⟨name, false, fun record value => (decode value).map fun a => store a record⟩

def RecordField.require (f : RecordField ρ) : RecordField ρ := { f with required := true }

def findField (name : String) : List (RecordField ρ) → Option (RecordField ρ)
  | [] => none
  | f :: rest => if f.name = name then some f else findField name rest

/-- Take up one member of an object. -/
def readMember (fields : List (RecordField ρ)) (record : ρ) (member : String × Json) :
    Except DecodeError ρ :=
  match findField member.1 fields with
  | some f => f.read record member.2
  | none => .ok record

/-- The first required field that no member gives. -/
def firstMissing? (fields : List (RecordField ρ)) (entries : List (String × Json)) : Option String :=
  (fields.find? fun f => f.required && (findEntry f.name entries).isNone).map (·.name)

/-- Take up the elements of an array as the fields in declared order. -/
def readElements (typeName : String) (total length : Nat) :
    List (RecordField ρ) → List Json → ρ → Except DecodeError ρ
  | [], [], record => .ok record
  | [], _ :: _, _ => .error (.tooLong length)
  | f :: fields, [], record =>
    if f.required then .error (.tooShort length typeName total)
    else readElements typeName total length fields [] record
  | f :: fields, value :: values, record =>
    match f.read record value with
    | .ok record => readElements typeName total length fields values record
    | .error e => .error e

/-- A record of the named type, beginning with a blank one. -/
def record (typeName : String) (fields : List (RecordField ρ)) (blank : ρ) : Decoder ρ
  | .object entries =>
    match entries.foldlM (readMember fields) blank with
    | .error e => .error e
    | .ok result =>
      match firstMissing? fields entries with
      | some name => .error (.missingField name)
      | none => .ok result
  | .array elements =>
    readElements typeName fields.length elements.length fields elements blank
  | value => .error (.invalidType value.phrase ("struct " ++ typeName))

end Decode

end BusEndpoint
