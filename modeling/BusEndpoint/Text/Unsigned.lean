/-!
Reading a counter out of a header or an attribute: decimal digits, with or
without a plus sign in front, whose value is below a bound.
-/

namespace BusEndpoint.Text

/-- The value of a decimal digit. Digits of other scripts are not digits
here. -/
def digitValue? (c : Char) : Option Nat :=
  if '0' ≤ c ∧ c ≤ '9' then some (c.toNat - '0'.toNat) else none

/-- Fold digits into a number, most significant first. -/
def digitsValue? (value : Nat) : List Char → Option Nat
  | [] => some value
  | c :: rest =>
    match digitValue? c with
    | some d => digitsValue? (10 * value + d) rest
    | none => none

/-- A nonempty list of digits as a number. -/
def naturalOfDigits? : List Char → Option Nat
  | [] => none
  | digits => digitsValue? 0 digits

/-- One plus sign in front is allowed. There is no sign for negative values,
no blank and no separator. -/
def natural? (text : String) : Option Nat :=
  match text.toList with
  | '+' :: digits => naturalOfDigits? digits
  | digits => naturalOfDigits? digits

/-- The text as a 32-bit counter, if it is a number in that range. -/
def counter? (text : String) : Option UInt32 :=
  match natural? text with
  | some n => if n < UInt32.size then some (UInt32.ofNat n) else none
  | none => none

/-- The decimal text of a number. -/
def decimal (n : Nat) : String := String.ofList (Nat.toDigits 10 n)

end BusEndpoint.Text
