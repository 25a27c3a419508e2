/-!
Fresh identifiers. A supply hands out one identifier after the other and
never the same one twice; they have the form of random UUIDs.
-/

namespace BusEndpoint

/-- At least `width` hexadecimal digits. -/
def hexText (width n : Nat) : List Char :=
  let digits := Nat.toDigits 16 n
  List.replicate (width - digits.length) '0' ++ digits

/-- The form of a random UUID: `x` stands for a hexadecimal digit, `y` for the
digit that marks the variant, and every other character for itself. -/
def identifierForm : String := "xxxxxxxx-xxxx-4xxx-yxxx-xxxxxxxxxxxx"

/-- The text begins with characters that a form allows at their places. -/
def fitsForm : List Char → List Char → Bool
  | [], _ => true
  | _ :: _, [] => false
  | mark :: form, c :: text =>
    (match mark with
      | 'x' => "0123456789abcdef".toList.contains c
      | 'y' => "89ab".toList.contains c
      | mark => c == mark) && fitsForm form text

/-- The text begins with an identifier, of this or of any other supply. -/
def beginsWithIdentifier (text : List Char) : Bool := fitsForm identifierForm.toList text

/-- What all identifiers begin with. -/
def identifierStem : String := "5b0c2a9e-71d3-4b86-9a4e-"

/-- The identifier with a given number. -/
def identifier (n : Nat) : String := identifierStem ++ String.ofList (hexText 12 n)

theorem identifierStem_ne_empty : identifierStem ≠ "" := by decide

theorem identifier_ne_empty (n : Nat) : identifier n ≠ "" := by
  intro h
  rw [identifier] at h
  exact identifierStem_ne_empty (String.append_eq_empty_iff.mp h).1

/-- The number of the next identifier. -/
structure IdentifierSupply where
  next : Nat := 0
deriving DecidableEq

namespace IdentifierSupply

def take (supply : IdentifierSupply) : String × IdentifierSupply :=
  (identifier supply.next, ⟨supply.next + 1⟩)

end IdentifierSupply

end BusEndpoint
