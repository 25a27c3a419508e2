import BusEndpoint.Json.Basic
import BusEndpoint.Decimal.Shortest
/-!
Numbers in JSON text: how the digits of a number become a value, and how a
value is written. A fraction is written with the fewest digits that read back
as the same bits.
-/

namespace BusEndpoint.Number

/-- The powers of ten a 64-bit fraction can hold end here. -/
def greatestPower : Nat := 308

def powerOfTen (n : Nat) : Float := Float.ofScientific 1 false n

/-- Divide by a power of ten of any size. Numbers that get too small become
zero. -/
def divideByPower (value : Float) (power : Nat) : Float :=
  if power ≤ greatestPower then value / powerOfTen power
  else if value == 0.0 then value
  else divideByPower (value / powerOfTen greatestPower) (power - greatestPower)
termination_by power
decreasing_by simp_all [greatestPower]; omega

/-- The fraction `significand * 10 ^ exponent`, unless it is too large. The
significand is converted first and then scaled, so that the result may differ
from the nearest fraction in its last bit. -/
def fraction? (negative : Bool) (significand : UInt64) (exponent : Int) : Option Number :=
  let value := significand.toFloat
  let signed (x : Float) : Number := .fraction (if negative then -x else x).toBits
  if exponent < 0 then
    if value == 0.0 then some (signed value)
    else some (signed (divideByPower value exponent.natAbs))
  else if exponent.natAbs ≤ greatestPower then
    let scaled := value * powerOfTen exponent.natAbs
    if scaled.isInf then none else some (signed scaled)
  else if value == 0.0 then some (signed value)
  else none

/-- What the sign bit of a 64-bit pattern counts. -/
def signWeight : Nat := 9223372036854775808

/-- A number that is written with digits only. Zero keeps a minus sign, and
so do numbers beyond the 64-bit ranges, as fractions. -/
def ofDigits (negative : Bool) (significand : UInt64) : Number :=
  if negative then
    if significand = 0 ∨ signWeight < significand.toNat then
      .fraction (-significand.toFloat).toBits
    else .integer (-significand.toNat)
  else .integer significand.toNat

/-- The lowest 52 bits of a pattern hold numbers below this one. -/
def fractionSize : Nat := 4503599627370496

/-- The parts of a bit pattern: sign, and the number unless it is zero,
infinite or no number. -/
structure Parts where
  negative : Bool
  isFinite : Bool
  binary? : Option Decimal.Binary

def parts (bits : UInt64) : Parts :=
  let n := bits.toNat
  let negative := signWeight ≤ n
  let biased : Nat := n / fractionSize % 2048
  let fraction : Nat := n % fractionSize
  if biased = 2047 then ⟨negative, false, none⟩
  else if biased = 0 then
    if fraction = 0 then ⟨negative, true, none⟩
    else ⟨negative, true, some ⟨fraction, -1074, false⟩⟩
  else
    ⟨negative, true, some ⟨fraction + fractionSize, (biased : Int) - 1075,
      fraction = 0 && 1 < biased⟩⟩

/-- The point stands inside or directly behind the digits for numbers from
`10 ^ -5` up to `10 ^ 16`; otherwise the exponent is written, with its sign. -/
def scaledText (d : Decimal.Scaled) : String :=
  let digits := (Text.decimal d.digits).toList
  let count := digits.length
  let point := (count : Int) + d.exponent
  let zeros (n : Nat) := List.replicate n '0'
  if 0 ≤ d.exponent ∧ point ≤ 16 then
    String.ofList (digits ++ zeros d.exponent.natAbs ++ ['.', '0'])
  else if 0 < point ∧ point ≤ 16 then
    String.ofList (digits.take point.natAbs ++ '.' :: digits.drop point.natAbs)
  else if -5 < point ∧ point ≤ 0 then
    String.ofList (['0', '.'] ++ zeros point.natAbs ++ digits)
  else
    let exponent := point - 1
    let sign := if exponent < 0 then '-' else '+'
    let mantissa := match digits with
      | [] => []
      | [d] => [d]
      | d :: rest => d :: '.' :: rest
    String.ofList (mantissa ++ ['e', sign]) ++ Text.decimal exponent.natAbs

/-- A fraction that is not finite has no text of its own. -/
def fractionText (bits : UInt64) : String :=
  let p := parts bits
  let sign := if p.negative then "-" else ""
  match p.isFinite, p.binary? with
  | false, _ => "null"
  | true, none => sign ++ "0.0"
  | true, some b => sign ++ scaledText b.shortest

def integerText : Int → String
  | .ofNat n => Text.decimal n
  | .negSucc n => "-" ++ Text.decimal (n + 1)

def text : Number → String
  | .integer n => integerText n
  | .fraction bits => fractionText bits

end BusEndpoint.Number
