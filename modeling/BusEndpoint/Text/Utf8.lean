/-!
Decoding UTF-8. Shortened forms, surrogates and values beyond the last code
point are refused, and the position of the first byte that cannot be decoded
is part of the answer.
-/

namespace BusEndpoint.Text

/-- A continuation byte and its six bits. -/
def continuation? (byte : UInt8) : Option Nat :=
  if 0x80 ≤ byte.toNat ∧ byte.toNat < 0xC0 then some (byte.toNat - 0x80) else none

/-- The code point that the bytes begin with, and its number of bytes. -/
def leadingCodePoint? : List UInt8 → Option (Nat × Nat)
  | [] => none
  | first :: rest =>
    let b := first.toNat
    if b < 0x80 then some (b, 1)
    else if 0xC2 ≤ b ∧ b < 0xE0 then
      match rest.map continuation? with
      | some x :: _ => some ((b - 0xC0) * 64 + x, 2)
      | _ => none
    else if 0xE0 ≤ b ∧ b < 0xF0 then
      match (rest.take 2).map continuation? with
      | [some x, some y] =>
        let n := (b - 0xE0) * 4096 + x * 64 + y
        if n < 0x800 ∨ (0xD800 ≤ n ∧ n < 0xE000) then none else some (n, 3)
      | _ => none
    else if 0xF0 ≤ b ∧ b < 0xF5 then
      match (rest.take 3).map continuation? with
      | [some x, some y, some z] =>
        let n := (b - 0xF0) * 262144 + x * 4096 + y * 64 + z
        if n < 0x10000 ∨ 0x10FFFF < n then none else some (n, 4)
      | _ => none
    else none

/-- Decode bytes from an offset on, with the characters found so far in
reverse. The fuel bounds the number of characters. -/
def decodeUtf8From (fuel offset : Nat) (decoded : List Char) (bytes : List UInt8) :
    Except Nat (List Char) :=
  match fuel, bytes with
  | _, [] => .ok decoded.reverse
  | 0, _ => .error offset
  | fuel + 1, bytes =>
    match leadingCodePoint? bytes with
    | none => .error offset
    | some (n, size) =>
      decodeUtf8From fuel (offset + size) (Char.ofNat n :: decoded) (bytes.drop size)

/-- The text with these bytes, or the position of the first bad byte. -/
def decodeUtf8 (bytes : List UInt8) : Except Nat String :=
  (decodeUtf8From bytes.length 0 [] bytes).map String.ofList

/-- The bytes of a text. -/
def utf8 (text : String) : List UInt8 := text.toUTF8.toList

end BusEndpoint.Text
