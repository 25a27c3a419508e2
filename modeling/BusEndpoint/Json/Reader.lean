import BusEndpoint.Json.Number
import BusEndpoint.Text.Utf8
/-!
Reading JSON text. A failure names its reason and a position: the line, from
1, and the number of bytes of this line up to the byte at fault. Containers
nest at most 127 deep.
-/

namespace BusEndpoint.Json

inductive ReadFailure where
  | endInValue
  | endInList
  | endInObject
  | endInString
  | expectedValue
  | expectedWord
  | expectedColon
  | expectedListSeparator
  | expectedObjectSeparator
  | trailingComma
  | trailingCharacters
  | keyNotString
  | invalidNumber
  | numberOutOfRange
  | invalidEscape
  | loneSurrogate
  | unfinishedSurrogatePair
  | controlCharacter
  | invalidCodePoint
  | nestedTooDeep
deriving DecidableEq

def ReadFailure.text : ReadFailure → String
  | endInValue => "EOF while parsing a value"
  | endInList => "EOF while parsing a list"
  | endInObject => "EOF while parsing an object"
  | endInString => "EOF while parsing a string"
  | expectedValue => "expected value"
  | expectedWord => "expected ident"
  | expectedColon => "expected `:`"
  | expectedListSeparator => "expected `,` or `]`"
  | expectedObjectSeparator => "expected `,` or `\x7d`"
  | trailingComma => "trailing comma"
  | trailingCharacters => "trailing characters"
  | keyNotString => "key must be a string"
  | invalidNumber => "invalid number"
  | numberOutOfRange => "number out of range"
  | invalidEscape => "invalid escape"
  | loneSurrogate => "lone leading surrogate in hex escape"
  | unfinishedSurrogatePair => "unexpected end of hex escape"
  | controlCharacter => "control character (\\u0000-\\u001F) found while parsing a string"
  | invalidCodePoint => "invalid unicode code point"
  | nestedTooDeep => "recursion limit exceeded"

structure ReadError where
  failure : ReadFailure
  line : Nat
  column : Nat
deriving DecidableEq

def ReadError.message (e : ReadError) : String :=
  e.failure.text ++ " at line " ++ Text.decimal e.line ++ " column " ++ Text.decimal e.column

/-- The unread bytes, and how many lines and bytes of the current line have
been read. -/
structure Cursor where
  line : Nat
  column : Nat
  rest : List UInt8

/-- Read over one byte, if there is one. -/
def Cursor.advance (c : Cursor) : Cursor :=
  match c.rest with
  | [] => c
  | byte :: rest =>
    if byte = 0x0A then ⟨c.line + 1, 0, rest⟩ else ⟨c.line, c.column + 1, rest⟩

def Cursor.skip (c : Cursor) : Nat → Cursor
  | 0 => c
  | n + 1 => c.advance.skip n

def Cursor.peek? (c : Cursor) : Option UInt8 := c.rest.head?

/-- The failure at the last byte that was read. -/
def Cursor.fail {α : Type} (c : Cursor) (failure : ReadFailure) : Except ReadError α :=
  .error ⟨failure, c.line, c.column⟩

/-- The failure at the byte that comes next. -/
def Cursor.failAhead {α : Type} (c : Cursor) (failure : ReadFailure) : Except ReadError α :=
  c.advance.fail failure

def isBlankByte (byte : UInt8) : Bool :=
  byte == 0x20 || byte == 0x0A || byte == 0x09 || byte == 0x0D

def Cursor.skipBlanksIn (line column : Nat) : List UInt8 → Cursor
  | [] => ⟨line, column, []⟩
  | byte :: rest =>
    if byte = 0x0A then skipBlanksIn (line + 1) 0 rest
    else if isBlankByte byte then skipBlanksIn line (column + 1) rest
    else ⟨line, column, byte :: rest⟩

def Cursor.skipBlanks (c : Cursor) : Cursor := skipBlanksIn c.line c.column c.rest

def digitOf? (byte : UInt8) : Option Nat :=
  if 0x30 ≤ byte.toNat ∧ byte.toNat ≤ 0x39 then some (byte.toNat - 0x30) else none

/-- Read over all digits that come next. -/
def Cursor.skipDigits (c : Cursor) : Cursor :=
  c.skip (c.rest.takeWhile fun byte => (digitOf? byte).isSome).length

/-- The rest of a literal word. -/
def readWord (value : Json) (c : Cursor) : List UInt8 → Except ReadError (Json × Cursor)
  | [] => .ok (value, c)
  | expected :: word =>
    match c.peek? with
    | none => c.fail .endInValue
    | some byte =>
      if byte = expected then readWord value c.advance word
      else c.advance.fail .expectedWord

section Numbers

/-- Significands have 64 bits. -/
def significandLimit : Nat := UInt64.size

/-- Exponents have 31 bits beside their sign. -/
def exponentLimit : Nat := 2147483648

/-- The greatest and the least exponent that is told apart. -/
def clampExponent (exponent : Int) : Int :=
  max (-(exponentLimit : Int)) (min (exponentLimit - 1 : Int) exponent)

def finishFraction (negative : Bool) (significand : Nat) (exponent : Int) (c : Cursor) :
    Except ReadError (Json × Cursor) :=
  match Number.fraction? negative (UInt64.ofNat significand) exponent with
  | some n => .ok (.number n, c)
  | none => c.fail .numberOutOfRange

/-- The digits of an exponent that begins with `value`. Beyond 32 bits a
positive exponent is out of range and a negative one means zero. -/
def readExponentDigits (negative negativeExponent : Bool) (significand : Nat) (start : Int)
    (value : Nat) (c : Cursor) : List UInt8 → Except ReadError (Json × Cursor)
  | [] => finish value c
  | byte :: rest =>
    match digitOf? byte with
    | none => finish value c
    | some d =>
      if 10 * value + d < exponentLimit then
        readExponentDigits negative negativeExponent significand start (10 * value + d)
          c.advance rest
      else if significand ≠ 0 ∧ !negativeExponent then c.advance.fail .numberOutOfRange
      else
        let zero : Float := if negative then -0.0 else 0.0
        .ok (.number (.fraction zero.toBits), c.skipDigits)
where
  finish (value : Nat) (c : Cursor) : Except ReadError (Json × Cursor) :=
    let exponent := if negativeExponent then start - value else start + value
    finishFraction negative significand (clampExponent exponent) c

/-- An exponent, from its letter on. -/
def readExponent (negative : Bool) (significand : Nat) (start : Int) (c : Cursor) :
    Except ReadError (Json × Cursor) :=
  let c := c.advance
  let (negativeExponent, c) := match c.peek? with
    | some 0x2B => (false, c.advance)
    | some 0x2D => (true, c.advance)
    | _ => (false, c)
  match c.peek? with
  | none => c.fail .endInValue
  | some byte =>
    match digitOf? byte with
    | none => c.advance.fail .invalidNumber
    | some d =>
      readExponentDigits negative negativeExponent significand start d c.advance c.advance.rest

def finishScaled (negative : Bool) (significand : Nat) (exponent : Int) (c : Cursor) :
    Except ReadError (Json × Cursor) :=
  match c.peek? with
  | some 0x65 | some 0x45 => readExponent negative significand exponent c
  | _ => finishFraction negative significand exponent c

/-- The digits behind the point. The first one that does not fit into the
significand and all after it are ignored. -/
def readPlaces (negative : Bool) (significand : Nat) (exponent : Int) (places : Nat)
    (c : Cursor) : List UInt8 → Except ReadError (Json × Cursor)
  | [] =>
    if places = 0 then c.failAhead .endInValue
    else finishScaled negative significand exponent c
  | byte :: rest =>
    match digitOf? byte with
    | some d =>
      if 10 * significand + d < significandLimit then
        readPlaces negative (10 * significand + d) (exponent - 1) (places + 1) c.advance rest
      else finishScaled negative significand exponent c.skipDigits
    | none =>
      if places = 0 then c.failAhead .invalidNumber
      else finishScaled negative significand exponent c

/-- What follows digits whose last ones did not fit into the significand. -/
def readLongInteger (negative : Bool) (significand : Nat) (c : Cursor) :
    Except ReadError (Json × Cursor) :=
  let after := c.skipDigits
  let dropped : Nat := c.rest.length - after.rest.length
  match after.peek? with
  | some 0x2E => readPlaces negative significand dropped 0 after.advance after.advance.rest
  | some 0x65 | some 0x45 => readExponent negative significand dropped after
  | _ => finishFraction negative significand dropped after

/-- What follows the integer digits of a number. -/
def readAfterInteger (negative : Bool) (significand : Nat) (c : Cursor) :
    Except ReadError (Json × Cursor) :=
  match c.peek? with
  | some 0x2E => readPlaces negative significand 0 0 c.advance c.advance.rest
  | some 0x65 | some 0x45 => readExponent negative significand 0 c
  | _ => .ok (.number (Number.ofDigits negative (UInt64.ofNat significand)), c)

def readIntegerDigits (negative : Bool) (significand : Nat) (c : Cursor) :
    List UInt8 → Except ReadError (Json × Cursor)
  | [] => readAfterInteger negative significand c
  | byte :: rest =>
    match digitOf? byte with
    | none => readAfterInteger negative significand c
    | some d =>
      if 10 * significand + d < significandLimit then
        readIntegerDigits negative (10 * significand + d) c.advance rest
      else readLongInteger negative significand c

/-- A number behind its sign. A zero in front stands alone. -/
def readNumber (negative : Bool) (c : Cursor) : Except ReadError (Json × Cursor) :=
  match c.peek? with
  | none => c.fail .endInValue
  | some byte =>
    match digitOf? byte with
    | none => c.advance.fail .invalidNumber
    | some 0 =>
      match c.advance.peek?.bind digitOf? with
      | some _ => c.advance.failAhead .invalidNumber
      | none => readAfterInteger negative 0 c.advance
    | some d => readIntegerDigits negative d c.advance c.advance.rest

end Numbers

section Strings

def hexValue? (byte : UInt8) : Option Nat :=
  let n := byte.toNat
  if 0x30 ≤ n ∧ n ≤ 0x39 then some (n - 0x30)
  else if 0x61 ≤ n ∧ n ≤ 0x66 then some (n - 0x61 + 10)
  else if 0x41 ≤ n ∧ n ≤ 0x46 then some (n - 0x41 + 10)
  else none

/-- Four hexadecimal digits. -/
def readHex (c : Cursor) : Except ReadError (Nat × Cursor) :=
  match c.rest with
  | w :: x :: y :: z :: _ =>
    match hexValue? w, hexValue? x, hexValue? y, hexValue? z with
    | some w, some x, some y, some z => .ok (((w * 16 + x) * 16 + y) * 16 + z, c.skip 4)
    | _, _, _, _ => (c.skip 4).fail .invalidEscape
  | short => (c.skip short.length).fail .endInString

/-- One of the two characters that must join the halves of a pair. -/
def readPairMark (mark : UInt8) (c : Cursor) : Except ReadError Cursor :=
  match c.peek? with
  | none => c.fail .endInString
  | some byte => if byte = mark then .ok c.advance else c.advance.fail .unfinishedSurrogatePair

/-- The code point of an escape with hexadecimal digits. A code point beyond
16 bits is written as a pair of such escapes. -/
def readCodePoint (c : Cursor) : Except ReadError (Nat × Cursor) := do
  let (first, c) ← readHex c
  if 0xDC00 ≤ first ∧ first ≤ 0xDFFF then c.fail .loneSurrogate
  else if first < 0xD800 ∨ 0xDBFF < first then return (first, c)
  else
    let c ← readPairMark 0x5C c
    let c ← readPairMark 0x75 c
    let (second, c) ← readHex c
    if second < 0xDC00 ∨ 0xDFFF < second then c.fail .loneSurrogate
    else return (0x10000 + (first - 0xD800) * 1024 + (second - 0xDC00), c)

/-- The character of an escape, behind its backslash. -/
def readEscape (c : Cursor) : Except ReadError (Nat × Cursor) :=
  match c.peek? with
  | none => c.fail .endInString
  | some 0x22 => .ok (0x22, c.advance)
  | some 0x5C => .ok (0x5C, c.advance)
  | some 0x2F => .ok (0x2F, c.advance)
  | some 0x62 => .ok (0x08, c.advance)
  | some 0x66 => .ok (0x0C, c.advance)
  | some 0x6E => .ok (0x0A, c.advance)
  | some 0x72 => .ok (0x0D, c.advance)
  | some 0x74 => .ok (0x09, c.advance)
  | some 0x75 => readCodePoint c.advance
  | some _ => c.advance.fail .invalidEscape

/-- The string with these bytes; its closing quote is the last byte read. If
they are no text, the failure stands as many columns before that quote as there
are bytes from the first bad one on. An escape counts for the bytes that it
stands for. -/
def finishString (bytes : List UInt8) (c : Cursor) : Except ReadError (String × Cursor) :=
  match Text.decodeUtf8 bytes with
  | .ok text => .ok (text, c)
  | .error position =>
    .error ⟨.invalidCodePoint, c.line, c.column - (bytes.length - position)⟩

/-- What follows the bytes of a string read so far, which stand in reverse.
The fuel bounds the number of characters. -/
def readString (fuel : Nat) (read : List UInt8) (c : Cursor) :
    Except ReadError (String × Cursor) :=
  match fuel, c.peek? with
  | 0, _ | _, none => c.fail .endInString
  | fuel + 1, some byte =>
    if byte = 0x22 then finishString read.reverse c.advance
    else if byte = 0x5C then
      match readEscape c.advance with
      | .error e => .error e
      | .ok (n, after) =>
        readString fuel ((Text.utf8 (Char.ofNat n).toString).reverse ++ read) after
    else if byte.toNat < 0x20 then c.failAhead .controlCharacter
    else readString fuel (byte :: read) c.advance

end Strings

mutual

/-- A value, behind blanks. `depth` is one more than the number of containers
that may still be opened. -/
def readValue (fuel depth : Nat) (c : Cursor) : Except ReadError (Json × Cursor) :=
  match fuel with
  | 0 => c.fail .endInValue
  | fuel + 1 =>
    let c := c.skipBlanks
    match c.peek? with
    | none => c.failAhead .endInValue
    | some 0x6E => readWord .null c.advance [0x75, 0x6C, 0x6C]
    | some 0x74 => readWord (.boolean true) c.advance [0x72, 0x75, 0x65]
    | some 0x66 => readWord (.boolean false) c.advance [0x61, 0x6C, 0x73, 0x65]
    | some 0x2D => readNumber true c.advance
    | some 0x22 =>
      (readString (c.rest.length + 1) [] c.advance).map fun (text, c) => (.string text, c)
    | some 0x5B =>
      if depth ≤ 1 then c.failAhead .nestedTooDeep
      else readElements fuel (depth - 1) [] c.advance
    | some 0x7B =>
      if depth ≤ 1 then c.failAhead .nestedTooDeep
      else readMembers fuel (depth - 1) none c.advance
    | some byte =>
      if (digitOf? byte).isSome then readNumber false c
      else c.failAhead .expectedValue

/-- What follows the elements read so far, which stand in reverse. -/
def readElements (fuel depth : Nat) (elements : List Json) (c : Cursor) :
    Except ReadError (Json × Cursor) :=
  match fuel with
  | 0 => c.fail .endInList
  | fuel + 1 =>
    let c := c.skipBlanks
    match c.peek?, elements with
    | none, _ => c.failAhead .endInList
    | some 0x5D, _ => .ok (.array elements.reverse, c.advance)
    | some _, [] => readElement fuel depth elements c
    | some 0x2C, _ =>
      let c := c.advance.skipBlanks
      match c.peek? with
      | some 0x5D => c.failAhead .trailingComma
      | some _ => readElement fuel depth elements c
      | none => c.failAhead .endInValue
    | some _, _ => c.failAhead .expectedListSeparator

def readElement (fuel depth : Nat) (elements : List Json) (c : Cursor) :
    Except ReadError (Json × Cursor) :=
  match fuel with
  | 0 => c.fail .endInValue
  | fuel + 1 =>
    match readValue fuel depth c with
    | .error e => .error e
    | .ok (value, c) => readElements fuel depth (value :: elements) c

/-- What follows the members read so far, if any has been read. -/
def readMembers (fuel depth : Nat) (members : Option (List (String × Json))) (c : Cursor) :
    Except ReadError (Json × Cursor) :=
  match fuel with
  | 0 => c.fail .endInObject
  | fuel + 1 =>
    let c := c.skipBlanks
    match c.peek?, members with
    | none, _ => c.failAhead .endInObject
    | some 0x7D, members => .ok (.object (members.getD []), c.advance)
    | some 0x22, none => readMember fuel depth [] c
    | some _, none => c.failAhead .keyNotString
    | some 0x2C, some members =>
      let c := c.advance.skipBlanks
      match c.peek? with
      | some 0x22 => readMember fuel depth members c
      | some 0x7D => c.failAhead .trailingComma
      | some _ => c.failAhead .keyNotString
      | none => c.failAhead .endInValue
    | some _, some _ => c.failAhead .expectedObjectSeparator

/-- A member, from the quote of its name on. -/
def readMember (fuel depth : Nat) (members : List (String × Json)) (c : Cursor) :
    Except ReadError (Json × Cursor) :=
  match fuel with
  | 0 => c.fail .endInObject
  | fuel + 1 =>
    match readString (c.rest.length + 1) [] c.advance with
    | .error e => .error e
    | .ok (name, c) =>
      let c := c.skipBlanks
      match c.peek? with
      | some 0x3A =>
        match readValue fuel depth c.advance with
        | .error e => .error e
        | .ok (value, c) => readMembers fuel depth (some (insertEntry name value members)) c
      | some _ => c.failAhead .expectedColon
      | none => c.failAhead .endInObject

end

/-- One more than the number of containers around the innermost value. -/
def depthLimit : Nat := 128

/-- Read a whole text that holds one value. Every step of the readers but one
in two reads over a byte, which is why the fuel suffices. -/
def read (bytes : List UInt8) : Except ReadError Json := do
  let (value, c) ← readValue (3 * bytes.length + 3) depthLimit ⟨1, 0, bytes⟩
  let c := c.skipBlanks
  match c.peek? with
  | none => return value
  | some _ => c.failAhead .trailingCharacters

end BusEndpoint.Json
