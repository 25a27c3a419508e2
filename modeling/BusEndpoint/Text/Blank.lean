/-!
Blank text. A name that consists of white space only counts as absent
wherever endpoint names, addresses and correlation ids are chosen.
-/

namespace BusEndpoint.Text

/-- The code points with the Unicode property White_Space. -/
def isWhiteSpace (c : Char) : Bool :=
  let n := c.toNat
  (0x09 ≤ n && n ≤ 0x0D) || n == 0x20 || n == 0x85 || n == 0xA0 || n == 0x1680 ||
    (0x2000 ≤ n && n ≤ 0x200A) || n == 0x2028 || n == 0x2029 || n == 0x202F ||
    n == 0x205F || n == 0x3000

/-- The text is empty or holds white space only. -/
def isBlank (text : String) : Bool := text.toList.all isWhiteSpace

/-- The text, unless it is blank. It is not trimmed. -/
def nonBlank (text : String) : Option String := if isBlank text then none else some text

theorem nonBlank_eq_some {text kept : String} :
    nonBlank text = some kept ↔ isBlank text = false ∧ kept = text := by
  unfold nonBlank
  split
  · simp_all
  · simp_all [@eq_comm _ text kept]

end BusEndpoint.Text
