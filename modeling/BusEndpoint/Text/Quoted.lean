import BusEndpoint.Text.Hidden
/-!
Text in quotation marks for people who read diagnostics. Line breaks, tabs
and NUL have short escapes, a hidden character is shown by its number, and
everything else stands for itself.
-/

namespace BusEndpoint.Text

def quotedChar (c : Char) : List Char :=
  if c = '"' then ['\\', '"']
  else if c = '\\' then ['\\', '\\']
  else if c = '\n' then ['\\', 'n']
  else if c = '\r' then ['\\', 'r']
  else if c = '\t' then ['\\', 't']
  else if c.toNat = 0 then ['\\', '0']
  else if isHidden c then
    ['\\', 'u', '\x7b'] ++ Nat.toDigits 16 c.toNat ++ ['\x7d']
  else [c]

def quoted (text : String) : String :=
  String.ofList ('"' :: text.toList.flatMap quotedChar ++ ['"'])

/-- A record with its fields as one line, such as `Point [ x: 1, y: 2 ]` with
braces. -/
def recordLine (name : String) (fields : List (String × String)) : String :=
  let shown := fields.map fun field => field.1 ++ ": " ++ field.2
  name ++ " \x7b " ++ ", ".intercalate shown ++ " \x7d"

def truth (b : Bool) : String := if b then "true" else "false"

end BusEndpoint.Text
