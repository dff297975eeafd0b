/-!
# JSON strings

A text as a JSON string: the quote, the backslash and the control characters are escaped, the rest
stands as it is.
-/

namespace PathTemplate.Text.Json

/-- A control character written by its code, as four hexadecimal digits in lower case. -/
def controlCode (c : Char) : List Char :=
  let digits := Nat.toDigits 16 c.toNat
  ['\\', 'u'] ++ List.replicate (4 - digits.length) '0' ++ digits

/-- One character inside a JSON string. -/
def escapeChar (c : Char) : List Char :=
  if c = '"' || c = '\\' then ['\\', c]
  else if c = '\x08' then ['\\', 'b']
  else if c = '\x0c' then ['\\', 'f']
  else if c = '\n' then ['\\', 'n']
  else if c = '\r' then ['\\', 'r']
  else if c = '\t' then ['\\', 't']
  else if c.toNat < 0x20 then controlCode c
  else [c]

/-- A text as a JSON string. -/
def quoted (text : String) : String :=
  String.ofList ('"' :: text.toList.flatMap escapeChar ++ ['"'])

end PathTemplate.Text.Json
