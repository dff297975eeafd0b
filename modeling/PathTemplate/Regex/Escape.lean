/-!
# Escaping

The characters with a meaning of their own in a regular expression, and the text that stands for
another text literally.
-/

namespace PathTemplate.Regex

/-- The characters that have a meaning of their own somewhere in a regular expression. -/
def metaChars : List Char :=
  ['\\', '.', '+', '*', '?', '(', ')', '|', '[', ']', '\x7b', '\x7d', '^', '$', '#', '&', '-', '~']

/-- The spelling of a character that stands for itself. -/
def escapeChar (c : Char) : List Char :=
  if c ∈ metaChars then ['\\', c] else [c]

/-- The regular expression that matches exactly the given text. -/
def escape (text : String) : String :=
  String.ofList (text.toList.flatMap escapeChar)

theorem toList_escape (text : String) : (escape text).toList = text.toList.flatMap escapeChar := by
  simp [escape]

/-- Escaping goes character by character. -/
theorem escape_append (s t : String) : escape (s ++ t) = escape s ++ escape t := by
  simp [escape]

end PathTemplate.Regex
