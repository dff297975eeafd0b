import PathTemplate.Unicode.Category
import PathTemplate.Unicode.Recent
import PathTemplate.Unicode.Trait
/-!
# Quoted text

Text is shown between quotes, so that its ends and its invisible characters can be seen. The
quote and the backslash get a backslash, four control characters have a letter, and whatever would
not print as a glyph of its own is written by its code point.
-/

namespace PathTemplate.Text

/-- The categories whose characters have no glyph: controls, formats, separators, and code points
without a character. -/
def blankCategories : List String :=
  ["Cc", "Cf", "Cs", "Co", "Cn", "Zl", "Zp", "Zs"]

/-- Whether a character extends the glyph of the one before it. -/
def extendsGlyph (c : Char) : Bool :=
  Unicode.Trait.graphemeExtend.contains c || Unicode.Recent.graphemeExtend.contains c

/-- Whether a character has a glyph that stands by itself. The space counts as one. -/
def printable (c : Char) : Bool :=
  c == ' ' || (!extendsGlyph c &&
    (Unicode.Recent.added.contains c || !blankCategories.contains (Unicode.Category.of c)))

/-- A character written by its code point, in lower-case hexadecimal without leading zeros. -/
def codePoint (c : Char) : List Char :=
  ['\\', 'u', '\x7b'] ++ Nat.toDigits 16 c.toNat ++ ['\x7d']

/-- One character of a text that stands between the given quotes. -/
def quoteChar (quote c : Char) : List Char :=
  if c = '\x00' then ['\\', '0']
  else if c = '\t' then ['\\', 't']
  else if c = '\r' then ['\\', 'r']
  else if c = '\n' then ['\\', 'n']
  else if c = '\\' || c = quote then ['\\', c]
  else if printable c then [c]
  else codePoint c

/-- A text between double quotes. -/
def quoted (text : String) : String :=
  String.ofList ('"' :: text.toList.flatMap (quoteChar '"') ++ ['"'])

/-- A single character between single quotes. -/
def quotedChar (c : Char) : String :=
  String.ofList ('\'' :: quoteChar '\'' c ++ ['\''])

end PathTemplate.Text
