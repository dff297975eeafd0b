import PathTemplate.Regex.Expr
import PathTemplate.Regex.Reader
import PathTemplate.Text.Hex
/-!
# Escapes

What may follow a backslash: a code point in hexadecimal, a property, a class or an assertion of one
letter, a control character, or an ASCII character other than a letter or a digit, which then stands
for itself. There are no back-references, so a digit is refused.
-/

namespace PathTemplate.Regex

namespace PropertyQuery

/-- Cuts a text at the first occurrence of a mark. -/
def cutAt? (mark : List Char) : List Char → Option (List Char × List Char)
  | [] => none
  | c :: cs =>
    if mark.isPrefixOf (c :: cs) then some ([], (c :: cs).drop mark.length)
    else (cutAt? mark cs).map fun (before, after) => (c :: before, after)

/-- The query that the text between braces makes. -/
def ofText (text : List Char) : PropertyQuery :=
  match cutAt? ['!', '='] text with
  | some (name, value) => differing (String.ofList name) (String.ofList value)
  | none =>
    match cutAt? [':'] text <|> cutAt? ['='] text with
    | some (name, value) => valued (String.ofList name) (String.ofList value)
    | none => named (String.ofList text)

end PropertyQuery

namespace Reader

/-- Whether a backslash before the character makes it stand for itself. The angle brackets are kept
for assertions. -/
def isEscapable (c : Char) : Bool :=
  c.toNat < 0x80 && !c.isAlphanum && c ≠ '<' && c ≠ '>'

/-- A number of hexadecimal digits, given the value of the digits before them. -/
def hexDigits (verbose : Bool) : Nat → Nat → Reader Nat
  | 0, sum, cs => some (sum, cs)
  | n + 1, sum, cs =>
    match skip verbose cs with
    | [] => none
    | c :: cs => (Text.Hex.digit? c).bind fun digit => hexDigits verbose n (sum * 16 + digit) cs

/-- The character given by a fixed number of hexadecimal digits, or by any number of them in
braces. -/
def codePoint (verbose byte : Bool) (digits : Nat) : Reader Expr := fun cs =>
  match skip verbose cs with
  | '\x7b' :: cs => do
    let (inner, rest) ← braced verbose cs
    if inner.isEmpty then none
    else return (.char (← Text.Hex.scalar? (← Text.Hex.value? inner)) false, rest)
  | cs => do
    let (code, rest) ← hexDigits verbose digits 0 cs
    return (.char (← Text.Hex.scalar? code) byte, rest)

/-- A property after `\p`, or after `\P` if it is negated. -/
def property (verbose negated : Bool) : Reader Expr := fun cs =>
  match skip verbose cs with
  | [] => none
  | '\x7b' :: cs =>
    (braced verbose cs).map fun (text, rest) => (.property (.ofText text) negated, rest)
  | c :: rest => if c = '\\' then none else some (.property (.letter c) negated, rest)

/-- Whether a character can be part of the name of a word boundary. -/
def isBoundaryLetter (c : Char) : Bool :=
  c.isAlpha || c == '-'

/-- The word boundary with the given name. -/
def boundaryNamed? : String → Option Assertion
  | "start" => some .wordStart
  | "end" => some .wordEnd
  | "start-half" => some .wordStartHalf
  | "end-half" => some .wordEndHalf
  | _ => none

/-- What follows `\b`: a name in braces, or nothing. Braces that hold no name are left for a
repetition. -/
def boundary (verbose : Bool) : Reader Expr := fun cs =>
  match cs with
  | '\x7b' :: inner =>
    match skip verbose inner with
    | [] => none
    | c :: _ =>
      if isBoundaryLetter c then do
        let (name, rest) ← braced verbose inner
        return (.assert (← boundaryNamed? (String.ofList name)), rest)
      else some (.assert .boundary, cs)
  | _ => some (.assert .boundary, cs)

/-- What follows a backslash. -/
def escape (verbose : Bool) : Reader Expr := fun cs =>
  match cs with
  | [] => none
  | c :: cs =>
    match c with
    | 'x' => codePoint verbose true 2 cs
    | 'u' => codePoint verbose false 4 cs
    | 'U' => codePoint verbose false 8 cs
    | 'p' => property verbose false cs
    | 'P' => property verbose true cs
    | 'd' => some (.short .digit false, cs)
    | 'D' => some (.short .digit true, cs)
    | 's' => some (.short .space false, cs)
    | 'S' => some (.short .space true, cs)
    | 'w' => some (.short .word false, cs)
    | 'W' => some (.short .word true, cs)
    | 'a' => some (.char '\x07' false, cs)
    | 'f' => some (.char '\x0c' false, cs)
    | 't' => some (.char '\t' false, cs)
    | 'n' => some (.char '\n' false, cs)
    | 'r' => some (.char '\r' false, cs)
    | 'v' => some (.char '\x0b' false, cs)
    | 'A' => some (.assert .textStart, cs)
    | 'z' => some (.assert .textEnd, cs)
    | 'b' => boundary verbose cs
    | 'B' => some (.assert .notBoundary, cs)
    | '<' => some (.assert .wordStart, cs)
    | '>' => some (.assert .wordEnd, cs)
    | c => if isEscapable c then some (.char c false, cs) else none

end Reader

end PathTemplate.Regex
