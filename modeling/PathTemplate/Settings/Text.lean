import PathTemplate.Text.Hex
/-!
# Texts in a settings document

A text stands between double quotes, where a backslash starts an escape, or between single quotes,
where nothing does. Three quotes open a text that may run over several lines: a line break right
after them is not part of it, and up to two quotes may stand right before the three that close it.

The readers start right after the opening quotes and give the text together with what follows the
closing ones.
-/

namespace PathTemplate.Settings

/-- Characters that may stand in a text, or in a comment, as they are: no control but the tab. -/
def isPlain (c : Char) : Bool :=
  c == '\t' || (0x20 ≤ c.toNat && c.toNat ≠ 0x7f)

/-- Blanks within a line. -/
def isBlank (c : Char) : Bool :=
  c == ' ' || c == '\t'

/-- What follows a line break, if one stands here. -/
def lineBreak? : List Char → Option (List Char)
  | '\n' :: rest => some rest
  | '\r' :: '\n' :: rest => some rest
  | _ => none

/-- What follows the blanks and line breaks that stand here. -/
def skipSpace : List Char → List Char
  | '\r' :: '\n' :: rest => skipSpace rest
  | c :: rest => if isBlank c || c == '\n' then skipSpace rest else c :: rest
  | [] => []

/-- The first `n` characters as a hexadecimal code. -/
def coded (n : Nat) (text : List Char) : Option (Char × List Char) :=
  if n ≤ text.length then
    ((Text.Hex.value? (text.take n)).bind Text.Hex.scalar?).map (·, text.drop n)
  else none

/-- The character that an escape stands for. The text starts after the backslash. -/
def escape? : List Char → Option (Char × List Char)
  | 'b' :: rest => some ('\x08', rest)
  | 't' :: rest => some ('\t', rest)
  | 'n' :: rest => some ('\n', rest)
  | 'f' :: rest => some ('\x0c', rest)
  | 'r' :: rest => some ('\r', rest)
  | 'e' :: rest => some ('\x1b', rest)
  | '"' :: rest => some ('"', rest)
  | '\\' :: rest => some ('\\', rest)
  | 'x' :: rest => coded 2 rest
  | 'u' :: rest => coded 4 rest
  | 'U' :: rest => coded 8 rest
  | _ => none

/-- A text between double quotes on one line. `seen` is what was read of it, latest first. -/
def basic (seen : List Char) : Nat → List Char → Option (String × List Char)
  | 0, _ => none
  | _ + 1, [] => none
  | _ + 1, '"' :: rest => some (String.ofList seen.reverse, rest)
  | fuel + 1, '\\' :: rest => do
    let (c, rest) ← escape? rest
    basic (c :: seen) fuel rest
  | fuel + 1, c :: rest => if isPlain c then basic (c :: seen) fuel rest else none

/-- A text between single quotes on one line. -/
def raw (text : List Char) : Option (String × List Char) :=
  let inside := text.takeWhile fun c => isPlain c && c ≠ '\''
  match text.drop inside.length with
  | '\'' :: rest => some (String.ofList inside, rest)
  | _ => none

/-- The end of a text over several lines, right after three closing quotes: up to two quotes more
belong to the text. -/
def closeLong (quote : Char) (seen rest : List Char) : String × List Char :=
  let extra := min 2 (rest.takeWhile (· == quote)).length
  (String.ofList (seen.reverse ++ List.replicate extra quote), rest.drop extra)

/-- A text between three double quotes. A backslash at the end of a line takes the line break away,
and all blanks and line breaks after it. -/
def longBasic (seen : List Char) : Nat → List Char → Option (String × List Char)
  | 0, _ => none
  | _ + 1, [] => none
  | _ + 1, '"' :: '"' :: '"' :: rest => some (closeLong '"' seen rest)
  | fuel + 1, '\\' :: rest =>
    match lineBreak? (rest.dropWhile isBlank) with
    | some rest => longBasic seen fuel (skipSpace rest)
    | none => do
      let (c, rest) ← escape? rest
      longBasic (c :: seen) fuel rest
  | fuel + 1, '\r' :: '\n' :: rest => longBasic ('\n' :: '\r' :: seen) fuel rest
  | fuel + 1, c :: rest =>
    if isPlain c || c == '\n' then longBasic (c :: seen) fuel rest else none

/-- A text between three single quotes. -/
def longRaw (seen : List Char) : List Char → Option (String × List Char)
  | [] => none
  | '\'' :: '\'' :: '\'' :: rest => some (closeLong '\'' seen rest)
  | '\r' :: '\n' :: rest => longRaw ('\n' :: '\r' :: seen) rest
  | c :: rest => if isPlain c || c == '\n' then longRaw (c :: seen) rest else none

/-- A text in any of its four forms, if a quote stands here. -/
def text? : List Char → Option (String × List Char)
  | '"' :: '"' :: '"' :: rest =>
    let rest := (lineBreak? rest).getD rest
    longBasic [] (rest.length + 1) rest
  | '\'' :: '\'' :: '\'' :: rest => longRaw [] ((lineBreak? rest).getD rest)
  | '"' :: rest => basic [] (rest.length + 1) rest
  | '\'' :: rest => raw rest
  | _ => none

end PathTemplate.Settings
