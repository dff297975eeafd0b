import PathTemplate.Settings.Text
/-!
# Settings documents

A document gives values to keys, one on a line, and may gather keys under a header in brackets. The
values that settings have a use for are texts, truth values, and groups or lists without content;
anything else is refused, since no setting could take it.

Keys are read into paths, so that `a.b = "x"`, `a = {b = "x"}` and `b = "x"` under the header `[a]`
all give a value to the path `a`, `b`.
-/

namespace PathTemplate.Settings

/-- A value without parts. -/
inductive Leaf where
  | text (value : String)
  | truth (value : Bool)
  /-- A group or a list without content. -/
  | nothing
  deriving DecidableEq, Repr, Inhabited

/-- A line that gives a value to a key. -/
structure Entry where
  /-- The header that the line stands under; empty before the first header. -/
  header : List String
  /-- The key, part by part. -/
  key : List String
  /-- The value. -/
  value : Leaf
  deriving DecidableEq, Repr, Inhabited

/-- What a document says. -/
structure Document where
  /-- The headers, in order. -/
  headers : List (List String) := []
  /-- The entries, in order. -/
  entries : List Entry := []
  deriving DecidableEq, Repr, Inhabited

/-! ## Reading -/

/-- Characters of a key without quotes. -/
def isKeyChar (c : Char) : Bool :=
  c.isAlphanum || c == '_' || c == '-'

/-- One part of a key: a bare word, or a text on one line. -/
def keyPart? : List Char → Option (String × List Char)
  | '"' :: rest => basic [] (rest.length + 1) rest
  | '\'' :: rest => raw rest
  | text =>
    let word := text.takeWhile isKeyChar
    if word.isEmpty then none else some (String.ofList word, text.drop word.length)

/-- A key: parts with dots between them, and blanks around each. -/
def key? : Nat → List Char → Option (List String × List Char)
  | 0, _ => none
  | fuel + 1, text => do
    let (part, rest) ← keyPart? (text.dropWhile isBlank)
    match rest.dropWhile isBlank with
    | '.' :: rest => do
      let (parts, rest) ← key? fuel rest
      some (part :: parts, rest)
    | rest => some ([part], rest)

/-- What follows a comment, if one stands here. The line break after it is kept. -/
def skipComment : List Char → List Char
  | '#' :: rest => rest.dropWhile isPlain
  | text => text

/-- What follows the blanks, line breaks and comments that stand here. -/
def skipLines : Nat → List Char → List Char
  | 0, text => text
  | fuel + 1, text =>
    match skipSpace text with
    | '#' :: rest => skipLines fuel (rest.dropWhile isPlain)
    | rest => rest

/-- What follows a list without content. The text starts after its bracket. -/
def emptyList? (text : List Char) : Option (List Char) :=
  match skipLines text.length text with
  | ']' :: rest => some rest
  | _ => none

/-- What follows a group without content. The text starts after its brace. -/
def emptyGroup? (text : List Char) : Option (List Char) :=
  match skipLines text.length text with
  | '\x7d' :: rest => some rest
  | _ => none

/-- What follows a list or group without content, if one stands here. -/
def nothing? : List Char → Option (List Char)
  | '[' :: rest => emptyList? rest
  | '\x7b' :: rest => emptyGroup? rest
  | _ => none

/-- A group with one member, which is without content. The text starts after the brace. A comma may
follow the member, and line breaks and comments may stand anywhere but within the key. -/
def singleton? (text : List Char) : Option (List String × List Char) := do
  let (key, rest) ← key? (text.length + 1) (skipLines text.length text)
  let '=' :: rest := skipLines rest.length rest | none
  let rest ← nothing? (skipLines rest.length rest)
  match skipLines rest.length rest with
  | ',' :: rest => (emptyGroup? rest).map (key, ·)
  | rest => (emptyGroup? rest).map (key, ·)

/-- A value, together with the path inside it to its only leaf. -/
def value? (text : List Char) : Option (List String × Leaf × List Char) :=
  match text with
  | 't' :: 'r' :: 'u' :: 'e' :: rest => some ([], .truth true, rest)
  | 'f' :: 'a' :: 'l' :: 's' :: 'e' :: rest => some ([], .truth false, rest)
  | '\x7b' :: rest =>
    match emptyGroup? rest with
    | some rest => some ([], .nothing, rest)
    | none => (singleton? rest).map fun (path, rest) => (path, .nothing, rest)
  | '[' :: rest => (emptyList? rest).map fun rest => ([], .nothing, rest)
  | text => (text? text).map fun (value, rest) => ([], .text value, rest)

/-- What follows the end of a line: blanks, a comment, and a line break or the end. -/
def endLine? (text : List Char) : Option (List Char) :=
  match skipComment (text.dropWhile isBlank) with
  | [] => some []
  | rest => lineBreak? rest

/-- The path of a header. The text starts after its bracket. -/
def header? (text : List Char) : Option (List String × List Char) := do
  let (path, rest) ← key? (text.length + 1) text
  let ']' :: rest := rest | none
  some (path, rest)

/-- Reads a document line by line, under the latest header of those read so far. -/
def lines (doc : Document) (header : List String) : Nat → List Char → Option Document
  | 0, _ => none
  | fuel + 1, text =>
    match skipLines text.length text with
    | [] => some doc
    | '[' :: rest => do
      let (path, rest) ← header? rest
      let rest ← endLine? rest
      lines { doc with headers := doc.headers ++ [path] } path fuel rest
    | text => do
      let (key, rest) ← key? (text.length + 1) text
      let '=' :: rest := rest | none
      let (inner, value, rest) ← value? (rest.dropWhile isBlank)
      let rest ← endLine? rest
      lines { doc with entries := doc.entries ++ [⟨header, key ++ inner, value⟩] } header fuel rest

/-- Reads a document. A byte order mark may stand before it. -/
def Document.ofText? (text : String) : Option Document :=
  let chars := match text.toList with
    | '\ufeff' :: rest => rest
    | chars => chars
  lines {} [] (chars.length + 1) chars

/-! ## Paths -/

namespace Document

/-- A header that has neither entries nor further headers below it gives an empty group. -/
def isBare (d : Document) (header : List String) : Bool :=
  d.entries.all (·.header ≠ header) &&
    d.headers.all fun other => other = header || !header.isPrefixOf other

/-- All paths with their values. -/
def leaves (d : Document) : List (List String × Leaf) :=
  d.entries.map (fun e => (e.header ++ e.key, e.value)) ++
    (d.headers.filter d.isBare).map (·, .nothing)

/-- No header comes twice, and none reaches into a group that a line before all headers wrote. -/
def headersAgree (d : Document) : Bool :=
  decide d.headers.Nodup &&
    d.headers.all fun header => d.entries.all fun e =>
      !e.header.isEmpty || e.key.head? ≠ header.head?

end Document

end PathTemplate.Settings
