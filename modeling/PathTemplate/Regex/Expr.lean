/-!
# Regular expressions as they are written

The parts of a regular expression in the order and nesting of its source. What a part means can
depend on the flags that are in force where it stands; flags are kept here as they are written.
-/

namespace PathTemplate.Regex

/-- What an inline flag switches. -/
inductive Flag where
  /-- Case does not count. -/
  | caseless
  /-- The anchors also hold at the ends of lines. -/
  | multiLine
  /-- The dot also matches line breaks. -/
  | dotAll
  /-- Repetitions are lazy unless marked, and greedy when marked. -/
  | swapGreed
  /-- Classes and case are those of Unicode. -/
  | unicode
  /-- A carriage return is part of a line break. -/
  | crlf
  /-- Blanks and comments are not part of the expression. -/
  | verbose
  deriving DecidableEq, Repr, Inhabited

/-- The flag with the given letter. -/
def Flag.ofChar? : Char → Option Flag
  | 'i' => some caseless
  | 'm' => some multiLine
  | 's' => some dotAll
  | 'U' => some swapGreed
  | 'u' => some unicode
  | 'R' => some crlf
  | 'x' => some verbose
  | _ => none

/-- Flags to switch on and off. -/
structure FlagChange where
  on : List Flag := []
  off : List Flag := []
  deriving DecidableEq, Repr, Inhabited

/-- What a flag is after a change. -/
def FlagChange.apply (change : FlagChange) (flag : Flag) (current : Bool) : Bool :=
  if flag ∈ change.on then true else if flag ∈ change.off then false else current

/-- Conditions on a place between two characters. -/
inductive Assertion where
  /-- `^` -/
  | lineStart
  /-- `$` -/
  | lineEnd
  /-- `\A` -/
  | textStart
  /-- `\z` -/
  | textEnd
  /-- `\b` -/
  | boundary
  /-- `\B` -/
  | notBoundary
  /-- `\<` and `\b{start}` -/
  | wordStart
  /-- `\>` and `\b{end}` -/
  | wordEnd
  /-- `\b{start-half}` -/
  | wordStartHalf
  /-- `\b{end-half}` -/
  | wordEndHalf
  deriving DecidableEq, Repr, Inhabited

/-- The classes that are written with one letter. -/
inductive ShortClass where
  /-- `\d` -/
  | digit
  /-- `\s` -/
  | space
  /-- `\w` -/
  | word
  deriving DecidableEq, Repr, Inhabited

/-- The classes that are written as `[:name:]` within brackets. -/
inductive AsciiClass where
  | alnum | alpha | ascii | blank | cntrl | digit | graph | lower | print | punct | space | upper
  | word | xdigit
  deriving DecidableEq, Repr, Inhabited

namespace AsciiClass

/-- The class with the given name. -/
def named? : String → Option AsciiClass
  | "alnum" => some alnum
  | "alpha" => some alpha
  | "ascii" => some ascii
  | "blank" => some blank
  | "cntrl" => some cntrl
  | "digit" => some digit
  | "graph" => some graph
  | "lower" => some lower
  | "print" => some print
  | "punct" => some punct
  | "space" => some space
  | "upper" => some upper
  | "word" => some word
  | "xdigit" => some xdigit
  | _ => none

/-- The ranges of characters in the class. -/
def ranges : AsciiClass → List (Char × Char)
  | alnum => [('0', '9'), ('A', 'Z'), ('a', 'z')]
  | alpha => [('A', 'Z'), ('a', 'z')]
  | ascii => [('\x00', '\x7f')]
  | blank => [('\t', '\t'), (' ', ' ')]
  | cntrl => [('\x00', '\x1f'), ('\x7f', '\x7f')]
  | digit => [('0', '9')]
  | graph => [('!', '~')]
  | lower => [('a', 'z')]
  | print => [(' ', '~')]
  | punct => [('!', '/'), (':', '@'), ('[', '`'), ('\x7b', '~')]
  | space => [('\t', '\r'), (' ', ' ')]
  | upper => [('A', 'Z')]
  | word => [('0', '9'), ('A', 'Z'), ('_', '_'), ('a', 'z')]
  | xdigit => [('0', '9'), ('A', 'F'), ('a', 'f')]

end AsciiClass

/-- How a Unicode property is asked for. -/
inductive PropertyQuery where
  /-- `\pL` -/
  | letter (c : Char)
  /-- `\p{name}` -/
  | named (name : String)
  /-- `\p{name=value}` -/
  | valued (name value : String)
  /-- `\p{name!=value}` -/
  | differing (name value : String)
  deriving DecidableEq, Repr, Inhabited

/-- The operators between sets within brackets. -/
inductive SetOp where
  /-- `&&` -/
  | inter
  /-- `--` -/
  | diff
  /-- `~~` -/
  | symmDiff
  deriving DecidableEq, Repr, Inhabited

/-- What stands within brackets. -/
inductive ClassExpr where
  /-- Nothing, which only an operator can have on one of its sides. -/
  | none
  | char (c : Char)
  | range (lo hi : Char)
  | ascii (cls : AsciiClass) (negated : Bool)
  | short (cls : ShortClass) (negated : Bool)
  | property (query : PropertyQuery) (negated : Bool)
  | bracket (negated : Bool) (inner : ClassExpr)
  /-- Items side by side. The first one is `a`, and `b` holds those after it. -/
  | union (a b : ClassExpr)
  | op (op : SetOp) (a b : ClassExpr)
  deriving DecidableEq, Repr, Inhabited

/-- A regular expression as it is written. -/
inductive Expr where
  | empty
  /-- Flags that are in force from here to the end of the enclosing group. -/
  | flags (change : FlagChange)
  /-- A single character. `byte` says that it was written by the value of a byte. -/
  | char (c : Char) (byte : Bool)
  | dot
  | assert (a : Assertion)
  | short (cls : ShortClass) (negated : Bool)
  | property (query : PropertyQuery) (negated : Bool)
  | bracket (negated : Bool) (inner : ClassExpr)
  /-- At least `min` times, and at most `max` times if there is a maximum. -/
  | rep (min : Nat) (max : Option Nat) (greedy : Bool) (e : Expr)
  | capture (index : Nat) (name : Option String) (e : Expr)
  | group (change : FlagChange) (e : Expr)
  /-- Parts in a row. The first one is `a`, and `b` holds those after it. -/
  | cat (a b : Expr)
  /-- Alternatives. The first one is `a`, and `b` holds those after it. -/
  | alt (a b : Expr)
  deriving DecidableEq, Repr, Inhabited

/-! ## Nesting -/

/-- How many brackets, operators and lists of items stand around the innermost item. -/
def ClassExpr.depth : ClassExpr → Nat
  | bracket _ inner => inner.depth + 1
  | union a b =>
    match b with
    | union .. => max (a.depth + 1) b.depth
    | _ => max a.depth b.depth + 1
  | op _ a b => max a.depth b.depth + 1
  | _ => 0

namespace Expr

/-- How many groups, repetitions, brackets, rows and lists of alternatives stand around the
innermost part. -/
def depth : Expr → Nat
  | bracket _ inner => inner.depth + 1
  | rep _ _ _ e => e.depth + 1
  | capture _ _ e => e.depth + 1
  | group _ e => e.depth + 1
  | cat a b =>
    match b with
    | cat .. => max (a.depth + 1) b.depth
    | _ => max a.depth b.depth + 1
  | alt a b =>
    match b with
    | alt .. => max (a.depth + 1) b.depth
    | _ => max a.depth b.depth + 1
  | _ => 0

/-- Parts in a row, given latest first. -/
def row : List Expr → Expr
  | [] => empty
  | last :: before => before.foldl (fun after e => cat e after) last

/-- Alternatives, given latest first. -/
def choice : List Expr → Expr
  | [] => empty
  | last :: before => before.foldl (fun after e => alt e after) last

end Expr

end PathTemplate.Regex
