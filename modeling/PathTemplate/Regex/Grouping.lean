import PathTemplate.Regex.Lexeme
/-!
# From lexemes to an expression

Lexemes are put together with a stack of the groups that are open. Alternatives and the parts of a
row are collected latest first. A repetition takes the part before it, and flags are no part that
could be repeated.
-/

namespace PathTemplate.Regex

/-- A group that can be open. -/
inductive GroupKind where
  | capture (index : Nat) (name : Option String)
  | group (change : FlagChange)
  deriving DecidableEq, Repr, Inhabited

/-- The group of an expression. -/
def GroupKind.wrap (e : Expr) : GroupKind → Expr
  | capture index name => .capture index name e
  | group change => .group change e

/-- What has been collected in a group since it was opened. -/
structure Parts where
  /-- The alternatives that are complete, latest first. -/
  choices : List Expr := []
  /-- The parts of the current alternative, latest first. -/
  row : List Expr := []
  deriving DecidableEq, Repr, Inhabited

namespace Parts

/-- Adds a part. -/
def push (p : Parts) (e : Expr) : Parts :=
  { p with row := e :: p.row }

/-- The expression of all that has been collected. -/
def toExpr (p : Parts) : Expr :=
  .choice (.row p.row :: p.choices)

end Parts

/-- How far the lexemes of an expression have been put together. -/
structure Assembly where
  /-- What has been collected in the innermost open group. -/
  parts : Parts := {}
  /-- The open groups, innermost first, with what was collected before each. -/
  outer : List (GroupKind × Parts) := []
  /-- How many groups that keep their text have been opened. -/
  captures : Nat := 0
  /-- The names of groups. -/
  names : List String := []
  deriving DecidableEq, Repr, Inhabited

namespace Assembly

/-- Opens a group. -/
def enter (a : Assembly) (kind : GroupKind) : Assembly :=
  { a with parts := {}, outer := (kind, a.parts) :: a.outer }

/-- Opens a group that keeps its text, unless there is one of the same name. -/
def enterCapture (a : Assembly) (name : Option String) : Option Assembly :=
  if a.names.any (some · = name) then none
  else some { a.enter (.capture (a.captures + 1) name) with
    captures := a.captures + 1
    names := name.toList ++ a.names }

/-- Closes the innermost group. -/
def leave (a : Assembly) : Option Assembly :=
  match a.outer with
  | [] => none
  | (kind, before) :: outer =>
    some { a with parts := before.push (kind.wrap a.parts.toExpr), outer := outer }

/-- Repeats the last part. -/
def repeatLast (a : Assembly) (min : Nat) (max : Option Nat) (greedy : Bool) : Option Assembly :=
  match a.parts.row with
  | [] => none
  | .flags _ :: _ => none
  | e :: before => some { a with parts := { a.parts with row := .rep min max greedy e :: before } }

/-- Adds a lexeme. -/
def add (a : Assembly) : Lexeme → Option Assembly
  | .atom e => some { a with parts := a.parts.push e }
  | .opening (.capture name) => a.enterCapture name
  | .opening (.group change) => some (a.enter (.group change))
  | .opening (.flags change) => some { a with parts := a.parts.push (.flags change) }
  | .close => a.leave
  | .bar => some { a with parts := ⟨.row a.parts.row :: a.parts.choices, []⟩ }
  | .rep min max greedy => a.repeatLast min max greedy

/-- The expression, if no group is open. -/
def finish? (a : Assembly) : Option Expr :=
  if a.outer.isEmpty then some a.parts.toExpr else none

end Assembly

namespace Expr

/-- The expression that lexemes make. -/
def ofLexemes? (lexemes : List Lexeme) : Option Expr :=
  (lexemes.foldlM Assembly.add {}).bind Assembly.finish?

/-- The expression with the given source. -/
def ofSource? (source : String) : Option Expr :=
  (Lexeme.ofSource source).bind ofLexemes?

end Expr

end PathTemplate.Regex
