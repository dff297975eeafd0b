import PathTemplate.Regex.Ranges
/-!
# Regular expressions as they match

Expressions without flags and short forms: what is left are sets of characters, conditions on a
place, rows, alternatives, groups that keep their text, and repetitions.
-/

namespace PathTemplate.Regex

/-- Conditions on a place in a text. -/
inductive Look where
  | textStart
  | textEnd
  /-- The start of a line. -/
  | lineStart (crlf : Bool)
  /-- The end of a line. -/
  | lineEnd (crlf : Bool)
  /-- The start or the end of a word. -/
  | boundary (unicode : Bool)
  | notBoundary (unicode : Bool)
  | wordStart (unicode : Bool)
  | wordEnd (unicode : Bool)
  /-- No word goes on from before. -/
  | wordStartHalf (unicode : Bool)
  /-- No word goes on from here. -/
  | wordEndHalf (unicode : Bool)
  deriving DecidableEq, Repr, Inhabited

namespace Look

/-- Whether a character is there and belongs to a word. -/
def inWord (unicode : Bool) (c : Option Char) : Bool :=
  c.any (if unicode then CharSet.word else CharSet.asciiWord).contains

/-- Whether the condition holds between two characters, of which the ends of the text have one or
none. A line break is a newline; with `crlf` it is also a carriage return, and both together are
one. -/
def holds (before after : Option Char) : Look → Bool
  | textStart => before.isNone
  | textEnd => after.isNone
  | lineStart false => before.all (· = '\n')
  | lineStart true => before.all fun c => c = '\n' ∨ (c = '\r' ∧ after ≠ some '\n')
  | lineEnd false => after.all (· = '\n')
  | lineEnd true => after.all fun c => c = '\r' ∨ (c = '\n' ∧ before ≠ some '\r')
  | boundary unicode => inWord unicode before ≠ inWord unicode after
  | notBoundary unicode => inWord unicode before = inWord unicode after
  | wordStart unicode => !inWord unicode before && inWord unicode after
  | wordEnd unicode => inWord unicode before && !inWord unicode after
  | wordStartHalf unicode => !inWord unicode before
  | wordEndHalf unicode => !inWord unicode after

end Look

/-- A regular expression. -/
inductive Tree where
  /-- The empty text. -/
  | empty
  /-- One character of a set. -/
  | set (s : CharSet)
  /-- The empty text, at a place with a condition. -/
  | look (l : Look)
  /-- One after the other. -/
  | cat (a b : Tree)
  /-- The first, or else the second. -/
  | alt (a b : Tree)
  /-- A group that keeps its text. -/
  | group (index : Nat) (name : Option String) (r : Tree)
  /-- At least `min` times, and at most `max` times if there is a maximum. The greedy form prefers
  more, the other one less. -/
  | rep (min : Nat) (max : Option Nat) (greedy : Bool) (r : Tree)
  deriving DecidableEq, Repr, Inhabited

namespace Tree

/-- Whether the expression matches at most the empty text, as far as its form shows. -/
def isEmptyOnly : Tree → Bool
  | empty => true
  | set _ => false
  | look _ => true
  | cat a b => a.isEmptyOnly && b.isEmptyOnly
  | alt a b => a.isEmptyOnly && b.isEmptyOnly
  | group _ _ r => r.isEmptyOnly
  | rep _ _ _ r => r.isEmptyOnly

/-- The length of the shortest texts, as far as the form of the expression shows. There is none if
some part of it is an empty set. -/
def leastLength : Tree → Option Nat
  | empty => some 0
  | set s => if s.isEmpty then none else some 1
  | look _ => some 0
  | cat a b => do return (← a.leastLength) + (← b.leastLength)
  | alt a b => do return Nat.min (← a.leastLength) (← b.leastLength)
  | group _ _ r => r.leastLength
  | rep min _ _ r => r.leastLength.map (min * ·)

/-- Whether the form of the expression shows that it does not match the empty text. -/
def advances (r : Tree) : Bool :=
  r.leastLength.any (0 < ·)

/-- The only character that the expression matches, if it is a single one. -/
def only? : Tree → Option Char
  | set s => s.only?
  | _ => none

/-- A repetition. What only matches the empty text is repeated at most once, what is repeated never
matches the empty text, and what is repeated once stands for itself. -/
def repeated (min : Nat) (max : Option Nat) (greedy : Bool) (r : Tree) : Tree :=
  let (min, max) := if r.isEmptyOnly then (Nat.min min 1, some ((max.getD 1).min 1)) else (min, max)
  if max = some 0 then empty
  else if min = 1 ∧ max = some 1 then r
  else rep min max greedy r

/-- The groups of an expression: their numbers and names. -/
def groups : Tree → List (Nat × Option String)
  | cat a b => a.groups ++ b.groups
  | alt a b => a.groups ++ b.groups
  | group index name r => (index, name) :: r.groups
  | rep _ _ _ r => r.groups
  | _ => []

/-- How many groups there are room for: the highest number of a group. A group that is repeated
never has no part in the expression, and its number stays free. -/
def groupCount (r : Tree) : Nat :=
  (r.groups.map (·.1)).foldl Nat.max 0

/-- The names of the groups, from number 1 on. -/
def groupNames (r : Tree) : List (Option String) :=
  (List.range r.groupCount).map fun i => (r.groups.lookup (i + 1)).join

end Tree

end PathTemplate.Regex
