import PathTemplate.Regex.Reader.Bracket
import PathTemplate.Regex.Reader.Group
/-!
# Lexemes of an expression

The source of an expression is cut into lexemes: what matches on its own, what opens and closes
groups, the bars between alternatives, and repetitions. Whether blanks count depends on the groups
around, so the reader keeps track of the verbose flag of each open group.
-/

namespace PathTemplate.Regex

/-- A lexical unit of an expression. -/
inductive Lexeme where
  /-- A character, a class or an assertion. -/
  | atom (e : Expr)
  /-- An opening parenthesis with what follows it, or flags. -/
  | opening (what : Opening)
  /-- A closing parenthesis. -/
  | close
  /-- A bar between alternatives. -/
  | bar
  /-- A repetition of what stands before it. -/
  | rep (min : Nat) (max : Option Nat) (greedy : Bool)
  deriving DecidableEq, Repr, Inhabited

namespace Reader

/-- A repetition, which a question mark after it makes lazy. -/
def repetition (min : Nat) (max : Option Nat) : Reader Lexeme := fun cs =>
  match cs with
  | '?' :: rest => some (.rep min max false, rest)
  | cs => some (.rep min max true, cs)

/-- What follows the brace that opens a counted repetition. -/
def counted (verbose : Bool) : Reader Lexeme := fun cs => do
  let (min, rest) ← count verbose cs
  match rest with
  | '\x7d' :: rest => repetition min (some min) (skip verbose rest)
  | ',' :: rest =>
    match skip verbose rest with
    | '\x7d' :: rest => repetition min none (skip verbose rest)
    | rest =>
      let (max, rest) ← count verbose rest
      match rest with
      | '\x7d' :: rest =>
        if min ≤ max then repetition min (some max) (skip verbose rest) else none
      | _ => none
  | _ => none

/-- The lexeme at the front of a text. -/
def lexeme (verbose : Bool) : Reader Lexeme := fun cs =>
  match cs with
  | [] => none
  | c :: cs =>
    match c with
    | '(' => (opening verbose cs).map fun (what, rest) => (.opening what, rest)
    | ')' => some (.close, cs)
    | '|' => some (.bar, cs)
    | '[' => (bracket verbose cs).map fun (e, rest) => (.atom e, rest)
    | '?' => repetition 0 (some 1) cs
    | '*' => repetition 0 none cs
    | '+' => repetition 1 none cs
    | '\x7b' => counted verbose cs
    | '\\' => (escape verbose cs).map fun (e, rest) => (.atom e, rest)
    | '.' => some (.atom .dot, cs)
    | '^' => some (.atom (.assert .lineStart), cs)
    | '$' => some (.atom (.assert .lineEnd), cs)
    | c => some (.atom (.char c false), cs)

end Reader

namespace Lexeme

/-- The verbose flag after a lexeme, and the flags of the groups around, innermost first. -/
def verbosity (verbose : Bool) (outer : List Bool) : Lexeme → Bool × List Bool
  | opening (.capture _) => (verbose, verbose :: outer)
  | opening (.group change) => (change.apply .verbose verbose, verbose :: outer)
  | opening (.flags change) => (change.apply .verbose verbose, outer)
  | close => (outer.head?.getD verbose, outer.tail)
  | _ => (verbose, outer)

/-- The lexemes of a text, given the verbose flag here and in the groups around. -/
def scan : Nat → Bool → List Bool → List Char → Option (List Lexeme)
  | 0, _, _, _ => none
  | fuel + 1, verbose, outer, cs =>
    match Reader.skip verbose cs with
    | [] => some []
    | cs =>
      (Reader.lexeme verbose cs).bind fun (lexeme, rest) =>
        let (verbose, outer) := lexeme.verbosity verbose outer
        (scan fuel verbose outer rest).map (lexeme :: ·)

/-- The lexemes of a source. -/
def ofSource (source : String) : Option (List Lexeme) :=
  let cs := source.toList
  scan (cs.length + 1) false [] cs

end Lexeme

end PathTemplate.Regex
