import PathTemplate.Regex.Grouping
import PathTemplate.Regex.Meaning
import PathTemplate.Regex.Search
import PathTemplate.Regex.Weight
import PathTemplate.Values
/-!
# Regular expressions

A regular expression is compiled from its source and sought in texts. What its named groups took
part in becomes values. A group that the match passed by stands for the empty text; groups after the
last one that took part are left out.
-/

namespace PathTemplate

/-- How large a regular expression may be. -/
structure Regex.Limits where
  /-- How deep its parts may be nested. -/
  depth : Nat := 250
  /-- How much it may weigh, if there is a bound. -/
  weight : Option Nat := some (10 * 1024 * 1024)
  deriving DecidableEq, Repr, Inhabited

/-- A compiled regular expression. -/
structure Regex where
  /-- What it was compiled from. -/
  source : String
  /-- What it matches. -/
  tree : Regex.Tree
  deriving DecidableEq, Repr, Inhabited

namespace Regex

/-- The regular expression with the given source, if it is well formed and within the limits. -/
def compile? (limits : Limits) (source : String) : Option Regex := do
  let e ← Expr.ofSource? source
  let (tree, _) ← e.toTree? {}
  let tree := tree.factored
  if e.depth ≤ limits.depth ∧ limits.weight.all tree.fits then return ⟨source, tree⟩ else none

/-- The names of the groups, from number 1 on. -/
def groupNames (r : Regex) : List (Option String) :=
  r.tree.groupNames

/-- How many groups there are, the whole match among them. -/
def groupCount (r : Regex) : Nat :=
  r.groupNames.length + 1

/-- The first match in a text. -/
def find? (r : Regex) (text : Array Char) : Option Match :=
  Search.find? r.tree.program text

/-- Whether there is a match in a text. -/
def isMatch (r : Regex) (text : String) : Bool :=
  (r.find? text.toList.toArray).isSome

/-- The text that a group of a match matched last, if it took part. -/
def groupText? (text : Array Char) (m : Match) (index : Nat) : Option String :=
  m.stop.groupText? text index

/-- The names and the texts of the groups, from number 1 to the last that took part. -/
def participants (r : Regex) (text : Array Char) (m : Match) :
    List (Option String × Option String) :=
  let texts := (List.range r.groupNames.length).map fun i => groupText? text m (i + 1)
  ((r.groupNames.zip texts).reverse.dropWhile fun (_, text) => text.isNone).reverse

/-- The values that a text gives to the names of the groups. There are none if it does not match. -/
def extract (r : Regex) (text : String) : Values :=
  let text := text.toList.toArray
  match r.find? text with
  | none => {}
  | some m => ⟨(r.participants text m).filterMap fun (name, text) => name.map (·, text.getD "")⟩

end Regex

end PathTemplate
