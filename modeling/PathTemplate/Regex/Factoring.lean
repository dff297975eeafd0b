import PathTemplate.Regex.Tree
/-!
# Alternatives that begin alike

Alternatives that are rows and begin with the same parts are written as one row, with the choice
left to what differs: `a+b|a+c` is `a+(?:b|c)`. This matches the same texts, but it prefers what the
common parts prefer over the order of the alternatives. Characters side by side count as one part.
Alternatives that are all single characters, or all sets, are a single set.
-/

namespace PathTemplate.Regex

/-- How an expression is spelled out, with sets given by their members. -/
inductive Mark where
  | char (c : Char)
  | set (bytes : Bool) (changes : List Nat)
  | look (l : Look)
  | group (index : Nat) (name : Option String)
  | rep (min : Nat) (max : Option Nat) (greedy : Bool)
  | choice
  /-- The bar between two alternatives. -/
  | bar
  /-- The end of a group, a repetition or a choice. -/
  | close
  deriving DecidableEq, Repr, Inhabited

namespace Mark

/-- The spelling of a set. The empty set has no form of its own for bytes. -/
def ofSet (s : CharSet) : Mark :=
  match s.only? with
  | some c => char c
  | none => if s.isEmpty then set false [] else set s.isBytes s.changes

end Mark

namespace Tree

/-- The spelling of an expression. Nested rows read like one row, and so do nested choices. -/
def spell (inChoice : Bool) : Tree → List Mark
  | empty => []
  | set s => [.ofSet s]
  | look l => [.look l]
  | cat a b => a.spell false ++ b.spell false
  | alt a b =>
    let inner := a.spell true ++ .bar :: b.spell true
    if inChoice then inner else .choice :: (inner ++ [.close])
  | group index name r => .group index name :: (r.spell false ++ [.close])
  | rep min max greedy r => .rep min max greedy :: (r.spell false ++ [.close])

/-- The parts of a row, without empty ones. -/
def parts : Tree → List Tree
  | empty => []
  | cat a b => a.parts ++ b.parts
  | r => [r]

/-- The alternatives of a choice. -/
def choices : Tree → List Tree
  | alt a b => a.choices ++ b.choices
  | r => [r]

/-- The parts of a row, with characters side by side taken together. -/
def pieces (r : Tree) : List (List Tree) :=
  r.parts.splitBy fun a b => a.only?.isSome && b.only?.isSome

/-- Parts in a row. -/
def ofParts : List Tree → Tree
  | [] => empty
  | [r] => r
  | r :: more => cat r (ofParts more)

/-- A choice between alternatives. -/
def ofChoices : List Tree → Tree
  | [] => set .none
  | [r] => r
  | r :: more => alt r (ofChoices more)

/-- How many pieces two rows begin with in common. -/
def common (a b : List (List Tree)) : Nat :=
  ((a.zip b).takeWhile fun (x, y) => x.flatMap (spell false) = y.flatMap (spell false)).length

/-- How many pieces all rows begin with in common. A single piece is no row. -/
def shared : List (List (List Tree)) → Nat
  | [] => 0
  | first :: more =>
    if (first :: more).all (2 ≤ ·.length) then
      more.foldl (fun n row => Nat.min n (common first row)) first.length
    else 0

/-- The set of the alternatives, if they are all single characters or all sets. -/
def setOfChoices? (alts : List Tree) : Option CharSet :=
  let sets := alts.filterMap fun
    | set s => some s
    | _ => none
  if sets.length = alts.length ∧
      (sets.all (·.only?.isSome) || sets.all (·.only?.isNone)) then
    some (sets.foldr .union .none)
  else none

/-- Writes alternatives that begin alike as one row, as often as `fuel` allows. -/
def factorFrom : Nat → Tree → Tree
  | 0, r => r
  | fuel + 1, r =>
    let alts := r.choices
    if alts.length < 2 then r
    else
      match setOfChoices? alts with
      | some s => set s
      | none =>
        let rows := alts.map pieces
        match shared rows with
        | 0 => r
        | n + 1 =>
          let front := (rows.headD []).take (n + 1)
          let rest := rows.map fun row => ofParts (row.drop (n + 1)).flatten
          ofParts (front.flatten ++ (factorFrom fuel (ofChoices rest)).parts)

/-- How many parts an expression has, at all depths. -/
def partCount : Tree → Nat
  | cat a b => a.partCount + b.partCount + 1
  | alt a b => a.partCount + b.partCount + 1
  | group _ _ r => r.partCount + 1
  | rep _ _ _ r => r.partCount + 1
  | _ => 1

/-- A choice with what its alternatives begin with in common written once. Each step takes parts
away from every alternative, so there are at most as many steps as parts. -/
def factored (r : Tree) : Tree :=
  factorFrom r.partCount r

/-- Only a choice is changed. -/
theorem factored_of_choices {r : Tree} (h : r.choices = [r]) : r.factored = r := by
  unfold factored
  cases r.partCount with
  | zero => rfl
  | succ n => simp [factorFrom, h]

end Tree

end PathTemplate.Regex
