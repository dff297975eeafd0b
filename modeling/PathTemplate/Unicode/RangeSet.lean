/-!
# Sets of code points

A set of code points is kept as the rising list of places where membership changes: outside before
the first, inside up to the second, and so on. A partition of all code points is kept as the rising
list of places where the label changes. Both are searched by halving.

The tables are written as text, as the distance from each place to the next, and read once.
-/

namespace PathTemplate.Unicode

/-- The numbers written in decimal in a text, in order. Whatever is no digit separates them. -/
def numbers (text : String) : List Nat :=
  let close (seen : List Nat) : Option Nat → List Nat
    | some n => n :: seen
    | none => seen
  let (seen, last) := text.toList.foldl (fun (seen, current) c =>
    if c.isDigit then (seen, some (current.getD 0 * 10 + (c.toNat - '0'.toNat)))
    else (close seen current, none)) ([], none)
  (close seen last).reverse

/-- How many entries of a rising array are at most `x`, when all before `lo` are and none from `hi`
on is. -/
def countLe (a : Array Nat) (x lo hi : Nat) : Nat :=
  if lo < hi then
    let mid := (lo + hi) / 2
    if a.getD mid 0 ≤ x then countLe a x (mid + 1) hi else countLe a x lo mid
  else lo
termination_by hi - lo

/-- The rising list of running totals. -/
def totals (gaps : List Nat) : List Nat :=
  (gaps.foldl (fun (sum, seen) gap => (sum + gap, (sum + gap) :: seen)) (0, [])).2.reverse

/-- A set of code points, given by the places where membership changes. -/
structure RangeSet where
  /-- The first code point inside, the first outside after it, and so on. -/
  flips : Array Nat
  deriving Repr, DecidableEq

namespace RangeSet

/-- The set whose membership changes after each of the written distances. -/
def ofGaps (text : String) : RangeSet :=
  ⟨(totals (numbers text)).toArray⟩

/-- A character is inside when an odd number of changes lie at or before it. -/
def contains (s : RangeSet) (c : Char) : Bool :=
  countLe s.flips c.toNat 0 s.flips.size % 2 = 1

/-- The code points that are in one of the two sets and not in both: the changes of both together. -/
def symmDiff (s t : RangeSet) : RangeSet :=
  ⟨((s.flips.toList ++ t.flips.toList).mergeSort).toArray⟩

end RangeSet

/-- A partition of the code points into runs with a label each. -/
structure Runs where
  /-- Where each run starts. -/
  starts : Array Nat
  /-- The label of each run. -/
  labels : Array String
  deriving Repr

namespace Runs

/-- Reads runs written as a label followed by a length, such as `Lu26`, with blanks or line breaks
between them. -/
def ofText (text : String) : Runs :=
  let words := ((text.splitOn "\n").flatMap (·.splitOn " ")).filter (· ≠ "")
  let runs := words.map fun word =>
    (String.ofList (word.toList.filter (!·.isDigit)), ((numbers word).head?).getD 0)
  ⟨(0 :: totals (runs.map (·.2))).toArray, (runs.map (·.1)).toArray⟩

/-- The label of the run that a code point is in. -/
def label (r : Runs) (code : Nat) : String :=
  r.labels.getD (countLe r.starts code 0 r.starts.size - 1) ""

/-- The code points whose label satisfies `p`. -/
def select (r : Runs) (p : String → Bool) : RangeSet :=
  let (_, flips) := (r.starts.toList.zip (r.labels.toList.map p ++ [false])).foldl
    (fun (inside, flips) (start, holds) =>
      if holds = inside then (inside, flips) else (holds, flips.push start)) (false, #[])
  ⟨flips⟩

end Runs

end PathTemplate.Unicode
