import PathTemplate.Regex.CharSet
/-!
# The ranges of a set

However a set was put together, its members form ranges. Characters are counted here from 0 upwards
without the gap that surrogates leave among the code points, so that neighbours are next to each
other, and a set is given by the rising list of places where membership changes. Two sets with the
same members have the same list.
-/

namespace PathTemplate.Regex

namespace CharSet

/-- How many characters there are. -/
def total : Nat :=
  0x110000 - 0x800

/-- How many characters come before a code point. -/
def place (code : Nat) : Nat :=
  if code < 0xd800 then code else if code < 0xe000 then 0xd800 else code - 0x800

/-- The code point of the character at a place. -/
def codeAt (place : Nat) : Nat :=
  if place < 0xd800 then place else place + 0x800

/-- Adds a later change to changes given latest first. Two changes at one place undo each other, and
a change behind the last character is none. -/
def addChange (seen : List Nat) (x : Nat) : List Nat :=
  match seen with
  | y :: before => if x = y then before else if total ≤ x then seen else x :: seen
  | [] => if total ≤ x then [] else [x]

/-- The changes among places in rising order, which may be there more than once. -/
def settle (places : List Nat) : List Nat :=
  (places.foldl addChange []).reverse

/-- The changes of what `op` makes of two sets, given whether the places so far are in each. Where
only one of them still changes, the result changes with it, or not at all. -/
def combine (op : Bool → Bool → Bool) (a b : Bool) : List Nat → List Nat → List Nat
  | [], t => if op a b = op a (!b) then [] else t
  | s, [] => if op a b = op (!a) b then [] else s
  | x :: s, y :: t =>
    if x < y then
      if op a b = op (!a) b then combine op (!a) b s (y :: t)
      else x :: combine op (!a) b s (y :: t)
    else if y < x then
      if op a b = op a (!b) then combine op a (!b) (x :: s) t
      else y :: combine op a (!b) (x :: s) t
    else
      if op a b = op (!a) (!b) then combine op (!a) (!b) s t
      else x :: combine op (!a) (!b) s t
termination_by s t => s.length + t.length

/-- The changes of the complement. -/
def invert : List Nat → List Nat
  | 0 :: s => s
  | s => 0 :: s

/-- The ranges between changes: the first and the last place of each. -/
def between : List Nat → List (Nat × Nat)
  | [] => []
  | [x] => [(x, total - 1)]
  | x :: y :: s => (x, y - 1) :: between s

/-- The changes of the set of the given code points. -/
def changesOf (codes : List Nat) : List Nat :=
  settle ((codes.map place).mergeSort.eraseReps.flatMap fun x => [x, x + 1])

/-- The code points that are equal up to case to one in the ranges between changes. -/
def variantsIn (changes : List Nat) : List Nat :=
  (between changes).flatMap fun (lo, hi) => Unicode.CaseFold.variantsBetween (codeAt lo) (codeAt hi)

/-- The same with only the ASCII letters having case. -/
def asciiVariantsIn (changes : List Nat) : List Nat :=
  (between changes).flatMap fun (lo, hi) =>
    ((List.range 128).filter fun x => lo ≤ x && x ≤ hi).flatMap fun x =>
      (Unicode.CaseFold.asciiVariants (Char.ofNat x)).map Char.toNat

/-- The places where membership changes. -/
def changes : CharSet → List Nat
  | none => []
  | all => [0]
  | range lo hi => if lo ≤ hi then settle [place lo.toNat, place hi.toNat + 1] else []
  | table set => settle (set.flips.toList.map place)
  | union a b => combine or false false a.changes b.changes
  | inter a b => combine and false false a.changes b.changes
  | diff a b => combine (fun x y => x && !y) false false a.changes b.changes
  | symmDiff a b => combine xor false false a.changes b.changes
  | compl a => invert a.changes
  | caseless a => combine or false false a.changes (changesOf (variantsIn a.changes))
  | asciiCaseless a => combine or false false a.changes (changesOf (asciiVariantsIn a.changes))
  | bytes a => a.changes

/-- The ranges of the members, by their code points. -/
def ranges (s : CharSet) : List (Nat × Nat) :=
  (between s.changes).map fun (lo, hi) => (codeAt lo, codeAt hi)

/-- Whether the set has the form for bytes. -/
def isBytes : CharSet → Bool
  | bytes _ => true
  | _ => false

/-- Whether there is no member. -/
def isEmpty (s : CharSet) : Bool :=
  s.changes.isEmpty

/-- The only member, if there is just one. -/
def only? (s : CharSet) : Option Char :=
  match between s.changes with
  | [(lo, hi)] => if lo = hi then some (Char.ofNat (codeAt lo)) else Option.none
  | _ => Option.none

end CharSet

end PathTemplate.Regex
