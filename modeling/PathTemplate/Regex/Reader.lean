import PathTemplate.Unicode.Trait
/-!
# Reading the source of an expression

A reader takes a part of an expression from the front of a text and gives the rest, or refuses the
text. Under the verbose flag blanks and comments may stand between characters that belong together;
`span` is where they are left out.
-/

namespace PathTemplate.Regex

/-- Reads a part of an expression from the front of a text and gives the rest. -/
abbrev Reader (α : Type) :=
  List Char → Option (α × List Char)

namespace Reader

/-- White space. -/
def isBlank (c : Char) : Bool :=
  Unicode.Trait.whiteSpace.contains c

/-- The longest run of characters that satisfy `p`, and the rest. In verbose mode blanks around the
run and in it are dropped, and so are comments, which start at `#` and end with the line. -/
def spanFrom (verbose inComment : Bool) (p : Char → Bool) : List Char → List Char × List Char
  | [] => ([], [])
  | c :: cs =>
    if inComment then spanFrom verbose (c ≠ '\n') p cs
    else if verbose && isBlank c then spanFrom verbose false p cs
    else if verbose && c == '#' then spanFrom verbose true p cs
    else if p c then
      let (run, rest) := spanFrom verbose false p cs
      (c :: run, rest)
    else ([], c :: cs)

/-- The longest run of characters that satisfy `p`, and the rest, from outside a comment. -/
def span (verbose : Bool) (p : Char → Bool) (cs : List Char) : List Char × List Char :=
  spanFrom verbose false p cs

/-- The text from the first character on that counts. -/
def skip (verbose : Bool) (cs : List Char) : List Char :=
  (span verbose (fun _ => false) cs).2

/-- The characters before the first closing brace, and what follows the brace. -/
def braced (verbose : Bool) : Reader (List Char) := fun cs =>
  match span verbose (· ≠ '\x7d') cs with
  | (inner, _ :: rest) => some (inner, rest)
  | _ => none

/-! ## Repetition counts -/

/-- The largest number that a repetition count can be. -/
def maxCount : Nat :=
  0xffffffff

/-- A repetition count in decimal, with blanks around it. -/
def count (verbose : Bool) : Reader Nat := fun cs =>
  let (digits, rest) := span verbose Char.isDigit (cs.dropWhile isBlank)
  let n := digits.foldl (fun sum c => sum * 10 + (c.toNat - '0'.toNat)) 0
  if digits.isEmpty || n > maxCount then none else some (n, rest.dropWhile isBlank)

/-! ## Nothing is dropped outside the verbose mode -/

theorem span_false (p : Char → Bool) (cs : List Char) :
    span false p cs = (cs.takeWhile p, cs.dropWhile p) := by
  unfold span
  induction cs with
  | nil => rfl
  | cons c cs ih =>
    cases h : p c
    · simp [spanFrom, h]
    · simp [spanFrom, h, ih]

@[simp] theorem skip_false (cs : List Char) : skip false cs = cs := by
  rw [skip, span_false]
  cases cs <;> rfl

end Reader

end PathTemplate.Regex
