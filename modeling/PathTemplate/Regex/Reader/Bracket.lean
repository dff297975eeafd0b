import PathTemplate.Regex.Reader.Escape
/-!
# Bracketed classes

A class is read with a stack of what is open around the place of reading: brackets, with the items
before them, and operators, with their left operand. Operators bind from the left and more weakly
than items side by side.

A hyphen is an item when it comes first, when it comes last and before another hyphen; a closing
bracket is an item when it comes first.
-/

namespace PathTemplate.Regex

/-- Items side by side, given latest first. -/
def ClassExpr.row : List ClassExpr → ClassExpr
  | [] => none
  | last :: before => before.foldl (fun after e => union e after) last

/-- An item of a class, if an escape or a character can be one. -/
def ClassExpr.ofExpr? : Expr → Option ClassExpr
  | .char c _ => some (char c)
  | .short cls negated => some (short cls negated)
  | .property query negated => some (property query negated)
  | _ => Option.none

namespace Reader

/-- What is open around a place in a class. -/
inductive ClassFrame where
  /-- A bracket, with the items before it, latest first. -/
  | bracket (before : List ClassExpr) (negated : Bool)
  /-- An operator, with its left operand. -/
  | operand (op : SetOp) (left : ClassExpr)
  deriving DecidableEq, Repr, Inhabited

/-- The items of a class closed off as an operand, joined to the operator that waits for one. -/
def closeOperand (items : List ClassExpr) : List ClassFrame → ClassExpr × List ClassFrame
  | .operand op left :: frames => (.op op left (.row items), frames)
  | frames => (.row items, frames)

/-- What follows the bracket that opens a class: whether the class is negated, and the items that
only the place makes literal, latest first. -/
def classOpening (verbose : Bool) : Reader (Bool × List ClassExpr) := fun cs =>
  let (negated, cs) := match skip verbose cs with
    | '^' :: rest => (true, rest)
    | cs => (false, cs)
  match span verbose (· = '-') cs with
  | ([], ']' :: rest) => some ((negated, [.char ']']), rest)
  | (dashes, rest) => some ((negated, dashes.map .char), rest)

/-- What follows the bracket that opens an ASCII class such as `[:alpha:]`. -/
def asciiClass : Reader ClassExpr := fun cs =>
  match cs with
  | ':' :: cs =>
    let (negated, cs) := match cs with
      | '^' :: rest => (true, rest)
      | cs => (false, cs)
    match cs.dropWhile (· ≠ ':') with
    | ':' :: ']' :: rest =>
      (AsciiClass.named? (String.ofList (cs.takeWhile (· ≠ ':')))).map (.ascii · negated, rest)
    | _ => none
  | _ => none

/-- A character of a class, as it stands or after a backslash. -/
def classAtom (verbose : Bool) : Reader Expr := fun cs =>
  match cs with
  | [] => none
  | '\\' :: cs => escape verbose cs
  | c :: cs => some (.char c false, cs)

/-- The character that decides whether a hyphen before it makes a range. In verbose mode blanks are
passed over, and one number sign. -/
def afterHyphen (verbose : Bool) (cs : List Char) : Option Char :=
  if verbose then
    let cs' := match cs.dropWhile isBlank with
      | '#' :: rest => rest.dropWhile isBlank
      | rest => rest
    cs'.head? <|> cs.head?
  else cs.head?

/-- A single item of a class or a range. -/
def classItem (verbose : Bool) : Reader ClassExpr := fun cs => do
  let (first, rest) ← classAtom verbose cs
  match skip verbose rest with
  | '-' :: after =>
    if afterHyphen verbose after = some ']' ∨ afterHyphen verbose after = some '-' then
      return (← ClassExpr.ofExpr? first, '-' :: after)
    else
      let (last, rest) ← classAtom verbose (skip verbose after)
      match first, last with
      | .char lo _, .char hi _ => if lo ≤ hi then return (.range lo hi, rest) else none
      | _, _ => none
  | rest => return (← ClassExpr.ofExpr? first, rest)

/-- The rest of a class, given what is open around the place and the items since, latest first. -/
def classBody (verbose : Bool) :
    Nat → List ClassFrame → List ClassExpr → Reader (Bool × ClassExpr)
  | 0, _, _, _ => none
  | fuel + 1, frames, items, cs =>
    let operator (op : SetOp) (rest : List Char) :=
      let (left, frames) := closeOperand items frames
      classBody verbose fuel (.operand op left :: frames) [] rest
    match skip verbose cs with
    | [] => none
    | '[' :: rest =>
      match asciiClass rest with
      | some (item, rest) => classBody verbose fuel frames (item :: items) rest
      | none =>
        (classOpening verbose rest).bind fun ((negated, literals), rest) =>
          classBody verbose fuel (.bracket items negated :: frames) literals rest
    | ']' :: rest =>
      match closeOperand items frames with
      | (inner, .bracket _ negated :: []) => some ((negated, inner), rest)
      | (inner, .bracket before negated :: frames) =>
        classBody verbose fuel frames (.bracket negated inner :: before) rest
      | _ => none
    | '&' :: '&' :: rest => operator .inter rest
    | '-' :: '-' :: rest => operator .diff rest
    | '~' :: '~' :: rest => operator .symmDiff rest
    | cs =>
      (classItem verbose cs).bind fun (item, rest) =>
        classBody verbose fuel frames (item :: items) rest

/-- What follows the bracket that opens a class. -/
def bracket (verbose : Bool) : Reader Expr := fun cs => do
  let ((negated, literals), rest) ← classOpening verbose cs
  let ((negated, inner), rest) ←
    classBody verbose (rest.length + 1) [.bracket [] negated] literals rest
  return (.bracket negated inner, rest)

end Reader

end PathTemplate.Regex
