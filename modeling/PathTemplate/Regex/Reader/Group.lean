import PathTemplate.Regex.Expr
import PathTemplate.Regex.Reader
import PathTemplate.Unicode.Category
import PathTemplate.Unicode.Recent
/-!
# Openings of groups

What may follow an opening parenthesis: a name, flags, or nothing. Flags that are closed off by a
parenthesis are no group: they hold to the end of the group that they stand in.
-/

namespace PathTemplate.Regex

/-- What an opening parenthesis begins. -/
inductive Opening where
  /-- A group whose text is kept, under a name if it has one. -/
  | capture (name : Option String)
  /-- A group under changed flags. -/
  | group (change : FlagChange)
  /-- No group, but flags from here on. -/
  | flags (change : FlagChange)
  deriving DecidableEq, Repr, Inhabited

namespace Reader

/-- Whether a group's name can start with the character. -/
def startsGroupName (c : Char) : Bool :=
  c == '_' || c.isAlpha || Unicode.Trait.alphabetic.contains c ||
    Unicode.Recent.alphabetic.contains c

/-- The characters that are numbers. -/
def numeric : Unicode.RangeSet :=
  Unicode.Category.setOf ["Nd", "Nl", "No"]

/-- Whether a group's name can go on with the character. -/
def continuesGroupName (c : Char) : Bool :=
  startsGroupName c || c.isDigit || c == '.' || c == '[' || c == ']' || numeric.contains c ||
    Unicode.Recent.numeric.contains c

/-- The name of a group, up to the angle bracket that closes it. -/
def groupName : Reader String := fun cs =>
  match cs.takeWhile (· ≠ '>'), cs.dropWhile (· ≠ '>') with
  | first :: more, _ :: rest =>
    if startsGroupName first && more.all continuesGroupName then
      some (String.ofList (first :: more), rest)
    else none
  | _, _ => none

/-- Adds a flag to a change. No flag may be there twice. -/
def addFlag (change : FlagChange) (negated : Bool) (flag : Flag) : Option FlagChange :=
  if flag ∈ change.on ∨ flag ∈ change.off then none
  else if negated then some { change with off := flag :: change.off }
  else some { change with on := flag :: change.on }

/-- Flags up to the colon or the parenthesis after them, which is part of the rest. A hyphen may
stand among them once, and not at their end. -/
def flagList (change : FlagChange) (negated dangling : Bool) : Reader FlagChange
  | [] => none
  | c :: cs =>
    if c = ':' ∨ c = ')' then if dangling then none else some (change, c :: cs)
    else if c = '-' then if negated then none else flagList change true true cs
    else do flagList (← addFlag change negated (← Flag.ofChar? c)) negated false cs

/-- What follows an opening parenthesis. -/
def opening (verbose : Bool) : Reader Opening := fun cs =>
  match skip verbose cs with
  | '?' :: 'P' :: '<' :: cs => (groupName cs).map fun (name, rest) => (.capture (some name), rest)
  | '?' :: '<' :: cs => (groupName cs).map fun (name, rest) => (.capture (some name), rest)
  | '?' :: cs =>
    match flagList {} false false cs with
    | some (change, ':' :: rest) => some (.group change, rest)
    | some (change, _ :: rest) => if change = {} then none else some (.flags change, rest)
    | _ => none
  | cs => some (.capture none, cs)

end Reader

end PathTemplate.Regex
