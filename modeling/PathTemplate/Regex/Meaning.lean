import PathTemplate.Regex.Expr
import PathTemplate.Regex.Factoring
import PathTemplate.Unicode.Property
/-!
# What an expression means

The parts of an expression as it is written are given their meaning under the flags in force. A
change of flags holds for all that follows it in its group, also across the bars between
alternatives.

Without the Unicode flag an expression speaks of bytes. Since a match has to fall on characters,
everything that could match part of a character has no meaning then: the dot, negated classes, bytes
beyond ASCII and, within brackets, characters beyond ASCII.

Ignoring case commutes with union, intersection, difference and complement, so within brackets it is
enough to ignore it in each item. The classes of digits, blanks and words do not depend on case.
-/

namespace PathTemplate.Regex

/-- The flags in force at a place. -/
structure Flags where
  caseless : Bool := false
  multiLine : Bool := false
  dotAll : Bool := false
  swapGreed : Bool := false
  unicode : Bool := true
  crlf : Bool := false
  deriving DecidableEq, Repr, Inhabited

namespace Flags

/-- The flags after a change. -/
def change (f : Flags) (c : FlagChange) : Flags where
  caseless := c.apply .caseless f.caseless
  multiLine := c.apply .multiLine f.multiLine
  dotAll := c.apply .dotAll f.dotAll
  swapGreed := c.apply .swapGreed f.swapGreed
  unicode := c.apply .unicode f.unicode
  crlf := c.apply .crlf f.crlf

/-- A set up to case, if case does not count. -/
def fold (f : Flags) (s : CharSet) : CharSet :=
  match f.caseless, f.unicode with
  | true, true => .caseless s
  | true, false => .asciiCaseless s
  | false, _ => s

/-- A set or its complement. The complement is there only in Unicode. -/
def negate? (f : Flags) (negated : Bool) (s : CharSet) : Option CharSet :=
  match negated, f.unicode with
  | false, _ => some s
  | true, true => some (.compl s)
  | true, false => none

/-- A set in the form that it has under the flags. -/
def form (f : Flags) (s : CharSet) : CharSet :=
  if f.unicode then s else .bytes s

/-- Whether a character may stand within brackets. -/
def allows (f : Flags) (c : Char) : Bool :=
  f.unicode || c.toNat < 0x80

/-- The characters of a class that is written with one letter. -/
def short (f : Flags) : ShortClass → CharSet
  | .digit => if f.unicode then .digit else .asciiDigit
  | .space => if f.unicode then .space else .asciiSpace
  | .word => if f.unicode then .word else .asciiWord

/-- The characters that the dot matches. -/
def dot? (f : Flags) : Option CharSet :=
  match f.unicode, f.dotAll, f.crlf with
  | false, _, _ => none
  | true, true, _ => some .all
  | true, false, true => some (.compl (.ofRanges [('\n', '\n'), ('\r', '\r')]))
  | true, false, false => some (.compl (.single '\n'))

/-- The condition that an assertion makes. -/
def look (f : Flags) : Assertion → Look
  | .lineStart => if f.multiLine then .lineStart f.crlf else .textStart
  | .lineEnd => if f.multiLine then .lineEnd f.crlf else .textEnd
  | .textStart => .textStart
  | .textEnd => .textEnd
  | .boundary => .boundary f.unicode
  | .notBoundary => .notBoundary f.unicode
  | .wordStart => .wordStart f.unicode
  | .wordEnd => .wordEnd f.unicode
  | .wordStartHalf => .wordStartHalf f.unicode
  | .wordEndHalf => .wordEndHalf f.unicode

end Flags

/-- The code points with the property that a query names, and whether it asks for the others. -/
def PropertyQuery.find? : PropertyQuery → Option (Unicode.RangeSet × Bool)
  | letter c => (Unicode.Property.letter? c).map (·, false)
  | named name => (Unicode.Property.named? name).map (·, false)
  | valued name value => (Unicode.Property.valued? name value).map (·, false)
  | differing name value => (Unicode.Property.valued? name value).map (·, true)

/-- The characters that a query asks for. Case is ignored before the complement is taken. -/
def PropertyQuery.toSet? (f : Flags) (negated : Bool) (query : PropertyQuery) : Option CharSet :=
  if f.unicode then
    query.find?.bind fun (set, others) => f.negate? (negated != others) (f.fold (.table set))
  else none

/-- The set that an operator makes of two sets. -/
def SetOp.apply : SetOp → CharSet → CharSet → CharSet
  | inter => .inter
  | diff => .diff
  | symmDiff => .symmDiff

/-- The characters of what stands within brackets. -/
def ClassExpr.toSet? (f : Flags) : ClassExpr → Option CharSet
  | none => some .none
  | char c => if f.allows c then some (f.fold (.single c)) else Option.none
  | range lo hi => if f.allows lo && f.allows hi then some (f.fold (.range lo hi)) else Option.none
  | ascii cls negated => f.negate? negated (f.fold (.ofRanges cls.ranges))
  | short cls negated => f.negate? negated (f.short cls)
  | property query negated => query.toSet? f negated
  | bracket negated inner => (inner.toSet? f).bind (f.negate? negated)
  | union a b => do return .union (← a.toSet? f) (← b.toSet? f)
  | op o a b => do return o.apply (← a.toSet? f) (← b.toSet? f)

/-- The meaning of an expression under the flags before it, with the flags after it. -/
def Expr.toTree? (f : Flags) : Expr → Option (Tree × Flags)
  | empty => some (.empty, f)
  | flags change => some (.empty, f.change change)
  | char c byte => if byte && !f.allows c then none else some (.set (f.form (f.fold (.single c))), f)
  | dot => f.dot?.map (.set ·, f)
  | assert a => some (.look (f.look a), f)
  | short cls negated => (f.negate? negated (f.short cls)).map (.set <| f.form ·, f)
  | property query negated => (query.toSet? f negated).map (.set ·, f)
  | bracket negated inner => ((inner.toSet? f).bind (f.negate? negated)).map (.set <| f.form ·, f)
  | rep min max greedy e => do
    let (r, f) ← e.toTree? f
    return (.repeated min max (greedy != f.swapGreed) r, f)
  | capture index name e => do
    let (r, _) ← e.toTree? f
    return (.group index name r.factored, f)
  | group change e => do
    let (r, _) ← e.toTree? (f.change change)
    return (r.factored, f)
  | cat a b => do
    let (r, f) ← a.toTree? f
    let (s, f) ← b.toTree? f
    return (.cat r s, f)
  | alt a b => do
    let (r, f) ← a.toTree? f
    let (s, f) ← b.toTree? f
    return (.alt r s, f)

end PathTemplate.Regex
