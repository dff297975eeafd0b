import PathTemplate.Unicode.CaseFold
import PathTemplate.Unicode.Category
import PathTemplate.Unicode.Trait
/-!
# Sets of characters

A set of characters is kept as it was put together, and asked character by character.
-/

namespace PathTemplate.Regex

/-- A set of characters. -/
inductive CharSet where
  /-- No character. -/
  | none
  /-- Every character. -/
  | all
  /-- The characters from `lo` to `hi`. -/
  | range (lo hi : Char)
  /-- The characters of a table. -/
  | table (set : Unicode.RangeSet)
  | union (a b : CharSet)
  | inter (a b : CharSet)
  | diff (a b : CharSet)
  /-- The characters in exactly one of two sets. -/
  | symmDiff (a b : CharSet)
  | compl (a : CharSet)
  /-- The characters that differ from one in the set at most by case. -/
  | caseless (a : CharSet)
  /-- The same, with only the ASCII letters having case. -/
  | asciiCaseless (a : CharSet)
  /-- The same characters, as bytes: the form of a set without the Unicode flag. -/
  | bytes (a : CharSet)
  deriving DecidableEq, Repr, Inhabited

namespace CharSet

/-- Whether a character is in the set. -/
def contains : CharSet → Char → Bool
  | none, _ => false
  | all, _ => true
  | range lo hi, c => lo ≤ c && c ≤ hi
  | table set, c => set.contains c
  | union a b, c => a.contains c || b.contains c
  | inter a b, c => a.contains c && b.contains c
  | diff a b, c => a.contains c && !b.contains c
  | symmDiff a b, c => a.contains c ^^ b.contains c
  | compl a, c => !a.contains c
  | caseless a, c => a.contains c || (Unicode.CaseFold.variants c).any a.contains
  | asciiCaseless a, c => a.contains c || (Unicode.CaseFold.asciiVariants c).any a.contains
  | bytes a, c => a.contains c

/-- The set of a single character. -/
def single (c : Char) : CharSet :=
  range c c

/-- The set of the characters in some of the ranges. -/
def ofRanges (ranges : List (Char × Char)) : CharSet :=
  ranges.foldr (fun (lo, hi) set => union (range lo hi) set) none

/-- The decimal digits of all scripts. -/
def digit : CharSet :=
  table (Unicode.Category.setOf ["Nd"])

/-- White space. -/
def space : CharSet :=
  table Unicode.Trait.whiteSpace

/-- The characters of words: letters, marks, digits, connecting punctuation and joiners. -/
def word : CharSet :=
  union (table Unicode.Trait.alphabetic)
    (union (table (Unicode.Category.setOf ["Mn", "Mc", "Me", "Nd", "Pc"]))
      (table Unicode.Trait.joinControl))

/-- The ASCII digits. -/
def asciiDigit : CharSet :=
  range '0' '9'

/-- The ASCII white space. -/
def asciiSpace : CharSet :=
  ofRanges [('\t', '\r'), (' ', ' ')]

/-- The ASCII characters of words. -/
def asciiWord : CharSet :=
  ofRanges [('0', '9'), ('A', 'Z'), ('_', '_'), ('a', 'z')]

/-! ## Membership -/

@[simp] theorem contains_single (c d : Char) : (single c).contains d = (d == c) := by
  rw [Bool.eq_iff_iff]
  simp only [single, contains, Bool.and_eq_true, decide_eq_true_eq, beq_iff_eq]
  exact ⟨fun ⟨h₁, h₂⟩ => Char.le_antisymm h₂ h₁, fun h => h ▸ ⟨Char.le_refl _, Char.le_refl _⟩⟩

@[simp] theorem contains_compl (a : CharSet) (c : Char) : (compl a).contains c = !a.contains c :=
  rfl

@[simp] theorem contains_union (a b : CharSet) (c : Char) :
    (union a b).contains c = (a.contains c || b.contains c) :=
  rfl

/-- Ignoring case takes no character out of a set. -/
theorem contains_caseless_of_contains {a : CharSet} {c : Char} (h : a.contains c = true) :
    (caseless a).contains c = true := by
  simp [contains, h]

end CharSet

end PathTemplate.Regex
