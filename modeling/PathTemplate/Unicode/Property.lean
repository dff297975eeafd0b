import PathTemplate.Unicode.Age
import PathTemplate.Unicode.Category
import PathTemplate.Unicode.Script
import PathTemplate.Unicode.Segmentation
import PathTemplate.Unicode.Trait
/-!
# Properties by name

Properties are asked for by name, and names are compared loosely: case, blanks, hyphens and
underscores do not count, and neither does an `is` at the start. Where a short name could mean two
things, the general category comes before the script, and a yes-or-no property before both, unless
its short name is that of a category.
-/

namespace PathTemplate.Unicode.Property

/-- The part of a name that counts in comparisons. Only ASCII characters can. -/
def loose (name : String) : String :=
  let chars := name.toList
  let (stripped, chars) := match chars with
    | i :: s :: rest => if i.toLower = 'i' ∧ s.toLower = 's' then (true, rest) else (false, chars)
    | _ => (false, chars)
  let kept := (chars.filter fun c => c.toNat < 0x80 && c ≠ ' ' && c ≠ '_' && c ≠ '-').map Char.toLower
  if stripped ∧ kept = ['c'] then "isc" else String.ofList kept

/-- The general category with the given loose name, or one of the sets that are asked for like a
category. -/
def category? (name : String) : Option RangeSet :=
  match name with
  | "any" => some ⟨#[0]⟩
  | "ascii" => some ⟨#[0, 0x80]⟩
  | "assigned" => some (Category.runs.select (· ≠ "Cn"))
  | name => Category.named? name

/-- The property whose name is a single letter. -/
def letter? (c : Char) : Option RangeSet :=
  category? (loose (String.singleton c))

/-- The property with the given name: a yes-or-no property, a category or a script. -/
def named? (name : String) : Option RangeSet :=
  let name := loose name
  let shadowed := ["cf", "sc", "lc"].contains name
  match if shadowed then none else Trait.named? name with
  | some set => some set
  | none =>
    match category? name with
    | some set => some set
    | none => (Script.code? name).map Script.setOf

/-- The code points that have the given value for the given property. -/
def valued? (name value : String) : Option RangeSet :=
  let value := loose value
  match loose name with
  | "gc" | "generalcategory" => category? value
  | "sc" | "script" => (Script.code? value).map Script.setOf
  | "scx" | "scriptextensions" => (Script.code? value).map Script.extendedSetOf
  | "age" => Age.upTo? value
  | "gcb" | "graphemeclusterbreak" => Segmentation.named? Segmentation.graphemes value
  | "wb" | "wordbreak" => Segmentation.named? Segmentation.words value
  | "sb" | "sentencebreak" => Segmentation.named? Segmentation.sentences value
  | _ => none

end PathTemplate.Unicode.Property
