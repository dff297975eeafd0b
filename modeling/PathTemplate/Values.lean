import PathTemplate.Text.Json
/-!
# Values

What the placeholders of a template stand for in a text: pairs of a name and a value, in order. A
name may come more than once; looking it up gives the first.
-/

namespace PathTemplate

/-- Names with their values, in order. -/
structure Values where
  /-- The pairs, in order. -/
  pairs : List (String × String) := []
  deriving DecidableEq, Repr, Inhabited

namespace Values

/-- The number of pairs. -/
def size (v : Values) : Nat :=
  v.pairs.length

/-- Whether there is no pair. -/
def isEmpty (v : Values) : Bool :=
  v.pairs.isEmpty

/-- The names, in order. -/
def names (v : Values) : List String :=
  v.pairs.map (·.1)

/-- The first value with the given name. -/
def get? (v : Values) (name : String) : Option String :=
  v.pairs.lookup name

/-- Whether there is a value with the given name. -/
def contains (v : Values) (name : String) : Bool :=
  (v.get? name).isSome

/-- The values as a JSON object, in order and without blanks. -/
def toJson (v : Values) : String :=
  let members := v.pairs.map fun (name, value) =>
    Text.Json.quoted name ++ ":" ++ Text.Json.quoted value
  "\x7b" ++ String.intercalate "," members ++ "\x7d"

theorem isSome_lookup_iff (pairs : List (String × String)) (name : String) :
    (pairs.lookup name).isSome = true ↔ name ∈ pairs.map (·.1) := by
  induction pairs with
  | nil => simp
  | cons p rest ih =>
    rw [List.lookup_cons, List.map_cons, List.mem_cons, ← ih]
    by_cases h : name = p.1
    · simp [h]
    · simp [h, beq_false_of_ne h]

/-- A value is there exactly for the names that are listed. -/
theorem contains_eq_true_iff (v : Values) (name : String) :
    v.contains name = true ↔ name ∈ v.names :=
  isSome_lookup_iff v.pairs name

end Values

end PathTemplate
