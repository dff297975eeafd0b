/-!
# Tokens of a template

A template is a sequence of literal text, separators and placeholders. The separator carries no
character: which one it stands for is an option.
-/

namespace PathTemplate

/-- A lexical unit of a template. -/
inductive Token where
  /-- Text that stands for itself. -/
  | literal (text : String)
  /-- The separator character. -/
  | separator
  /-- A named placeholder, which may be left out when it is optional. -/
  | placeholder (name : String) (optional : Bool)
  deriving DecidableEq, Repr, Inhabited

namespace Token

/-- Whether the token is a separator. -/
def isSeparator : Token → Bool
  | separator => true
  | _ => false

/-- The name of a placeholder. -/
def name? : Token → Option String
  | placeholder name _ => some name
  | _ => none

/-- Adds a name at the end of a list of names, unless it is there. -/
def addName (seen : List String) (name : String) : List String :=
  if name ∈ seen then seen else seen ++ [name]

/-- The distinct placeholder names, in the order of their first occurrence. -/
def names (tokens : List Token) : List String :=
  (tokens.filterMap name?).foldl addName []

/-- A placeholder's name is an ASCII letter followed by ASCII letters, digits and underscores. -/
def validName (name : String) : Bool :=
  match name.toList with
  | [] => false
  | first :: rest => first.isAlpha && rest.all fun c => c.isAlphanum || c == '_'

/-! ## Names are listed once -/

theorem mem_addName {seen : List String} {name x : String} :
    x ∈ addName seen name ↔ x ∈ seen ∨ x = name := by
  unfold addName
  split
  · constructor
    · exact Or.inl
    · rintro (h | rfl) <;> assumption
  · simp

theorem nodup_addName {seen : List String} (h : seen.Nodup) (name : String) :
    (addName seen name).Nodup := by
  unfold addName
  split
  · exact h
  · next hn =>
    rw [List.nodup_append]
    exact ⟨h, by simp, fun a ha b hb hab => hn (by simp_all)⟩

theorem nodup_foldl_addName (xs : List String) :
    ∀ seen : List String, seen.Nodup → (xs.foldl addName seen).Nodup := by
  induction xs with
  | nil => intro _ h; exact h
  | cons x xs ih => intro seen h; exact ih _ (nodup_addName h x)

/-- No name is listed twice. -/
theorem nodup_names (tokens : List Token) : (names tokens).Nodup :=
  nodup_foldl_addName _ [] List.nodup_nil

end Token

end PathTemplate
