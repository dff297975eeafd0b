import PathTemplate.Proofs.Search
import PathTemplate.Regex
/-!
# A regular expression finds its matches

The search of a compiled regular expression agrees with what its expression matches: what is found
is a match, and nothing is found exactly where there is no match.
-/

namespace PathTemplate.Regex

variable {r : Regex} {text : Array Char}

/-- What is found is a match. -/
theorem matches_of_find? {m : Match} (h : r.find? text = some m) :
    r.tree.Matches text ⟨m.start, []⟩ m.stop :=
  (r.tree.ends_program_iff _ _).1 (Search.ends_of_find? h).2

/-- What is found starts within the text. -/
theorem start_le_of_find? {m : Match} (h : r.find? text = some m) : m.start ≤ text.size :=
  (Search.ends_of_find? h).1

/-- No match starts further to the left than the one that is found. -/
theorem not_matches_before {m : Match} (h : r.find? text = some m) {i : Nat} (hi : i < m.start)
    (q : Progress) : ¬ r.tree.Matches text ⟨i, []⟩ q := fun hq =>
  Search.not_ends_before h hi ((r.tree.ends_program_iff _ _).2 hq)

/-- Something is found exactly where there is a match. -/
theorem isSome_find?_iff :
    (r.find? text).isSome = true ↔ ∃ i q, i ≤ text.size ∧ r.tree.Matches text ⟨i, []⟩ q := by
  constructor
  · intro h
    obtain ⟨m, hm⟩ := Option.isSome_iff_exists.1 h
    exact ⟨m.start, m.stop, start_le_of_find? hm, matches_of_find? hm⟩
  · rintro ⟨i, q, hi, hq⟩
    cases hf : r.find? text with
    | some m => rfl
    | none =>
      exact absurd ((r.tree.ends_program_iff _ _).2 hq) (Search.find?_eq_none_iff.1 hf i q hi)

end PathTemplate.Regex
