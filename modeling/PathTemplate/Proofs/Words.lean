import Mathlib.Computability.Language
import PathTemplate.Proofs.Contents
import PathTemplate.Proofs.Walk
/-!
# The words of an expression

An expression without conditions does not look around. What it matches is the same wherever it
stands: the words of a language, which is put together from the languages of its parts
(`Tree.spells_matches`).
-/

namespace PathTemplate.Regex

theorem mem_mul_singleton_iff {L : Language Char} {c : Char} {w : List Char} :
    w ∈ L * {[c]} ↔ ∃ d ∈ L, d ++ [c] = w := by
  rw [Language.mem_mul]
  constructor
  · rintro ⟨d, hd, _, rfl, he⟩
    exact ⟨d, hd, he⟩
  · rintro ⟨d, hd, he⟩
    exact ⟨d, hd, _, rfl, he⟩

/-- From every place, a relation leads to just those places that are past a word of the language. -/
def Spells (text : Array Char) (R : Progress → Progress → Prop) (L : Language Char) : Prop :=
  ∀ p k, (∃ q, R p q ∧ q.place = k) ↔ ∃ w ∈ L, At text p.place w ∧ p.place + w.length = k

namespace Spells

variable {text : Array Char} {R S : Progress → Progress → Prop} {L M : Language Char}

/-- Staying at a place is going past the empty word. -/
theorem stay : Spells text (fun p q => q = p) 1 := by
  intro p k
  simp [Language.mem_one, at_nil]

theorem comp (hR : Spells text R L) (hS : Spells text S M) :
    Spells text (fun p q => ∃ m, R p m ∧ S m q) (L * M) := by
  intro p k
  simp only [Language.mem_mul]
  constructor
  · rintro ⟨q, ⟨m, hm, hq⟩, rfl⟩
    obtain ⟨u, hu, hau, hpu⟩ := (hR p m.place).1 ⟨m, hm, rfl⟩
    obtain ⟨v, hv, hav, hpv⟩ := (hS m q.place).1 ⟨q, hq, rfl⟩
    rw [← hpu] at hav hpv
    refine ⟨u ++ v, ⟨u, hu, v, hv, rfl⟩, at_append.2 ⟨hau, hav⟩, ?_⟩
    rw [List.length_append, ← Nat.add_assoc, hpv]
  · rintro ⟨_, ⟨u, hu, v, hv, rfl⟩, ha, rfl⟩
    obtain ⟨hau, hav⟩ := at_append.1 ha
    obtain ⟨m, hm, hpm⟩ := (hR p _).2 ⟨u, hu, hau, rfl⟩
    rw [← hpm] at hav
    obtain ⟨q, hq, hpq⟩ := (hS m _).2 ⟨v, hv, hav, rfl⟩
    refine ⟨q, ⟨m, hm, hq⟩, ?_⟩
    rw [hpq, hpm, List.length_append, Nat.add_assoc]

theorem or (hR : Spells text R L) (hS : Spells text S M) :
    Spells text (fun p q => R p q ∨ S p q) (L + M) := by
  intro p k
  simp only [or_and_right, exists_or, Language.mem_add, hR p k, hS p k]

theorem times (hR : Spells text R L) (n : Nat) : Spells text (Times R n) (L ^ n) := by
  induction n with
  | zero =>
    rw [pow_zero]
    exact stay
  | succ n ih =>
    rw [pow_succ']
    exact hR.comp ih

end Spells

namespace Tree

/-- The words that an expression matches, if its conditions hold. -/
def words : Tree → Language Char
  | empty => 1
  | set s => {w | ∃ c, s.contains c = true ∧ w = [c]}
  | look _ => 1
  | cat a b => a.words * b.words
  | alt a b => a.words + b.words
  | group _ _ r => r.words
  | rep min max _ r => {w | ∃ n, max.all (n ≤ · - min) = true ∧ w ∈ r.words ^ (min + n)}

/-- The expression has no conditions. -/
abbrev IsUnconditional (r : Tree) : Prop :=
  r.All (fun _ => False) fun _ _ => True

variable {text : Array Char}

/-- Without conditions an expression goes on from any place by its words. -/
theorem spells_matches {r : Tree} (h : r.IsUnconditional) :
    Spells text (r.Matches text) r.words := by
  induction r with
  | empty => exact Spells.stay
  | set s =>
    intro p k
    simp only [matches_set_iff]
    constructor
    · rintro ⟨_, ⟨c, hc, ha, rfl⟩, rfl⟩
      exact ⟨[c], ⟨c, hc, rfl⟩, ha, rfl⟩
    · rintro ⟨_, ⟨c, hc, rfl⟩, ha, rfl⟩
      exact ⟨_, ⟨c, hc, ha, rfl⟩, rfl⟩
  | look l => exact absurd h id
  | cat a b iha ihb => exact (iha h.1).comp (ihb h.2)
  | alt a b iha ihb => exact (iha h.1).or (ihb h.2)
  | group index name r ih =>
    -- Noting where the group starts and ends leaves the place as it is.
    intro p k
    refine Iff.trans ?_ (ih h.2 (p.note (.start index)) k)
    constructor
    · rintro ⟨_, ⟨m, hm, rfl⟩, rfl⟩
      exact ⟨m, hm, rfl⟩
    · rintro ⟨m, hm, rfl⟩
      exact ⟨_, ⟨m, hm, rfl⟩, rfl⟩
  | rep min max greedy r ih =>
    intro p k
    constructor
    · rintro ⟨q, ⟨n, hn, ht⟩, rfl⟩
      obtain ⟨w, hw, ha⟩ := ((ih h).times (min + n) p q.place).1 ⟨q, ht, rfl⟩
      exact ⟨w, ⟨n, hn, hw⟩, ha⟩
    · rintro ⟨w, ⟨n, hn, hw⟩, ha⟩
      obtain ⟨q, ht, hq⟩ := ((ih h).times (min + n) p k).2 ⟨w, hw, ha⟩
      exact ⟨q, ⟨n, hn, ht⟩, hq⟩

/-- Parts in a row go on by the words of one after the other. -/
theorem spells_chain {rs : List Tree} (h : ∀ r ∈ rs, r.IsUnconditional) :
    Spells text (Chain text rs) (rs.map words).prod := by
  induction rs with
  | nil => exact Spells.stay
  | cons r rs ih =>
    obtain ⟨hr, h⟩ := List.forall_mem_cons.1 h
    exact (spells_matches hr).comp (ih h)

end Tree

end PathTemplate.Regex
