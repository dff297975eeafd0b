import PathTemplate.Regex.Tree
/-!
# Matching

What an expression matches, said by its form alone: `r.Matches text p q` holds if `r` can lead from
`p` to `q`, where a progress is a place in the text together with the notes of where groups started
and ended. Which of several ways is preferred is no part of it.
-/

namespace PathTemplate.Regex

/-- What is noted on the way through a text. -/
inductive Slot where
  /-- Where a group starts. -/
  | start (group : Nat)
  /-- Where a group ends. -/
  | stop (group : Nat)
  deriving DecidableEq, Repr, Inhabited

/-- A place in a text, counted in characters, and what has been noted on the way there, latest
first. -/
structure Progress where
  place : Nat
  notes : List (Slot × Nat) := []
  deriving DecidableEq, Repr, Inhabited

namespace Progress

/-- Notes the place in a slot. -/
def note (p : Progress) (slot : Slot) : Progress :=
  { p with notes := (slot, p.place) :: p.notes }

/-- The character before the place. -/
def before? (text : Array Char) (p : Progress) : Option Char :=
  if p.place = 0 then none else text[p.place - 1]?

/-- The character after the place. -/
def after? (text : Array Char) (p : Progress) : Option Char :=
  text[p.place]?

/-- Whether a condition holds at the place. -/
def meets (text : Array Char) (p : Progress) (l : Look) : Bool :=
  l.holds (p.before? text) (p.after? text)

/-- The progress past the next character, if it is in a set. -/
def take? (text : Array Char) (p : Progress) (s : CharSet) : Option Progress :=
  match p.after? text with
  | some c => if s.contains c then some { p with place := p.place + 1 } else none
  | none => none

/-- Where a group last started and ended, if it took part. -/
def group? (p : Progress) (index : Nat) : Option (Nat × Nat) := do
  return (← p.notes.lookup (.start index), ← p.notes.lookup (.stop index))

/-- The text that a group matched last, if it took part. -/
def groupText? (text : Array Char) (p : Progress) (index : Nat) : Option String :=
  (p.group? index).map fun (start, stop) => String.ofList (text.extract start stop).toList

end Progress

/-- A relation, a number of times over. -/
def Times {α : Type} (R : α → α → Prop) : Nat → α → α → Prop
  | 0, p, q => q = p
  | n + 1, p, q => ∃ m, R p m ∧ Times R n m q

theorem times_add {α : Type} {R : α → α → Prop} (m n : Nat) :
    ∀ {p q : α}, Times R (m + n) p q ↔ ∃ x, Times R m p x ∧ Times R n x q := by
  induction m with
  | zero => simp [Times]
  | succ m ih =>
    intro p q
    rw [Nat.succ_add]
    simp only [Times, ih]
    constructor
    · rintro ⟨x, hx, y, hy, hq⟩
      exact ⟨y, ⟨x, hx, hy⟩, hq⟩
    · rintro ⟨y, ⟨x, hx, hy⟩, hq⟩
      exact ⟨x, hx, y, hy, hq⟩

namespace Tree

/-- Whether an expression can lead from one progress to another. A repetition goes on after its
least number of times for as many times more as there is room. -/
def Matches (text : Array Char) : Tree → Progress → Progress → Prop
  | empty, p, q => q = p
  | set s, p, q => p.take? text s = some q
  | look l, p, q => p.meets text l = true ∧ q = p
  | cat a b, p, q => ∃ m, a.Matches text p m ∧ b.Matches text m q
  | alt a b, p, q => a.Matches text p q ∨ b.Matches text p q
  | group index _ r, p, q =>
    ∃ m, r.Matches text (p.note (.start index)) m ∧ q = m.note (.stop index)
  | rep min max _ r, p, q =>
    ∃ n, max.all (n ≤ · - min) = true ∧ Times (r.Matches text) (min + n) p q

end Tree

end PathTemplate.Regex
