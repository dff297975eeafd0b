import PathTemplate.Regex.Search
/-!
# A program runs along the matches of its expression

`Accepts program text n t q` says that the thread `t` can reach the end of a match in `n` steps, at
`q`. Where the code of an expression stands in a program, a thread at its start accepts exactly when
some thread at its end does that the expression leads to (`Tree.implements`). So a program accepts
from its start what the expression matches (`Tree.ends_program_iff`).
-/

namespace PathTemplate.Regex

variable {program : Array Instr} {text : Array Char}

/-! ## Code in a program -/

/-- The instructions of a program from `start` on begin with `code`. -/
def Holds (program : Array Instr) (start : Nat) (code : List Instr) : Prop :=
  ∀ i x, code[i]? = some x → program[start + i]? = some x

namespace Holds

variable {start : Nat} {a b : List Instr} {x : Instr}

theorem left (h : Holds program start (a ++ b)) : Holds program start a := by
  intro i x hx
  have hi : i < a.length := (List.getElem?_eq_some_iff.1 hx).1
  exact h i x (by rw [List.getElem?_append_left hi, hx])

theorem right (h : Holds program start (a ++ b)) : Holds program (start + a.length) b := by
  intro i x hx
  have := h (a.length + i) x (by rw [List.getElem?_append_right (by omega)]; simpa using hx)
  rwa [← Nat.add_assoc] at this

theorem head (h : Holds program start (x :: a)) : program[start]? = some x :=
  h 0 x rfl

theorem tail (h : Holds program start (x :: a)) : Holds program (start + 1) a := by
  intro i y hy
  have := h (i + 1) y (by simpa using hy)
  rwa [show start + (i + 1) = start + 1 + i by omega] at this

end Holds

/-! ## Threads that accept -/

/-- A thread can reach the end of a match in `n` steps. -/
inductive Accepts (program : Array Instr) (text : Array Char) : Nat → Thread → Progress → Prop
  | done {t} (h : program[t.instr]? = some .accept) : Accepts program text 0 t t.toProgress
  | step {n t u x q} (hx : program[t.instr]? = some x) (hu : u ∈ t.next text x)
    (h : Accepts program text n u q) : Accepts program text (n + 1) t q

/-- A thread can reach the end of a match. -/
def Ends (program : Array Instr) (text : Array Char) (t : Thread) (q : Progress) : Prop :=
  ∃ n, Accepts program text n t q

/-- A thread at an instruction that does not end the match accepts along its successors. -/
theorem accepts_iff {t : Thread} {x : Instr} (hx : program[t.instr]? = some x) (ha : x ≠ .accept)
    {n : Nat} {q : Progress} :
    Accepts program text n t q ↔
      ∃ m, n = m + 1 ∧ ∃ u ∈ t.next text x, Accepts program text m u q := by
  constructor
  · intro h
    cases h with
    | done h => rw [hx] at h; exact absurd (Option.some.inj h) ha
    | step hy hu h =>
      rw [hx] at hy
      obtain rfl := Option.some.inj hy
      exact ⟨_, rfl, _, hu, h⟩
  · rintro ⟨m, rfl, u, hu, h⟩
    exact .step hx hu h

theorem ends_iff {t : Thread} {x : Instr} (hx : program[t.instr]? = some x) (ha : x ≠ .accept)
    {q : Progress} : Ends program text t q ↔ ∃ u ∈ t.next text x, Ends program text u q := by
  constructor
  · rintro ⟨n, h⟩
    obtain ⟨m, -, u, hu, h⟩ := (accepts_iff hx ha).1 h
    exact ⟨u, hu, m, h⟩
  · rintro ⟨u, hu, n, h⟩
    exact ⟨n + 1, .step hx hu h⟩

theorem accepts_jump {start target n : Nat} {p q : Progress}
    (hx : program[start]? = some (.jump target)) :
    Accepts program text n ⟨p, start⟩ q ↔
      ∃ m, n = m + 1 ∧ Accepts program text m ⟨p, target⟩ q := by
  rw [accepts_iff (t := ⟨p, start⟩) hx (by simp)]
  simp [Thread.next]

theorem ends_jump {start target : Nat} {p q : Progress}
    (hx : program[start]? = some (.jump target)) :
    Ends program text ⟨p, start⟩ q ↔ Ends program text ⟨p, target⟩ q := by
  rw [ends_iff (t := ⟨p, start⟩) hx (by simp)]
  simp [Thread.next]

theorem accepts_split {start first second n : Nat} {p q : Progress}
    (hx : program[start]? = some (.split first second)) :
    Accepts program text n ⟨p, start⟩ q ↔ ∃ m, n = m + 1 ∧
      (Accepts program text m ⟨p, first⟩ q ∨ Accepts program text m ⟨p, second⟩ q) := by
  rw [accepts_iff (t := ⟨p, start⟩) hx (by simp)]
  simp [Thread.next]

theorem ends_split {start first second : Nat} {p q : Progress}
    (hx : program[start]? = some (.split first second)) :
    Ends program text ⟨p, start⟩ q ↔
      Ends program text ⟨p, first⟩ q ∨ Ends program text ⟨p, second⟩ q := by
  rw [ends_iff (t := ⟨p, start⟩) hx (by simp)]
  simp [Thread.next]

/-- Whether a repetition is greedy only puts its two ways in order. -/
theorem accepts_choose {greedy : Bool} {start enter leave n : Nat} {p q : Progress}
    (hx : program[start]? = some (.choose greedy enter leave)) :
    Accepts program text n ⟨p, start⟩ q ↔ ∃ m, n = m + 1 ∧
      (Accepts program text m ⟨p, enter⟩ q ∨ Accepts program text m ⟨p, leave⟩ q) := by
  cases greedy with
  | true => exact accepts_split hx
  | false =>
    rw [accepts_split hx]
    simp only [or_comm]

theorem ends_choose {greedy : Bool} {start enter leave : Nat} {p q : Progress}
    (hx : program[start]? = some (.choose greedy enter leave)) :
    Ends program text ⟨p, start⟩ q ↔
      Ends program text ⟨p, enter⟩ q ∨ Ends program text ⟨p, leave⟩ q := by
  cases greedy with
  | true => exact ends_split hx
  | false =>
    rw [ends_split hx]
    exact or_comm

/-! ## Code that leads along a relation -/

/-- A thread at `start` accepts exactly when one at `stop` does that the relation leads to, and the
latter takes no more steps. -/
structure Implements (program : Array Instr) (text : Array Char) (start stop : Nat)
    (R : Progress → Progress → Prop) : Prop where
  ends {p m q} : R p m → Ends program text ⟨m, stop⟩ q → Ends program text ⟨p, start⟩ q
  leads {n p q} : Accepts program text n ⟨p, start⟩ q →
    ∃ m k, k ≤ n ∧ R p m ∧ Accepts program text k ⟨m, stop⟩ q

namespace Implements

variable {start mid stop : Nat} {R S : Progress → Progress → Prop}

theorem refl (program : Array Instr) (text : Array Char) (start : Nat) :
    Implements program text start start fun p q => q = p where
  ends h hq := h ▸ hq
  leads {n p _} h := ⟨p, n, Nat.le_refl n, rfl, h⟩

theorem seq (hr : Implements program text start mid R) (hs : Implements program text mid stop S) :
    Implements program text start stop fun p q => ∃ m, R p m ∧ S m q where
  ends := fun ⟨_, h₁, h₂⟩ hq => hr.ends h₁ (hs.ends h₂ hq)
  leads h := by
    obtain ⟨m, k, hk, h₁, h⟩ := hr.leads h
    obtain ⟨q, l, hl, h₂, h⟩ := hs.leads h
    exact ⟨q, l, Nat.le_trans hl hk, ⟨m, h₁, h₂⟩, h⟩

theorem congr (h : ∀ p q, R p q ↔ S p q) (hr : Implements program text start stop R) :
    Implements program text start stop S := by
  rwa [show S = R from funext fun p => funext fun q => propext (h p q).symm]

/-- An instruction whose successors are the threads at the next one that a relation leads to. -/
theorem single {x : Instr} (hx : program[start]? = some x) (ha : x ≠ .accept)
    (hn : ∀ p u, u ∈ Thread.next text ⟨p, start⟩ x ↔ ∃ m, R p m ∧ u = ⟨m, start + 1⟩) :
    Implements program text start (start + 1) R where
  ends := by
    intro p m q hr hq
    exact (ends_iff (t := ⟨p, start⟩) hx ha).2 ⟨_, (hn p _).2 ⟨m, hr, rfl⟩, hq⟩
  leads := by
    intro n p q h
    obtain ⟨k, rfl, u, hu, h⟩ := (accepts_iff (t := ⟨p, start⟩) hx ha).1 h
    obtain ⟨m, hr, rfl⟩ := (hn p u).1 hu
    exact ⟨m, k, Nat.le_succ k, hr, h⟩

/-! ### Repetitions -/

variable {body : Nat → List Instr} {len : Nat}

/-- The code of what is repeated leads along the relation wherever it stands. -/
def Body (program : Array Instr) (text : Array Char) (body : Nat → List Instr) (len : Nat)
    (R : Progress → Progress → Prop) : Prop :=
  ∀ start, Holds program start (body start) → Implements program text start (start + len) R

theorem copies (hl : ∀ p, (body p).length = len) (hb : Body program text body len R) (n : Nat) :
    ∀ start, Holds program start (Layout.copies body len n start) →
      Implements program text start (start + n * len) (Times R n) := by
  induction n with
  | zero =>
    intro start _
    simpa [Times] using refl program text start
  | succ n ih =>
    intro start h
    have h₁ := hb start h.left
    have h₂ := ih (start + len) (by simpa [hl] using h.right)
    rw [show start + (n + 1) * len = start + len + n * len by rw [Nat.succ_mul]; omega]
    exact h₁.seq h₂

theorem upTo (hl : ∀ p, (body p).length = len) (hb : Body program text body len R)
    (greedy : Bool) (n : Nat) :
    ∀ start, Holds program start (Layout.upTo body len greedy n start) →
      Implements program text start (start + n * (len + 1)) fun p q => ∃ k ≤ n, Times R k p q := by
  induction n with
  | zero =>
    intro start _
    have := refl program text start
    simpa [Times] using this
  | succ n ih =>
    intro start h
    have hc := h.head
    have h₁ := hb (start + 1) h.tail.left
    have h₂ := ih (start + 1 + len) (by simpa [hl] using h.tail.right)
    have he : start + 1 + len + n * (len + 1) = start + (n + 1) * (len + 1) := by
      rw [Nat.succ_mul]; omega
    rw [he] at h₂
    constructor
    · rintro p m q ⟨k, hk, hr⟩ hq
      rw [ends_choose hc]
      cases k with
      | zero => obtain rfl := hr; exact .inr hq
      | succ k =>
        obtain ⟨m', hr, hs⟩ := hr
        exact .inl (h₁.ends hr (h₂.ends ⟨k, by omega, hs⟩ hq))
    · intro j p q hq
      obtain ⟨j, rfl, hq | hq⟩ := (accepts_choose hc).1 hq
      · obtain ⟨m, i, hi, hr, hq⟩ := h₁.leads hq
        obtain ⟨m', i', hi', ⟨k, hk, hs⟩, hq⟩ := h₂.leads hq
        exact ⟨m', i', by omega, ⟨k + 1, by omega, m, hr, hs⟩, hq⟩
      · exact ⟨p, j, by omega, ⟨0, by omega, rfl⟩, hq⟩

theorem loop (hl : ∀ p, (body p).length = len) (hb : Body program text body len R)
    (greedy : Bool) (start : Nat) (h : Holds program start (Layout.loop body len greedy start)) :
    Implements program text start (start + len + 1) fun p q => ∃ k, 1 ≤ k ∧ Times R k p q := by
  have h₁ := hb start h.left
  have hc : program[start + len]? = some (.choose greedy start (start + len + 1)) := by
    simpa [hl] using h.right.head
  constructor
  · rintro p m q ⟨k, hk, hr⟩ hq
    induction k generalizing p with
    | zero => omega
    | succ k ih =>
      obtain ⟨m', hr, hs⟩ := hr
      refine h₁.ends hr ((ends_choose hc).2 ?_)
      cases k with
      | zero => obtain rfl := hs; exact .inr hq
      | succ k => exact .inl (ih (by omega) hs)
  · intro n
    -- Each round takes a step, the choice after it, even where it takes nothing of the text.
    induction n using Nat.strongRecOn with
    | _ n ih =>
      intro p q hq
      obtain ⟨m, i, hi, hr, hq⟩ := h₁.leads hq
      obtain ⟨i, rfl, hq | hq⟩ := (accepts_choose hc).1 hq
      · obtain ⟨m', j, hj, ⟨k, hk, hs⟩, hq⟩ := ih i (by omega) hq
        exact ⟨m', j, by omega, ⟨k + 1, by omega, m, hr, hs⟩, hq⟩
      · exact ⟨m, i, by omega, ⟨1, by omega, m, hr, rfl⟩, hq⟩

/-- Going round through a choice at the start, as often as the choice says. -/
theorem around (hl : ∀ p, (body p).length = len) (hb : Body program text body len R) {greedy : Bool}
    (start : Nat) (hc : program[start]? = some (.choose greedy (start + 1) (start + len + 2)))
    (h : Holds program (start + 1) (body (start + 1) ++ [.jump start])) :
    Implements program text start (start + len + 2) fun p q => ∃ k, Times R k p q := by
  have h₁ := hb (start + 1) h.left
  have hj : program[start + 1 + len]? = some (.jump start) := by simpa [hl] using h.right.head
  constructor
  · rintro p m q ⟨k, hr⟩ hq
    induction k generalizing p with
    | zero => obtain rfl := hr; exact (ends_choose hc).2 (.inr hq)
    | succ k ih =>
      obtain ⟨m', hr, hs⟩ := hr
      exact (ends_choose hc).2 (.inl (h₁.ends hr ((ends_jump hj).2 (ih hs))))
  · intro n
    induction n using Nat.strongRecOn with
    | _ n ih =>
      intro p q hq
      obtain ⟨n, rfl, hq | hq⟩ := (accepts_choose hc).1 hq
      · obtain ⟨m, i, hi, hr, hq⟩ := h₁.leads hq
        obtain ⟨l, rfl, hl⟩ := (accepts_jump hj).1 hq
        obtain ⟨m', j, hj, ⟨k, hs⟩, hq⟩ := ih l (by omega) hl
        exact ⟨m', j, by omega, ⟨k + 1, m, hr, hs⟩, hq⟩
      · exact ⟨p, n, by omega, ⟨0, rfl⟩, hq⟩

/-- Going on along a relation, or straight to its end. -/
theorem optional {greedy : Bool} {stop' : Nat}
    (hc : program[start]? = some (.choose greedy (start + 1) stop))
    (hr : Implements program text (start + 1) stop' R) (he : stop' = stop) :
    Implements program text start stop fun p q => q = p ∨ R p q := by
  subst he
  constructor
  · rintro p m q (rfl | h) hq
    · exact (ends_choose hc).2 (.inr hq)
    · exact (ends_choose hc).2 (.inl (hr.ends h hq))
  · intro n p q hq
    obtain ⟨n, rfl, hq | hq⟩ := (accepts_choose hc).1 hq
    · obtain ⟨m, k, hk, h, hq⟩ := hr.leads hq
      exact ⟨m, k, by omega, .inr h, hq⟩
    · exact ⟨p, n, by omega, .inl rfl, hq⟩

/-- Going one of two ways. Past the first one comes a jump to where the second one ends. -/
theorem either {first second : Nat} (hs : program[start]? = some (.split first second))
    (hr : Implements program text first mid R) (hj : program[mid]? = some (.jump stop))
    (hs' : Implements program text second stop S) :
    Implements program text start stop fun p q => R p q ∨ S p q := by
  constructor
  · rintro p m q (h | h) hq
    · exact (ends_split hs).2 (.inl (hr.ends h ((ends_jump hj).2 hq)))
    · exact (ends_split hs).2 (.inr (hs'.ends h hq))
  · intro n p q hq
    obtain ⟨n, rfl, hq | hq⟩ := (accepts_split hs).1 hq
    · obtain ⟨m, k, hk, h, hq⟩ := hr.leads hq
      obtain ⟨j, rfl, hj⟩ := (accepts_jump hj).1 hq
      exact ⟨m, j, by omega, .inl h, hj⟩
    · obtain ⟨m, k, hk, h, hq⟩ := hs'.leads hq
      exact ⟨m, k, by omega, .inr h, hq⟩

end Implements

/-! ## The code of an expression -/

namespace Tree

open Implements

theorem implements_alt {a b : Tree} (ha : Body program text a.code a.size (a.Matches text))
    (hb : Body program text b.code b.size (b.Matches text)) :
    Body program text (alt a b).code (alt a b).size ((alt a b).Matches text) := by
  intro start h
  have hj : program[start + 1 + a.size]? = some (.jump (start + a.size + b.size + 2)) := by
    simpa using h.tail.right.head
  have hb := hb (start + a.size + 2) (by
    have := h.tail.right.tail
    rwa [length_code, show start + 1 + a.size + 1 = start + a.size + 2 by omega] at this)
  rw [show start + a.size + 2 + b.size = start + a.size + b.size + 2 by omega] at hb
  rw [show start + (alt a b).size = start + a.size + b.size + 2 by simp only [size]; omega]
  exact either h.head (ha (start + 1) h.tail.left) hj hb

theorem implements_group {r : Tree} (hr : Body program text r.code r.size (r.Matches text))
    (index : Nat) (name : Option String) :
    Body program text (group index name r).code (group index name r).size
      ((group index name r).Matches text) := by
  intro start h
  have h₀ : Implements program text start (start + 1) fun p q => q = p.note (.start index) :=
    single h.head (by simp) fun p u => by simp [Thread.next]
  have h₁ := hr (start + 1) h.tail.left
  have h₂ : Implements program text (start + 1 + r.size) (start + 1 + r.size + 1)
      fun p q => q = p.note (.stop index) :=
    single (by simpa using h.tail.right.head) (by simp) fun p u => by simp [Thread.next]
  have := (h₀.seq h₁).seq h₂
  rw [show start + (group index name r).size = start + 1 + r.size + 1 by simp only [size]; omega]
  simpa [Matches] using this

section Rep

variable {r : Tree} (hr : Body program text r.code r.size (r.Matches text)) (greedy : Bool)
include hr

/-- The rounds that are needed come first, and then those that may be left out. -/
theorem implements_rep_some (min max : Nat) :
    Body program text (rep min (some max) greedy r).code (rep min (some max) greedy r).size
      ((rep min (some max) greedy r).Matches text) := by
  intro start h
  have h₁ := copies r.length_code hr min start h.left
  have h₂ := upTo r.length_code hr greedy (max - min) (start + min * r.size) (by
    simpa [Layout.length_copies r.length_code] using h.right)
  rw [size, ← Nat.add_assoc]
  refine (h₁.seq h₂).congr fun p q => ?_
  simp only [Matches, times_add, Option.all_some, decide_eq_true_eq]
  constructor
  · rintro ⟨m, hm, k, hk, hq⟩
    exact ⟨k, hk, m, hm, hq⟩
  · rintro ⟨k, hk, m, hm, hq⟩
    exact ⟨m, hm, k, hk, hq⟩

theorem implements_rep_zero :
    Body program text (rep 0 none greedy r).code (rep 0 none greedy r).size
      ((rep 0 none greedy r).Matches text) := by
  intro start h
  have hc := h.head
  have ht := h.tail
  rw [size]
  -- What may match the empty text is laid out as an optional loop of at least one round.
  split at ht
  · refine (around r.length_code hr start hc ht).congr fun p q => ?_
    simp [Matches]
  · have hl := loop r.length_code hr greedy (start + 1) ht
    refine (optional hc hl (by omega)).congr fun p q => ?_
    simp only [Matches, Option.all_none, true_and, Nat.zero_add]
    constructor
    · rintro (rfl | ⟨k, -, hk⟩)
      · exact ⟨0, rfl⟩
      · exact ⟨k, hk⟩
    · rintro ⟨k, hk⟩
      cases k with
      | zero => exact .inl hk
      | succ k => exact .inr ⟨k + 1, by omega, hk⟩

/-- The last of the rounds that are needed is the one that comes again. -/
theorem implements_rep_succ (n : Nat) :
    Body program text (rep (n + 1) none greedy r).code (rep (n + 1) none greedy r).size
      ((rep (n + 1) none greedy r).Matches text) := by
  intro start h
  have h₁ := copies r.length_code hr n start h.left
  have h₂ := loop r.length_code hr greedy (start + n * r.size) (by
    simpa [Layout.length_copies r.length_code] using h.right)
  rw [size, ← Nat.add_assoc, ← Nat.add_assoc]
  refine (h₁.seq h₂).congr fun p q => ?_
  simp only [Matches, Option.all_none, true_and]
  constructor
  · rintro ⟨m, hm, k, hk, hq⟩
    refine ⟨k - 1, ?_⟩
    rw [show n + 1 + (k - 1) = n + k by omega]
    exact (times_add n k).2 ⟨m, hm, hq⟩
  · rintro ⟨k, hk⟩
    rw [show n + 1 + k = n + (k + 1) by omega, times_add] at hk
    obtain ⟨m, hm, hq⟩ := hk
    exact ⟨m, hm, k + 1, by omega, hq⟩

end Rep

/-- The code of an expression leads along its matches. -/
theorem implements (r : Tree) : Body program text r.code r.size (r.Matches text) := by
  induction r with
  | empty => exact fun start _ => refl _ _ start
  | set s =>
    intro start h
    refine single h.head (by simp) fun p u => ?_
    cases ht : p.take? text s <;> simp [Thread.next, Matches, ht]
  | look l =>
    intro start h
    refine single h.head (by simp) fun p u => ?_
    cases hm : p.meets text l <;> simp [Thread.next, Matches, hm]
  | cat a b iha ihb =>
    intro start h
    rw [size, ← Nat.add_assoc]
    exact (iha start h.left).seq (ihb _ (by simpa using h.right))
  | alt a b iha ihb => exact implements_alt iha ihb
  | group index name r ih => exact implements_group ih index name
  | rep min max greedy r ih =>
    cases max with
    | some max => exact implements_rep_some ih greedy min max
    | none =>
      cases min with
      | zero => exact implements_rep_zero ih greedy
      | succ n => exact implements_rep_succ ih greedy n

/-- A program reaches the end of a match exactly where its expression leads. -/
theorem ends_program_iff (r : Tree) (p q : Progress) :
    Ends r.program text ⟨p, 0⟩ q ↔ r.Matches text p q := by
  have hcode : Holds r.program 0 (r.code 0 ++ [Instr.accept]) := by
    intro i x hx
    simpa [program] using hx
  have himp : Implements r.program text 0 (0 + r.size) (r.Matches text) :=
    r.implements 0 hcode.left
  have hend : r.program[0 + r.size]? = some .accept := by simpa using hcode.right.head
  have hdone : ∀ m, Ends r.program text ⟨m, 0 + r.size⟩ q ↔ q = m := by
    intro m
    constructor
    · rintro ⟨n, h⟩
      cases h with
      | done h => rfl
      | step hx hu h =>
        rw [hend] at hx
        obtain rfl := Option.some.inj hx
        simp [Thread.next] at hu
    · rintro rfl
      exact ⟨0, .done (t := ⟨q, 0 + r.size⟩) hend⟩
  constructor
  · rintro ⟨n, h⟩
    obtain ⟨m, k, -, hr, h⟩ := himp.leads h
    obtain rfl := (hdone m).1 ⟨k, h⟩
    exact hr
  · intro h
    exact himp.ends h ((hdone q).2 rfl)

end Tree

end PathTemplate.Regex
