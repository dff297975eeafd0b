import PathTemplate.Regex.Matching
/-!
# Programs

A regular expression is laid out as a list of instructions. An instruction goes on with the one
after it unless it says otherwise, so expressions in a row are laid out in a row; `Tree.code` gives
the instructions of an expression that starts at a given place, and there are `Tree.size` of them.

What is repeated any number of times comes back to the one choice between another round and leaving.
If it may match the empty text, it is laid out as an optional repetition of at least one round, so
that a round which takes nothing comes to a choice of its own and can leave from there.
-/

namespace PathTemplate.Regex

/-- An instruction. -/
inductive Instr where
  /-- Takes a character of a set. -/
  | take (s : CharSet)
  /-- Goes on where a condition holds. -/
  | look (l : Look)
  /-- Notes the place in a slot. -/
  | save (slot : Slot)
  /-- Goes on at the first target, or else at the second. -/
  | split (first second : Nat)
  /-- Goes on at a target. -/
  | jump (target : Nat)
  /-- Ends the match. -/
  | accept
  deriving DecidableEq, Repr, Inhabited

namespace Instr

/-- A choice between going into a repetition and leaving it. -/
def choose (greedy : Bool) (enter leave : Nat) : Instr :=
  if greedy then split enter leave else split leave enter

end Instr

/-! ## Repetitions

They are laid out from the code `body` of what is repeated, which has `len` instructions wherever it
starts. -/

namespace Layout

/-- A fixed number of times. -/
def copies (body : Nat → List Instr) (len : Nat) : Nat → Nat → List Instr
  | 0, _ => []
  | n + 1, start => body start ++ copies body len n (start + len)

/-- At most a number of times. Leaving goes to the end of all. -/
def upTo (body : Nat → List Instr) (len : Nat) (greedy : Bool) : Nat → Nat → List Instr
  | 0, _ => []
  | n + 1, start =>
    .choose greedy (start + 1) (start + (n + 1) * (len + 1)) ::
      (body (start + 1) ++ upTo body len greedy n (start + 1 + len))

/-- At least once. -/
def loop (body : Nat → List Instr) (len : Nat) (greedy : Bool) (start : Nat) : List Instr :=
  body start ++ [.choose greedy start (start + len + 1)]

theorem length_copies {body : Nat → List Instr} {len : Nat} (h : ∀ p, (body p).length = len)
    (n : Nat) : ∀ p, (copies body len n p).length = n * len := by
  induction n with
  | zero => simp [copies]
  | succ n ih =>
    intro p
    rw [copies, List.length_append, h, ih, Nat.succ_mul, Nat.add_comm]

theorem length_upTo {body : Nat → List Instr} {len : Nat} (h : ∀ p, (body p).length = len)
    (greedy : Bool) (n : Nat) : ∀ p, (upTo body len greedy n p).length = n * (len + 1) := by
  induction n with
  | zero => simp [upTo]
  | succ n ih =>
    intro p
    rw [upTo, List.length_cons, List.length_append, h, ih, Nat.succ_mul]
    omega

end Layout

namespace Tree

/-- The number of instructions of an expression. -/
def size : Tree → Nat
  | empty => 0
  | set _ => 1
  | look _ => 1
  | cat a b => a.size + b.size
  | alt a b => a.size + b.size + 2
  | group _ _ r => r.size + 2
  | rep min (some max) _ r => min * r.size + (max - min) * (r.size + 1)
  | rep 0 none _ r => r.size + 2
  | rep (n + 1) none _ r => n * r.size + (r.size + 1)

/-- The instructions of an expression, the first of them at `start`. -/
def code : Tree → Nat → List Instr
  | empty, _ => []
  | set s, _ => [.take s]
  | look l, _ => [.look l]
  | cat a b, start => a.code start ++ b.code (start + a.size)
  | alt a b, start =>
    .split (start + 1) (start + a.size + 2) ::
      (a.code (start + 1) ++
        .jump (start + a.size + b.size + 2) :: b.code (start + a.size + 2))
  | group index _ r, start =>
    .save (.start index) :: (r.code (start + 1) ++ [.save (.stop index)])
  | rep min (some max) greedy r, start =>
    Layout.copies r.code r.size min start ++
      Layout.upTo r.code r.size greedy (max - min) (start + min * r.size)
  | rep 0 none greedy r, start =>
    .choose greedy (start + 1) (start + r.size + 2) ::
      if r.advances then r.code (start + 1) ++ [.jump start]
      else Layout.loop r.code r.size greedy (start + 1)
  | rep (n + 1) none greedy r, start =>
    Layout.copies r.code r.size n start ++ Layout.loop r.code r.size greedy (start + n * r.size)

/-- The size is the number of instructions, wherever they start. -/
@[simp] theorem length_code (r : Tree) : ∀ start, (r.code start).length = r.size := by
  induction r with
  | empty => intro _; rfl
  | set _ => intro _; rfl
  | look _ => intro _; rfl
  | cat a b iha ihb => intro start; rw [code, List.length_append, iha, ihb, size]
  | alt a b iha ihb =>
    intro start
    rw [code, List.length_cons, List.length_append, List.length_cons, iha, ihb, size]
    omega
  | group index name r ih =>
    intro start
    rw [code, List.length_cons, List.length_append, ih, size]
    rfl
  | rep min max greedy r ih =>
    intro start
    match min, max with
    | min, some max =>
      rw [code, List.length_append, Layout.length_copies ih, Layout.length_upTo ih, size]
    | 0, none =>
      rw [code, List.length_cons, Layout.loop, size]
      split <;> rw [List.length_append, ih] <;> rfl
    | n + 1, none =>
      rw [code, List.length_append, Layout.length_copies ih, Layout.loop, List.length_append, ih,
        size]
      rfl

/-- The instructions of a whole match. -/
def program (r : Tree) : Array Instr :=
  (r.code 0 ++ [Instr.accept]).toArray

end Tree

end PathTemplate.Regex
