import PathTemplate.Regex.Grouping
/-!
# Putting lexemes together

What a row of lexemes adds to the expression around it. `Builds` is about lexemes whose groups are
closed and that add parts to the current row; `Fills` is about all that stands between the two ends
of a group, where bars may split the row. Groups are numbered by how many have been opened before.
-/

namespace PathTemplate.Regex

/-- Parts in a row, given in order. -/
def Expr.series : List Expr → Expr
  | [] => empty
  | [e] => e
  | e :: es => cat e (series es)

theorem Expr.row_reverse (es : List Expr) : Expr.row es.reverse = Expr.series es := by
  induction es with
  | nil => rfl
  | cons e es ih =>
    cases hr : es.reverse with
    | nil =>
      obtain rfl := List.reverse_eq_nil_iff.1 hr
      rfl
    | cons last before =>
      have hs : series (e :: es) = cat e (series es) := by
        cases es with
        | nil => cases hr
        | cons _ _ => rfl
      rw [hs, ← ih, List.reverse_cons, hr, List.cons_append, row, List.foldl_append, row]
      rfl

/-! ## What a lexeme needs and does -/

namespace Assembly

variable {a a' : Assembly}

theorem enterCapture_eq_some {name : Option String} :
    a.enterCapture name = some a' ↔ (∀ x ∈ a.names, some x ≠ name) ∧
      a' = { a.enter (.capture (a.captures + 1) name) with
        captures := a.captures + 1
        names := name.toList ++ a.names } := by
  unfold enterCapture
  split
  · next h =>
    obtain ⟨x, hx, he⟩ := List.any_eq_true.1 h
    exact ⟨nofun, fun h => absurd (of_decide_eq_true he) (h.1 x hx)⟩
  · next h =>
    rw [Bool.not_eq_true, List.any_eq_false] at h
    have hn : ∀ x ∈ a.names, some x ≠ name := fun x hx he => h x hx (decide_eq_true he)
    rw [and_iff_right hn, Option.some.injEq, eq_comm]

theorem leave_eq_some : a.leave = some a' ↔ ∃ kind before outer, a.outer = (kind, before) :: outer ∧
    a' = { a with parts := before.push (kind.wrap a.parts.toExpr), outer := outer } := by
  unfold leave
  split
  · next h => simp [h]
  · next h =>
    rw [h]
    constructor
    · rintro ⟨⟩
      exact ⟨_, _, _, rfl, rfl⟩
    · rintro ⟨_, _, _, ⟨⟩, rfl⟩
      rfl

theorem repeatLast_eq_some {min : Nat} {max : Option Nat} {greedy : Bool} :
    a.repeatLast min max greedy = some a' ↔
      ∃ e before, a.parts.row = e :: before ∧ (∀ change, e ≠ .flags change) ∧
        a' = { a with parts := { a.parts with row := .rep min max greedy e :: before } } := by
  unfold repeatLast
  split
  · next h => simp [h]
  · next h => simp [h]
  · next hf h =>
    rw [h]
    constructor
    · rintro ⟨⟩
      exact ⟨_, _, rfl, hf, rfl⟩
    · rintro ⟨_, _, ⟨⟩, -, rfl⟩
      rfl

end Assembly

/-! ## Rows and groups -/

/-- The lexemes add parts to the row in which they stand, if so many groups have been opened before
and none has one of the names. -/
def Builds (ls : List Lexeme) (before after : Nat) (names : List String) (es : List Expr) : Prop :=
  ∀ a : Assembly, a.captures = before → (∀ name ∈ names, name ∉ a.names) →
    ls.foldlM Assembly.add a = some { a with
      parts := { a.parts with row := es.reverse ++ a.parts.row }
      captures := after
      names := names.reverse ++ a.names }

/-- The lexemes make up the expression of the group in which they stand. -/
def Fills (ls : List Lexeme) (before after : Nat) (names : List String) (e : Expr) : Prop :=
  ∀ a : Assembly, a.parts = {} → a.captures = before → (∀ name ∈ names, name ∉ a.names) →
    ∃ parts : Parts, parts.toExpr = e ∧
      ls.foldlM Assembly.add a = some { a with
        parts := parts
        captures := after
        names := names.reverse ++ a.names }

variable {ls ms : List Lexeme} {before mid after : Nat} {names more : List String}
  {es fs : List Expr} {e : Expr}

namespace Builds

theorem nil (n : Nat) : Builds [] n n [] [] := by
  rintro a rfl -
  rfl

theorem append (h₁ : Builds ls before mid names es) (h₂ : Builds ms mid after more fs)
    (hd : ∀ name ∈ more, name ∉ names) :
    Builds (ls ++ ms) before after (names ++ more) (es ++ fs) := by
  intro a ha hn
  rw [List.foldlM_append, h₁ a ha fun name h => hn name (List.mem_append_left _ h)]
  refine (h₂ _ rfl fun name h => ?_).trans ?_
  · simp only [List.mem_append, List.mem_reverse, not_or]
    exact ⟨hd name h, hn name (List.mem_append_right _ h)⟩
  · simp

theorem atom (e : Expr) (n : Nat) : Builds [.atom e] n n [] [e] := by
  rintro a rfl -
  rfl

theorem flags (change : FlagChange) (n : Nat) :
    Builds [.opening (.flags change)] n n [] [.flags change] := by
  rintro a rfl -
  rfl

theorem atoms {α : Type} (f : α → Expr) (n : Nat) (xs : List α) :
    Builds (xs.map fun x => .atom (f x)) n n [] (xs.map f) := by
  induction xs with
  | nil => exact nil n
  | cons x xs ih => exact (atom (f x) n).append ih (by simp)

/-- A repetition takes the last part. -/
theorem rep (h : Builds ls before after names [e]) (he : ∀ change, e ≠ .flags change) (min : Nat)
    (max : Option Nat) (greedy : Bool) :
    Builds (ls ++ [.rep min max greedy]) before after names [.rep min max greedy e] := by
  intro a ha hn
  rw [List.foldlM_append, h a ha hn]
  cases e with
  | flags change => exact absurd rfl (he change)
  | _ => rfl

/-- Parts in a row fill a group. -/
theorem fills (h : Builds ls before after names es) : Fills ls before after names (.series es) := by
  intro a hp ha hn
  refine ⟨⟨[], es.reverse⟩, Expr.row_reverse es, (h a ha hn).trans ?_⟩
  rw [hp]
  simp

end Builds

namespace Fills

theorem group (h : Fills ls before after names e) (change : FlagChange) :
    Builds (.opening (.group change) :: (ls ++ [.close])) before after names [.group change e] := by
  intro a ha hn
  obtain ⟨parts, rfl, hf⟩ := h (a.enter (.group change)) rfl ha hn
  rw [List.foldlM_cons]
  change (ls ++ [Lexeme.close]).foldlM Assembly.add (a.enter (.group change)) = _
  rw [List.foldlM_append, hf]
  rfl

theorem capture {name : String} (h : Fills ls (before + 1) after names e) (hn : name ∉ names) :
    Builds (.opening (.capture (some name)) :: (ls ++ [.close])) before after (name :: names)
      [.capture (before + 1) (some name) e] := by
  rintro a rfl ha
  have hfree : ∀ x ∈ a.names, some x ≠ some name := by
    rintro x hx ⟨⟩
    exact ha name List.mem_cons_self hx
  have hadd : a.add (.opening (.capture (some name))) =
      some { a.enter (.capture (a.captures + 1) (some name)) with
        captures := a.captures + 1
        names := name :: a.names } := Assembly.enterCapture_eq_some.2 ⟨hfree, rfl⟩
  obtain ⟨parts, rfl, hf⟩ := h { a.enter (.capture (a.captures + 1) (some name)) with
      captures := a.captures + 1
      names := name :: a.names } rfl rfl (by
    intro x hx
    rw [List.mem_cons, not_or]
    exact ⟨fun he => hn (he ▸ hx), ha x (List.mem_cons_of_mem _ hx)⟩)
  rw [List.foldlM_cons, hadd]
  change (ls ++ [Lexeme.close]).foldlM Assembly.add _ = _
  rw [List.foldlM_append, hf]
  simp [Assembly.add, Assembly.leave, Assembly.enter, GroupKind.wrap, Parts.push]

end Fills

/-- Lexemes that close all their groups are an expression. -/
theorem ofLexemes?_of_builds (h : Builds ls 0 after names es) :
    Expr.ofLexemes? ls = some (.series es) := by
  obtain ⟨parts, hp, hf⟩ := h.fills {} rfl rfl (by simp)
  rw [Expr.ofLexemes?, hf, ← hp]
  rfl

end PathTemplate.Regex
