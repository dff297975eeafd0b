import PathTemplate.Proofs.Openings
import PathTemplate.Regex.Meaning
/-!
# Expressions within others

The lexemes of an expression make the same expression wherever they stand, except that its groups
are numbered after those that were opened before (`Assembly.foldlM_within`). The numbers have no
influence on whether an expression has a meaning, nor on the flags that it leaves behind
(`Expr.flagsAfter?_renumber`).
-/

namespace PathTemplate.Regex

namespace Expr

/-- The expression where it comes after `n` groups that keep their text. -/
def renumber (n : Nat) : Expr → Expr
  | rep min max greedy e => rep min max greedy (e.renumber n)
  | capture index name e => capture (n + index) name (e.renumber n)
  | group change e => group change (e.renumber n)
  | cat a b => cat (a.renumber n) (b.renumber n)
  | alt a b => alt (a.renumber n) (b.renumber n)
  | e => e

variable {n : Nat}

theorem renumber_of_openings_eq_nil {e : Expr} (h : e.openings = []) : e.renumber n = e := by
  induction e with
  | rep min max greedy e ih => rw [renumber, ih h]
  | capture index name e => cases h
  | group change e => cases h
  | cat a b iha ihb =>
    obtain ⟨ha, hb⟩ := List.append_eq_nil_iff.1 h
    rw [renumber, iha ha, ihb hb]
  | alt a b iha ihb =>
    obtain ⟨ha, hb⟩ := List.append_eq_nil_iff.1 h
    rw [renumber, iha ha, ihb hb]
  | _ => rfl

theorem eq_flags_of_renumber {e : Expr} {change : FlagChange} (h : e.renumber n = .flags change) :
    e = .flags change := by
  cases e with
  | flags => exact h
  | _ => cases h

theorem renumber_foldl {f : Expr → Expr → Expr}
    (hf : ∀ a b, (f a b).renumber n = f (a.renumber n) (b.renumber n)) (before : List Expr) :
    ∀ last, (before.foldl (fun after e => f e after) last).renumber n =
      (before.map (renumber n)).foldl (fun after e => f e after) (last.renumber n) := by
  induction before with
  | nil => intro last; rfl
  | cons e before ih =>
    intro last
    rw [List.foldl_cons, ih, hf]
    rfl

theorem renumber_row (es : List Expr) : (row es).renumber n = row (es.map (renumber n)) := by
  cases es with
  | nil => rfl
  | cons last before => exact renumber_foldl (f := cat) (fun _ _ => rfl) before last

theorem renumber_choice (es : List Expr) :
    (choice es).renumber n = choice (es.map (renumber n)) := by
  cases es with
  | nil => rfl
  | cons last before => exact renumber_foldl (f := alt) (fun _ _ => rfl) before last

end Expr

/-! ## Putting lexemes together -/

/-- The group where it comes after `n` others. -/
def GroupKind.renumber (n : Nat) : GroupKind → GroupKind
  | capture index name => capture (n + index) name
  | group change => group change

theorem GroupKind.renumber_wrap (n : Nat) (kind : GroupKind) (e : Expr) :
    (kind.wrap e).renumber n = (kind.renumber n).wrap (e.renumber n) := by
  cases kind <;> rfl

/-- What has been collected, where it comes after `n` groups. -/
def Parts.renumber (n : Nat) (p : Parts) : Parts where
  choices := p.choices.map (Expr.renumber n)
  row := p.row.map (Expr.renumber n)

theorem Parts.renumber_toExpr (n : Nat) (p : Parts) :
    (p.renumber n).toExpr = p.toExpr.renumber n := by
  rw [toExpr, toExpr, Expr.renumber_choice, List.map_cons, Expr.renumber_row]
  rfl

/-- No other group can have the name of the group that the lexeme opens. -/
def Lexeme.IsUnnamed (l : Lexeme) : Prop :=
  ∀ name, l ≠ .opening (.capture (some name))

namespace Assembly

/-- The same lexemes put together within the groups `outer`, after `n` groups with the names
`names`. -/
def within (n : Nat) (outer : List (GroupKind × Parts)) (names : List String) (a : Assembly) :
    Assembly where
  parts := a.parts.renumber n
  outer := a.outer.map (fun (kind, before) => (kind.renumber n, before.renumber n)) ++ outer
  captures := n + a.captures
  names := names

variable {n : Nat} {outer : List (GroupKind × Parts)} {names : List String}

/-- A lexeme that closes no group around does the same within other groups. -/
theorem add_within {a a' : Assembly} {l : Lexeme} (hp : l.IsPlain) (hu : l.IsUnnamed)
    (h : a.add l = some a') :
    (a.within n outer names).add l = some (a'.within n outer names) := by
  cases l with
  | atom e =>
    cases h
    have he : e.renumber n = e := Expr.renumber_of_openings_eq_nil (hp e rfl)
    simp [add, within, Parts.push, Parts.renumber, he]
  | opening what =>
    cases what with
    | capture name =>
      -- A name could be taken by a group around; without one the group is only numbered on.
      cases name with
      | none =>
        obtain ⟨-, rfl⟩ := enterCapture_eq_some.1 h
        refine enterCapture_eq_some.2 ⟨?_, ?_⟩
        · intro _ _ h
          cases h
        simp [enter, within, Parts.renumber, GroupKind.renumber, Nat.add_assoc]
      | some name => exact absurd rfl (hu name)
    | group change =>
      cases h
      rfl
    | flags change =>
      cases h
      rfl
  | close =>
    obtain ⟨kind, before, more, ho, rfl⟩ := leave_eq_some.1 h
    simp [add, leave, within, ho, Parts.push, Parts.renumber, GroupKind.renumber_wrap,
      ← Parts.renumber_toExpr]
  | bar =>
    cases h
    simp [add, within, Parts.renumber, Expr.renumber_row]
  | rep min max greedy =>
    obtain ⟨e, before, hr, hf, rfl⟩ := repeatLast_eq_some.1 h
    refine repeatLast_eq_some.2 ⟨e.renumber n, before.map (Expr.renumber n), ?_, ?_, rfl⟩
    · simp [within, Parts.renumber, hr]
    · exact fun change he => hf change (Expr.eq_flags_of_renumber he)

theorem foldlM_within {ls : List Lexeme} (hp : ∀ l ∈ ls, l.IsPlain)
    (hu : ∀ l ∈ ls, l.IsUnnamed) : ∀ {a a' : Assembly}, ls.foldlM add a = some a' →
      ls.foldlM add (a.within n outer names) = some (a'.within n outer names) := by
  induction ls with
  | nil =>
    intro a a' h
    cases h
    rfl
  | cons l ls ih =>
    intro a a' h
    rw [List.foldlM_cons] at h ⊢
    obtain ⟨mid, hl, h⟩ := Option.bind_eq_some_iff.1 h
    rw [add_within (hp l List.mem_cons_self) (hu l List.mem_cons_self) hl]
    exact ih (fun k hk => hp k (List.mem_cons_of_mem _ hk))
      (fun k hk => hu k (List.mem_cons_of_mem _ hk)) h

end Assembly

/-- Lexemes that make an expression fill a group with it. -/
theorem fills_of_ofLexemes? {ls : List Lexeme} {e : Expr} (hp : ∀ l ∈ ls, l.IsPlain)
    (hu : ∀ l ∈ ls, l.IsUnnamed) (h : Expr.ofLexemes? ls = some e) (n : Nat) :
    Fills ls n (n + e.captureCount) [] (e.renumber n) := by
  obtain ⟨a, ha, ho, rfl, hc, -⟩ := exists_foldlM_of_ofLexemes? hp h
  rintro b hb rfl -
  -- Where the group begins, nothing has been put together within it yet.
  have hw : ls.foldlM Assembly.add (Assembly.within b.captures b.outer b.names {}) =
      some (a.within b.captures b.outer b.names) := Assembly.foldlM_within hp hu ha
  refine ⟨a.parts.renumber b.captures, Parts.renumber_toExpr _ _, ?_⟩
  rw [← hc]
  cases b
  cases hb
  simpa [Assembly.within, ho, Parts.renumber] using hw

/-! ## Meaning -/

namespace Expr

/-- The flags after the expression, if it has a meaning under the flags before it. -/
def flagsAfter? (f : Flags) (e : Expr) : Option Flags :=
  (e.toTree? f).map (·.2)

theorem flagsAfter?_rep (f : Flags) (min : Nat) (max : Option Nat) (greedy : Bool) (e : Expr) :
    (rep min max greedy e).flagsAfter? f = e.flagsAfter? f := by
  rw [flagsAfter?, flagsAfter?, toTree?]
  cases e.toTree? f <;> rfl

theorem flagsAfter?_capture (f : Flags) (index : Nat) (name : Option String) (e : Expr) :
    (capture index name e).flagsAfter? f = (e.flagsAfter? f).map fun _ => f := by
  rw [flagsAfter?, flagsAfter?, toTree?]
  cases e.toTree? f <;> rfl

theorem flagsAfter?_group (f : Flags) (change : FlagChange) (e : Expr) :
    (group change e).flagsAfter? f = (e.flagsAfter? (f.change change)).map fun _ => f := by
  rw [flagsAfter?, flagsAfter?, toTree?]
  cases e.toTree? (f.change change) <;> rfl

theorem flagsAfter?_cat (f : Flags) (a b : Expr) :
    (cat a b).flagsAfter? f = (a.flagsAfter? f).bind (flagsAfter? · b) := by
  rw [flagsAfter?, flagsAfter?, toTree?]
  cases a.toTree? f with
  | none => rfl
  | some t =>
    simp only [Option.bind_eq_bind, Option.bind_some, Option.map_some, flagsAfter?]
    cases b.toTree? t.2 <;> rfl

theorem flagsAfter?_alt (f : Flags) (a b : Expr) :
    (alt a b).flagsAfter? f = (a.flagsAfter? f).bind (flagsAfter? · b) := by
  rw [flagsAfter?, flagsAfter?, toTree?]
  cases a.toTree? f with
  | none => rfl
  | some t =>
    simp only [Option.bind_eq_bind, Option.bind_some, Option.map_some, flagsAfter?]
    cases b.toTree? t.2 <;> rfl

theorem flagsAfter?_renumber (n : Nat) (e : Expr) :
    ∀ f, (e.renumber n).flagsAfter? f = e.flagsAfter? f := by
  induction e with
  | rep min max greedy e ih => intro f; rw [renumber, flagsAfter?_rep, flagsAfter?_rep, ih]
  | capture index name e ih =>
    intro f
    rw [renumber, flagsAfter?_capture, flagsAfter?_capture, ih]
  | group change e ih => intro f; rw [renumber, flagsAfter?_group, flagsAfter?_group, ih]
  | cat a b iha ihb =>
    intro f
    rw [renumber, flagsAfter?_cat, flagsAfter?_cat, iha]
    simp only [ihb]
  | alt a b iha ihb =>
    intro f
    rw [renumber, flagsAfter?_alt, flagsAfter?_alt, iha]
    simp only [ihb]
  | _ => intro f; rfl

end Expr

end PathTemplate.Regex
