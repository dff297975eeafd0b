import Mathlib.Data.List.SplitBy
import PathTemplate.Proofs.Renumbering
/-!
# What expressions are made of

A property of the conditions and the groups of an expression is kept on the way from its source to
the tree that is matched: where every condition and every group that is written has it, so has every
one in the tree (`Expr.All.toTree?`). Factoring moves parts about and drops some, but makes none.

The groups that are read from a source are numbered from 1 on, in the order in which they are opened
(`Expr.all_captures_of_ofSource?`).
-/

namespace PathTemplate.Regex

/-! ## Trees -/

namespace Tree

/-- All conditions and all groups have a property. -/
def All (P : Look → Prop) (Q : Nat → Option String → Prop) : Tree → Prop
  | empty => True
  | set _ => True
  | look l => P l
  | cat a b => a.All P Q ∧ b.All P Q
  | alt a b => a.All P Q ∧ b.All P Q
  | group index name r => Q index name ∧ r.All P Q
  | rep _ _ _ r => r.All P Q

variable {P : Look → Prop} {Q : Nat → Option String → Prop} {r : Tree}

theorem All.of_mem_groups (h : r.All P Q) : ∀ g ∈ r.groups, Q g.1 g.2 := by
  induction r with
  | cat a b iha ihb | alt a b iha ihb =>
    intro g hg
    rcases List.mem_append.1 hg with hg | hg
    · exact iha h.1 g hg
    · exact ihb h.2 g hg
  | group index name r ih =>
    intro g hg
    rcases List.mem_cons.1 hg with rfl | hg
    · exact h.1
    · exact ih h.2 g hg
  | rep min max greedy r ih => exact ih h
  | _ => nofun

theorem all_iff_parts : r.All P Q ↔ ∀ s ∈ r.parts, s.All P Q := by
  induction r with
  | empty => simp [parts, All]
  | cat a b iha ihb => simp [parts, All, iha, ihb, or_imp, forall_and]
  | _ => simp [parts]

theorem all_iff_choices : r.All P Q ↔ ∀ s ∈ r.choices, s.All P Q := by
  induction r with
  | alt a b iha ihb => simp [choices, All, iha, ihb, or_imp, forall_and]
  | _ => simp [choices]

theorem all_ofParts_iff {rs : List Tree} : (ofParts rs).All P Q ↔ ∀ r ∈ rs, r.All P Q := by
  induction rs with
  | nil => simp [ofParts, All]
  | cons r rs ih =>
    cases rs with
    | nil => simp [ofParts]
    | cons s rs =>
      rw [ofParts, All, ih]
      · simp
      · simp

theorem All.ofChoices {rs : List Tree} (h : ∀ r ∈ rs, r.All P Q) : (ofChoices rs).All P Q := by
  induction rs with
  | nil => trivial
  | cons r rs ih =>
    obtain ⟨hr, h⟩ := List.forall_mem_cons.1 h
    cases rs with
    | nil => exact hr
    | cons s rs => exact ⟨hr, ih h⟩

/-- The parts in the pieces of a row are parts of the row. -/
theorem All.of_mem_pieces (h : r.All P Q) {piece : List Tree} (hp : piece ∈ r.pieces) :
    ∀ s ∈ piece, s.All P Q := by
  intro s hs
  refine all_iff_parts.1 h s ?_
  rw [← List.flatten_splitBy (fun a b => a.only?.isSome && b.only?.isSome) r.parts]
  exact List.mem_flatten.2 ⟨piece, hp, hs⟩

/-- Writing what alternatives begin with once makes no new conditions and no new groups. -/
theorem All.factorFrom (fuel : Nat) : ∀ {r : Tree}, r.All P Q → (factorFrom fuel r).All P Q := by
  induction fuel with
  | zero => exact id
  | succ fuel ih =>
    intro r h
    rw [Tree.factorFrom]
    dsimp only
    split
    · exact h
    split
    · trivial
    split
    · exact h
    · -- Each row is made of parts of the choice, in front and in what is left of it.
      have hrow : ∀ row ∈ r.choices.map pieces, ∀ piece ∈ row, ∀ s ∈ piece, s.All P Q := by
        intro row hr piece hp
        obtain ⟨a, ha, rfl⟩ := List.mem_map.1 hr
        exact (all_iff_choices.1 h a ha).of_mem_pieces hp
      refine all_ofParts_iff.2 fun s hs => ?_
      rcases List.mem_append.1 hs with hs | hs
      · obtain ⟨piece, hp, hs⟩ := List.mem_flatten.1 hs
        have hp := List.mem_of_mem_take hp
        cases hrows : r.choices.map pieces with
        | nil => rw [hrows] at hp; cases hp
        | cons row rows =>
          rw [hrows] at hp hrow
          exact hrow row List.mem_cons_self piece hp s hs
      · refine all_iff_parts.1 (ih (All.ofChoices ?_)) s hs
        intro a ha
        obtain ⟨row, hr, rfl⟩ := List.mem_map.1 ha
        refine all_ofParts_iff.2 fun s hs => ?_
        obtain ⟨piece, hp, hs⟩ := List.mem_flatten.1 hs
        exact hrow row hr piece (List.mem_of_mem_drop hp) s hs

theorem All.factored (h : r.All P Q) : r.factored.All P Q :=
  h.factorFrom r.partCount

theorem All.repeated (h : r.All P Q) (min : Nat) (max : Option Nat) (greedy : Bool) :
    (repeated min max greedy r).All P Q := by
  unfold Tree.repeated
  generalize (if r.isEmptyOnly then _ else _ : Nat × Option Nat) = bounds
  dsimp only
  split
  · trivial
  · split <;> exact h

end Tree

/-! ## Expressions -/

namespace Expr

/-- All assertions and all groups that keep their text have a property. -/
def All (A : Assertion → Prop) (C : Nat → Option String → Prop) : Expr → Prop
  | assert a => A a
  | rep _ _ _ e => e.All A C
  | capture index name e => C index name ∧ e.All A C
  | group _ e => e.All A C
  | cat a b => a.All A C ∧ b.All A C
  | alt a b => a.All A C ∧ b.All A C
  | _ => True

variable {A : Assertion → Prop} {C C' : Nat → Option String → Prop} {e : Expr}

/-- The expression has no assertions. -/
def IsUnconditional (e : Expr) : Prop :=
  e.All (fun _ => False) fun _ _ => True

theorem all_renumber_iff {n : Nat} :
    (e.renumber n).All A C ↔ e.All A fun index name => C (n + index) name := by
  induction e with
  | rep min max greedy e ih => exact ih
  | capture index name e ih => exact and_congr Iff.rfl ih
  | group change e ih => exact ih
  | cat a b iha ihb | alt a b iha ihb => exact and_congr iha ihb
  | _ => exact Iff.rfl

/-- What is known of the groups may be weakened by what is opened. -/
theorem All.imp (h : e.All A C)
    (hC : ∀ index name, .capture name ∈ e.openings → C index name → C' index name) :
    e.All A C' := by
  induction e with
  | rep min max greedy e ih => exact ih h hC
  | capture index name e ih =>
    exact ⟨hC index name List.mem_cons_self h.1,
      ih h.2 fun i n hm => hC i n (List.mem_cons_of_mem _ hm)⟩
  | group change e ih => exact ih h fun i n hm => hC i n (List.mem_cons_of_mem _ hm)
  | cat a b iha ihb | alt a b iha ihb =>
    exact ⟨iha h.1 fun i n hm => hC i n (List.mem_append_left _ hm),
      ihb h.2 fun i n hm => hC i n (List.mem_append_right _ hm)⟩
  | _ => exact h

/-- The tree of an expression has only the conditions and the groups of the expression. -/
theorem All.toTree? {P : Look → Prop} (hP : ∀ (f : Flags) a, A a → P (f.look a)) :
    ∀ {e : Expr} {f g : Flags} {r : Tree}, e.All A C → e.toTree? f = some (r, g) → r.All P C := by
  intro e
  induction e with
  | assert a =>
    rintro f g r h ⟨⟩
    exact hP f a h
  | rep min max greedy e ih =>
    intro f g r h ht
    obtain ⟨⟨s, f'⟩, hs, ht⟩ := Option.bind_eq_some_iff.1 ht
    cases ht
    exact (ih h hs).repeated min max _
  | capture index name e ih =>
    intro f g r h ht
    obtain ⟨⟨s, f'⟩, hs, ht⟩ := Option.bind_eq_some_iff.1 ht
    cases ht
    exact ⟨h.1, (ih h.2 hs).factored⟩
  | group change e ih =>
    intro f g r h ht
    obtain ⟨⟨s, f'⟩, hs, ht⟩ := Option.bind_eq_some_iff.1 ht
    cases ht
    exact (ih h hs).factored
  | cat a b iha ihb | alt a b iha ihb =>
    intro f g r h ht
    obtain ⟨⟨s, f'⟩, hs, ht⟩ := Option.bind_eq_some_iff.1 ht
    obtain ⟨⟨t, f''⟩, hb, ht⟩ := Option.bind_eq_some_iff.1 ht
    cases ht
    exact ⟨iha h.1 hs, ihb h.2 hb⟩
  | char c byte =>
    intro f g r _ ht
    rw [Expr.toTree?] at ht
    split at ht
    · cases ht
    · cases ht
      trivial
  | dot | short cls negated | property query negated | bracket negated inner =>
    intro f g r _ ht
    obtain ⟨s, -, ht⟩ := Option.map_eq_some_iff.1 ht
    cases ht
    trivial
  | _ =>
    rintro f g r _ ⟨⟩
    trivial

/-! ## Numbers of groups -/

/-- All groups are numbered from 1 to `n`. -/
abbrev IsNumbered (n : Nat) (e : Expr) : Prop :=
  e.All (fun _ => True) fun index _ => 0 < index ∧ index ≤ n

theorem all_of_openings_eq_nil (h : e.openings = []) : e.All (fun _ => True) C := by
  induction e with
  | rep min max greedy e ih => exact ih h
  | capture index name e => cases h
  | group change e => cases h
  | cat a b iha ihb | alt a b iha ihb =>
    obtain ⟨ha, hb⟩ := List.append_eq_nil_iff.1 h
    exact ⟨iha ha, ihb hb⟩
  | _ => trivial

theorem all_foldl_iff {f : Expr → Expr → Expr}
    (hf : ∀ a b, (f a b).All A C ↔ a.All A C ∧ b.All A C) (before : List Expr) :
    ∀ last, (before.foldl (fun after e => f e after) last).All A C ↔
      (∀ e ∈ before, e.All A C) ∧ last.All A C := by
  induction before with
  | nil => simp
  | cons e before ih =>
    intro last
    rw [List.foldl_cons, ih, hf]
    simp [and_left_comm, and_assoc]

theorem all_row_iff {es : List Expr} : (row es).All A C ↔ ∀ e ∈ es, e.All A C := by
  cases es with
  | nil => simp [row, All]
  | cons last before =>
    rw [row, all_foldl_iff (f := cat) fun _ _ => Iff.rfl]
    simp [and_comm]

theorem all_choice_iff {es : List Expr} : (choice es).All A C ↔ ∀ e ∈ es, e.All A C := by
  cases es with
  | nil => simp [choice, All]
  | cons last before =>
    rw [choice, all_foldl_iff (f := alt) fun _ _ => Iff.rfl]
    simp [and_comm]

end Expr

/-- The group has a property, if it keeps its text. -/
def GroupKind.Has (C : Nat → Option String → Prop) : GroupKind → Prop
  | capture index name => C index name
  | group _ => True

/-- All groups that have been collected have a property. -/
def Parts.Has (C : Nat → Option String → Prop) (p : Parts) : Prop :=
  (∀ e ∈ p.choices, e.All (fun _ => True) C) ∧ ∀ e ∈ p.row, e.All (fun _ => True) C

/-- All groups that have been opened have a property. -/
structure Assembly.Has (C : Nat → Option String → Prop) (a : Assembly) : Prop where
  parts : a.parts.Has C
  outer : ∀ x ∈ a.outer, x.1.Has C ∧ x.2.Has C

section Has

variable {C : Nat → Option String → Prop} {e : Expr}

theorem GroupKind.Has.wrap {kind : GroupKind} (h : kind.Has C) (he : e.All (fun _ => True) C) :
    (kind.wrap e).All (fun _ => True) C := by
  cases kind with
  | capture index name => exact ⟨h, he⟩
  | group change => exact he

theorem Parts.Has.toExpr {p : Parts} (h : p.Has C) : p.toExpr.All (fun _ => True) C :=
  Expr.all_choice_iff.2 (List.forall_mem_cons.2 ⟨Expr.all_row_iff.2 h.2, h.1⟩)

theorem Parts.Has.push {p : Parts} (h : p.Has C) (he : e.All (fun _ => True) C) :
    (p.push e).Has C :=
  ⟨h.1, List.forall_mem_cons.2 ⟨he, h.2⟩⟩

theorem Assembly.Has.enter {a : Assembly} (h : a.Has C) {kind : GroupKind} (hk : kind.Has C) :
    (a.enter kind).Has C :=
  ⟨⟨nofun, nofun⟩, List.forall_mem_cons.2 ⟨⟨hk, h.parts⟩, h.outer⟩⟩

end Has

/-- The name of the group that is opened, if it keeps its text. -/
def Opening.captured? : Opening → Option (Option String)
  | capture name => some name
  | _ => none

/-- The name of the group that a lexeme opens, if it opens one that keeps its text. -/
def Lexeme.captured? (l : Lexeme) : Option (Option String) :=
  l.opening?.bind Opening.captured?

theorem Assembly.captures_add_captured {a a' : Assembly} {l : Lexeme} (h : a.add l = some a') :
    a'.captures = a.captures + l.captured?.toList.length := by
  rw [captures_add h, Lexeme.captured?]
  cases l.opening? with
  | none => rfl
  | some what => cases what <;> rfl

namespace Assembly.Has

variable {C : Nat → Option String → Prop} {a a' : Assembly} {l : Lexeme}

/-- A lexeme keeps a property of all groups if the group that it opens has it. -/
theorem add (h : a.Has C) (hp : l.IsPlain)
    (hn : ∀ name ∈ l.captured?, C (a.captures + 1) name)
    (ha : a.add l = some a') : a'.Has C := by
  cases l with
  | atom e =>
    cases ha
    exact ⟨h.parts.push (Expr.all_of_openings_eq_nil (hp e rfl)), h.outer⟩
  | opening what =>
    cases what with
    | capture name =>
      obtain ⟨-, rfl⟩ := enterCapture_eq_some.1 ha
      have hk : GroupKind.Has C (.capture (a.captures + 1) name) := hn name rfl
      have hg := h.enter hk
      exact ⟨hg.parts, hg.outer⟩
    | group change =>
      cases ha
      exact h.enter trivial
    | flags change =>
      cases ha
      exact ⟨h.parts.push trivial, h.outer⟩
  | close =>
    obtain ⟨kind, before, outer, ho, rfl⟩ := leave_eq_some.1 ha
    have hx := h.outer
    rw [ho] at hx
    obtain ⟨⟨hk, hb⟩, hx⟩ := List.forall_mem_cons.1 hx
    exact ⟨hb.push (hk.wrap h.parts.toExpr), hx⟩
  | bar =>
    cases ha
    exact ⟨⟨List.forall_mem_cons.2 ⟨Expr.all_row_iff.2 h.parts.2, h.parts.1⟩, nofun⟩, h.outer⟩
  | rep min max greedy =>
    obtain ⟨e, before, hr, -, rfl⟩ := repeatLast_eq_some.1 ha
    have hrow := h.parts.2
    rw [hr] at hrow
    obtain ⟨he, hb⟩ := List.forall_mem_cons.1 hrow
    exact ⟨⟨h.parts.1, List.forall_mem_cons.2 ⟨he, hb⟩⟩, h.outer⟩

/-- All groups have a property if each of those that are opened has it. They are numbered on. -/
theorem foldlM {ls : List Lexeme} (hp : ∀ l ∈ ls, l.IsPlain) : ∀ {a a' : Assembly}, a.Has C →
    (∀ i name, (ls.filterMap Lexeme.captured?)[i]? = some name → C (a.captures + i + 1) name) →
      ls.foldlM Assembly.add a = some a' → a'.Has C := by
  induction ls with
  | nil =>
    intro a a' h _ ha
    cases ha
    exact h
  | cons l ls ih =>
    intro a a' h hn ha
    rw [List.foldlM_cons] at ha
    obtain ⟨mid, hl, ha⟩ := Option.bind_eq_some_iff.1 ha
    have hc := captures_add_captured hl
    have hmid : mid.Has C := by
      refine h.add (hp l List.mem_cons_self) (fun name hname => hn 0 name ?_) hl
      rw [List.filterMap_cons_some (Option.mem_def.1 hname)]
      rfl
    refine ih (fun k hk => hp k (List.mem_cons_of_mem _ hk)) hmid (fun i name hi => ?_) ha
    -- The numbers go on after the group that the first lexeme opens, if it opens one.
    cases ho : l.captured? with
    | none =>
      rw [ho] at hc
      rw [hc]
      exact hn i name (by rwa [List.filterMap_cons_none ho])
    | some first =>
      rw [ho] at hc
      have hi := hn (i + 1) name (by rwa [List.filterMap_cons_some ho, List.getElem?_cons_succ])
      rw [hc, Option.toList_some, List.length_singleton, Nat.add_assoc a.captures 1 i,
        Nat.add_comm 1 i]
      exact hi

end Assembly.Has

/-- The names of the groups that keep their text, from number 1 on. -/
def Expr.captureNames (e : Expr) : List (Option String) :=
  e.openings.filterMap Opening.captured?

/-- The groups of an expression are those that its lexemes open. -/
theorem Expr.captureNames_of_openings {e : Expr} {ls : List Lexeme}
    (h : e.openings = ls.filterMap Lexeme.opening?) :
    e.captureNames = ls.filterMap Lexeme.captured? := by
  rw [captureNames, h, List.filterMap_filterMap]
  rfl

theorem Expr.length_captureNames (e : Expr) : e.captureNames.length = e.captureCount := by
  rw [captureNames, List.length_filterMap_eq_countP, captureCount]
  congr 1
  funext what
  cases what <;> rfl

/-- The groups of an expression that is read from a source are numbered in the order in which they
are opened. -/
theorem Expr.all_captures_of_ofSource? {source : String} {e : Expr}
    (h : Expr.ofSource? source = some e) :
    e.All (fun _ => True) fun index name =>
      0 < index ∧ e.captureNames[index - 1]? = some name := by
  obtain ⟨ls, hs, he⟩ := Option.bind_eq_some_iff.1 h
  have hp := isPlain_of_scan hs
  obtain ⟨a, ha, -, rfl, -, ho⟩ := exists_foldlM_of_ofLexemes? hp he
  have hnames := captureNames_of_openings ho
  have hinit : Assembly.Has (fun index name =>
      0 < index ∧ a.parts.toExpr.captureNames[index - 1]? = some name) {} :=
    ⟨⟨nofun, nofun⟩, nofun⟩
  refine (hinit.foldlM hp (fun i name hi => ⟨Nat.succ_pos _, ?_⟩) ha).parts.toExpr
  rw [hnames, Nat.add_sub_cancel, Nat.zero_add]
  exact hi

/-- The groups of an expression that is read from a source are numbered from 1 to their count. -/
theorem Expr.isNumbered_of_ofSource? {source : String} {e : Expr}
    (h : Expr.ofSource? source = some e) : e.IsNumbered e.captureCount := by
  refine (Expr.all_captures_of_ofSource? h).imp fun index name _ hi => ⟨hi.1, ?_⟩
  have hlt := (List.getElem?_eq_some_iff.1 hi.2).1
  rw [Expr.length_captureNames] at hlt
  omega

end PathTemplate.Regex
