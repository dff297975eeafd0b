import PathTemplate.Proofs.Assembly
/-!
# What an expression opens

The openings of an expression are its groups and its changes of flags, in the order of its source.
Putting lexemes together loses none of them and adds none: the openings of the expression are those
among its lexemes (`exists_foldlM_of_ofLexemes?`). So what an expression does not open does not
stand in its source either, and groups are counted alike in both.
-/

namespace PathTemplate.Regex

/-- Whether it begins a group that keeps its text. -/
def Opening.isCapture : Opening → Bool
  | capture _ => true
  | _ => false

namespace Expr

/-- The groups and the changes of flags in an expression, in the order of its source. -/
def openings : Expr → List Opening
  | flags change => [.flags change]
  | rep _ _ _ e => e.openings
  | capture _ name e => .capture name :: e.openings
  | group change e => .group change :: e.openings
  | cat a b => a.openings ++ b.openings
  | alt a b => a.openings ++ b.openings
  | _ => []

/-- How many groups of an expression keep their text. -/
def captureCount (e : Expr) : Nat :=
  e.openings.countP Opening.isCapture

/-- Parts that are collected latest first, and put together by a constructor that keeps their
order. -/
theorem openings_foldl {f : Expr → Expr → Expr}
    (hf : ∀ a b, (f a b).openings = a.openings ++ b.openings) (before : List Expr) :
    ∀ last, (before.foldl (fun after e => f e after) last).openings =
      before.reverse.flatMap openings ++ last.openings := by
  induction before with
  | nil => intro last; rfl
  | cons e before ih =>
    intro last
    rw [List.foldl_cons, ih, hf, List.reverse_cons, List.flatMap_append]
    simp

theorem openings_row (es : List Expr) : (row es).openings = es.reverse.flatMap openings := by
  cases es with
  | nil => rfl
  | cons last before =>
    rw [row, openings_foldl fun _ _ => rfl, List.reverse_cons, List.flatMap_append]
    simp

theorem openings_choice (es : List Expr) :
    (choice es).openings = es.reverse.flatMap openings := by
  cases es with
  | nil => rfl
  | cons last before =>
    rw [choice, openings_foldl fun _ _ => rfl, List.reverse_cons, List.flatMap_append]
    simp

end Expr

/-! ## Lexemes -/

/-- The opening that a lexeme is, if it is one. -/
def Lexeme.opening? : Lexeme → Option Opening
  | opening what => some what
  | _ => none

/-- What the lexeme stands for by itself opens nothing. -/
def Lexeme.IsPlain (l : Lexeme) : Prop :=
  ∀ e, l = .atom e → e.openings = []

namespace Reader

theorem openings_codePoint {verbose byte : Bool} {digits : Nat} {cs rest : List Char} {e : Expr}
    (h : codePoint verbose byte digits cs = some (e, rest)) : e.openings = [] := by
  simp only [codePoint, Option.bind_eq_bind] at h
  split at h
  · obtain ⟨⟨inner, mid⟩, -, h⟩ := Option.bind_eq_some_iff.1 h
    dsimp only at h
    split at h
    · cases h
    · obtain ⟨code, -, h⟩ := Option.bind_eq_some_iff.1 h
      obtain ⟨c, -, h⟩ := Option.bind_eq_some_iff.1 h
      cases h
      rfl
  · obtain ⟨⟨code, mid⟩, -, h⟩ := Option.bind_eq_some_iff.1 h
    obtain ⟨c, -, h⟩ := Option.bind_eq_some_iff.1 h
    cases h
    rfl

theorem openings_property {verbose negated : Bool} {cs rest : List Char} {e : Expr}
    (h : property verbose negated cs = some (e, rest)) : e.openings = [] := by
  unfold property at h
  split at h
  · cases h
  · obtain ⟨⟨text, mid⟩, -, h⟩ := Option.map_eq_some_iff.1 h
    cases h
    rfl
  · split at h
    · cases h
    · cases h
      rfl

theorem openings_boundary {verbose : Bool} {cs rest : List Char} {e : Expr}
    (h : boundary verbose cs = some (e, rest)) : e.openings = [] := by
  simp only [boundary, Option.bind_eq_bind] at h
  split at h
  · split at h
    · cases h
    · split at h
      · obtain ⟨⟨name, mid⟩, -, h⟩ := Option.bind_eq_some_iff.1 h
        obtain ⟨a, -, h⟩ := Option.bind_eq_some_iff.1 h
        cases h
        rfl
      · cases h
        rfl
  · cases h
    rfl

theorem openings_escape {verbose : Bool} {cs rest : List Char} {e : Expr}
    (h : escape verbose cs = some (e, rest)) : e.openings = [] := by
  cases cs with
  | nil => cases h
  | cons c cs =>
    unfold escape at h
    dsimp only at h
    split at h
    iterate 3
      · exact openings_codePoint h
    iterate 2
      · exact openings_property h
    iterate 14
      · cases h
        rfl
    · exact openings_boundary h
    iterate 3
      · cases h
        rfl
    · split at h
      · cases h
        rfl
      · cases h

theorem openings_bracket {verbose : Bool} {cs rest : List Char} {e : Expr}
    (h : bracket verbose cs = some (e, rest)) : e.openings = [] := by
  simp only [bracket, Option.bind_eq_bind] at h
  obtain ⟨⟨⟨negated, literals⟩, mid⟩, -, h⟩ := Option.bind_eq_some_iff.1 h
  obtain ⟨⟨⟨negated', inner⟩, last⟩, -, h⟩ := Option.bind_eq_some_iff.1 h
  cases h
  rfl

theorem repetition_ne_atom {min : Nat} {max : Option Nat} {cs rest : List Char} {e : Expr} :
    repetition min max cs ≠ some (.atom e, rest) := by
  intro h
  unfold repetition at h
  split at h <;> cases h

theorem counted_ne_atom {verbose : Bool} {cs rest : List Char} {e : Expr} :
    counted verbose cs ≠ some (.atom e, rest) := by
  intro h
  simp only [counted, Option.bind_eq_bind] at h
  obtain ⟨⟨min, mid⟩, -, h⟩ := Option.bind_eq_some_iff.1 h
  dsimp only at h
  split at h
  · exact repetition_ne_atom h
  · split at h
    · exact repetition_ne_atom h
    · obtain ⟨⟨max, last⟩, -, h⟩ := Option.bind_eq_some_iff.1 h
      dsimp only at h
      split at h
      · split at h
        · exact repetition_ne_atom h
        · cases h
      · cases h
  · cases h

theorem openings_lexeme {verbose : Bool} {cs rest : List Char} {e : Expr}
    (h : lexeme verbose cs = some (.atom e, rest)) : e.openings = [] := by
  cases cs with
  | nil => cases h
  | cons c cs =>
    unfold lexeme at h
    dsimp only at h
    split at h
    · obtain ⟨_, -, h⟩ := Option.map_eq_some_iff.1 h
      cases h
    iterate 2
      · cases h
    · obtain ⟨⟨e, mid⟩, hb, h⟩ := Option.map_eq_some_iff.1 h
      cases h
      exact openings_bracket hb
    iterate 3
      · exact absurd h repetition_ne_atom
    · exact absurd h counted_ne_atom
    · obtain ⟨⟨e, mid⟩, he, h⟩ := Option.map_eq_some_iff.1 h
      cases h
      exact openings_escape he
    iterate 4
      · cases h
        rfl

end Reader

/-- A text that is read is at its end, or begins with a lexeme after which it is read on. -/
theorem cases_of_scan {fuel : Nat} {verbose : Bool} {outer : List Bool} {cs : List Char}
    {ls : List Lexeme} (h : Lexeme.scan (fuel + 1) verbose outer cs = some ls) :
    Reader.skip verbose cs = [] ∧ ls = [] ∨
      ∃ l rest ms, Reader.lexeme verbose (Reader.skip verbose cs) = some (l, rest) ∧
        Lexeme.scan fuel (l.verbosity verbose outer).1 (l.verbosity verbose outer).2 rest =
          some ms ∧ ls = l :: ms := by
  unfold Lexeme.scan at h
  split at h
  · next hs =>
    cases h
    exact .inl ⟨hs, rfl⟩
  · obtain ⟨⟨l, rest⟩, hl, h⟩ := Option.bind_eq_some_iff.1 h
    obtain ⟨ms, hm, rfl⟩ := Option.map_eq_some_iff.1 h
    exact .inr ⟨l, rest, ms, hl, hm, rfl⟩

/-- All that is read from a text is plain. -/
theorem isPlain_of_scan : ∀ {fuel : Nat} {verbose : Bool} {outer : List Bool} {cs : List Char}
    {ls : List Lexeme}, Lexeme.scan fuel verbose outer cs = some ls → ∀ l ∈ ls, l.IsPlain := by
  intro fuel
  induction fuel with
  | zero => intro _ _ _ _ h; cases h
  | succ fuel ih =>
    intro verbose outer cs ls h
    rcases cases_of_scan h with ⟨-, rfl⟩ | ⟨l, rest, ms, hl, hm, rfl⟩
    · exact fun _ hk => by cases hk
    · intro k hk
      rcases List.mem_cons.1 hk with rfl | hk
      · rintro e rfl
        exact Reader.openings_lexeme hl
      · exact ih hm k hk

/-! ## Putting lexemes together -/

/-- How a group was opened. -/
def GroupKind.opening : GroupKind → Opening
  | capture _ name => .capture name
  | group change => .group change

theorem GroupKind.openings_wrap (kind : GroupKind) (e : Expr) :
    (kind.wrap e).openings = kind.opening :: e.openings := by
  cases kind <;> rfl

/-- The openings in what has been collected. -/
def Parts.openings (p : Parts) : List Opening :=
  p.choices.reverse.flatMap Expr.openings ++ p.row.reverse.flatMap Expr.openings

theorem Parts.openings_toExpr (p : Parts) : p.toExpr.openings = p.openings := by
  rw [toExpr, Expr.openings_choice, List.reverse_cons, List.flatMap_append, openings]
  simp [Expr.openings_row]

theorem Parts.openings_push (p : Parts) (e : Expr) :
    (p.push e).openings = p.openings ++ e.openings := by
  simp [push, openings]

namespace Assembly

/-- The openings so far. -/
def openings (a : Assembly) : List Opening :=
  a.outer.reverse.flatMap (fun (kind, before) => before.openings ++ [kind.opening]) ++
    a.parts.openings

variable {a a' : Assembly} {l : Lexeme}

theorem openings_enter (a : Assembly) (kind : GroupKind) :
    (a.enter kind).openings = a.openings ++ [kind.opening] := by
  simp [enter, openings, Parts.openings]

/-- A lexeme brings its opening, if it is one, and nothing else. -/
theorem openings_add (hp : l.IsPlain) (h : a.add l = some a') :
    a'.openings = a.openings ++ l.opening?.toList := by
  cases l with
  | atom e =>
    cases h
    simp [openings, Parts.openings_push, hp e rfl, Lexeme.opening?]
  | opening what =>
    cases what with
    | capture name =>
      obtain ⟨-, rfl⟩ := enterCapture_eq_some.1 h
      exact openings_enter a _
    | group change =>
      cases h
      exact openings_enter a _
    | flags change =>
      cases h
      rw [openings, Parts.openings_push, ← List.append_assoc]
      rfl
  | close =>
    obtain ⟨kind, before, outer, ho, rfl⟩ := leave_eq_some.1 h
    simp [openings, Parts.openings_push, GroupKind.openings_wrap, Parts.openings_toExpr, ho,
      Lexeme.opening?]
  | bar =>
    cases h
    simp [openings, Parts.openings, Expr.openings_row, Lexeme.opening?]
  | rep min max greedy =>
    obtain ⟨e, before, hr, -, rfl⟩ := repeatLast_eq_some.1 h
    simp [openings, Parts.openings, Expr.openings, hr, Lexeme.opening?]

/-- Groups that keep their text are numbered in the order of the source. -/
theorem captures_add (h : a.add l = some a') :
    a'.captures = a.captures + (l.opening?.toList).countP Opening.isCapture := by
  cases l with
  | opening what =>
    cases what with
    | capture name =>
      obtain ⟨-, rfl⟩ := enterCapture_eq_some.1 h
      rfl
    | _ => cases h; rfl
  | close =>
    obtain ⟨kind, before, outer, -, rfl⟩ := leave_eq_some.1 h
    rfl
  | rep min max greedy =>
    obtain ⟨e, before, -, -, rfl⟩ := repeatLast_eq_some.1 h
    rfl
  | _ => cases h; rfl

theorem openings_foldlM {ls : List Lexeme} (hp : ∀ l ∈ ls, l.IsPlain) : ∀ {a a' : Assembly},
    ls.foldlM add a = some a' →
      a'.openings = a.openings ++ ls.filterMap Lexeme.opening? ∧
        a'.captures = a.captures + (ls.filterMap Lexeme.opening?).countP Opening.isCapture := by
  induction ls with
  | nil =>
    intro a a' h
    cases h
    simp
  | cons l ls ih =>
    intro a a' h
    rw [List.foldlM_cons] at h
    obtain ⟨mid, hl, h⟩ := Option.bind_eq_some_iff.1 h
    obtain ⟨ho, hc⟩ := ih (fun k hk => hp k (List.mem_cons_of_mem _ hk)) h
    have hs : (l :: ls).filterMap Lexeme.opening? =
        l.opening?.toList ++ ls.filterMap Lexeme.opening? := by
      cases hl : l.opening? <;> simp [hl]
    rw [ho, hc, hs, openings_add (hp l List.mem_cons_self) hl, captures_add hl, List.append_assoc,
      List.countP_append, Nat.add_assoc]
    exact ⟨rfl, rfl⟩

end Assembly

/-- How plain lexemes make an expression: they open what it opens, in the same order. -/
theorem exists_foldlM_of_ofLexemes? {ls : List Lexeme} {e : Expr} (hp : ∀ l ∈ ls, l.IsPlain)
    (h : Expr.ofLexemes? ls = some e) :
    ∃ a : Assembly, ls.foldlM Assembly.add {} = some a ∧ a.outer = [] ∧ a.parts.toExpr = e ∧
      a.captures = e.captureCount ∧ e.openings = ls.filterMap Lexeme.opening? := by
  obtain ⟨a, ha, h⟩ := Option.bind_eq_some_iff.1 h
  rw [Assembly.finish?] at h
  split at h
  · next ho =>
    cases h
    obtain ⟨hopen, hcount⟩ := Assembly.openings_foldlM hp ha
    have he : a.parts.toExpr.openings = ls.filterMap Lexeme.opening? := by
      rw [Parts.openings_toExpr]
      simpa [Assembly.openings, List.isEmpty_iff.1 ho, Parts.openings] using hopen
    refine ⟨a, ha, List.isEmpty_iff.1 ho, rfl, ?_, he⟩
    rw [hcount, Expr.captureCount, he]
    exact Nat.zero_add _
  · cases h

end PathTemplate.Regex
