import PathTemplate.Proofs.Meaning
import PathTemplate.Proofs.Renumbering
import PathTemplate.Proofs.Steady
/-!
# Fragments stay contained

A regular expression that can be read on its own is read in the same way inside the group that a
placeholder gives it: the parenthesis of that group closes nothing in the expression, and nothing in
the expression closes the group. So the source of a template is parsed as the tokens say, with the
parse of each placeholder's expression in its own group, and flags that an expression switches hold
no further than that group (`Source.ofSource?_ofTokens_of_isEmbeddable`).

Expressions that switch on the verbose flag are left out, as a comment would swallow the
parenthesis.
-/

namespace PathTemplate

open Regex

namespace Regex

/-! ## Reading in a group -/

/-- The flags that an opening switches on. -/
def Opening.switchedOn : Opening → List Flag
  | capture _ => []
  | group change => change.on
  | flags change => change.on

/-- The lexeme does not switch on the verbose flag. -/
def Lexeme.IsTerse (l : Lexeme) : Prop :=
  ∀ what, l = .opening what → Flag.verbose ∉ what.switchedOn

theorem FlagChange.apply_of_not_mem_on {change : FlagChange} {flag : Flag}
    (h : flag ∉ change.on) : change.apply flag false = false := by
  simp [apply, h]

/-- A lexeme keeps the verbose flag off, in as many groups as are open after it. -/
theorem verbosity_of_add {a a' : Assembly} {l : Lexeme} (hv : l.IsTerse) (h : a.add l = some a')
    (outer : List Bool) :
    l.verbosity false (List.replicate a.outer.length false ++ outer) =
      (false, List.replicate a'.outer.length false ++ outer) := by
  cases l with
  | opening what =>
    have hv := hv what rfl
    cases what with
    | capture name =>
      obtain ⟨-, rfl⟩ := Assembly.enterCapture_eq_some.1 h
      rfl
    | group change =>
      cases h
      rw [Lexeme.verbosity, FlagChange.apply_of_not_mem_on hv]
      rfl
    | flags change =>
      cases h
      rw [Lexeme.verbosity, FlagChange.apply_of_not_mem_on hv]
  | close =>
    obtain ⟨kind, before, more, ho, rfl⟩ := Assembly.leave_eq_some.1 h
    rw [ho]
    rfl
  | rep min max greedy =>
    obtain ⟨e, before, -, -, rfl⟩ := Assembly.repeatLast_eq_some.1 h
    rfl
  | _ =>
    cases h
    rfl

theorem length_lt_of_scan : ∀ {fuel : Nat} {verbose : Bool} {outer : List Bool} {cs : List Char}
    {ls : List Lexeme}, Lexeme.scan fuel verbose outer cs = some ls → ls.length < fuel := by
  intro fuel
  induction fuel with
  | zero => intro _ _ _ _ h; cases h
  | succ fuel ih =>
    intro verbose outer cs ls h
    rcases cases_of_scan h with ⟨-, rfl⟩ | ⟨l, rest, ms, -, hm, rfl⟩
    · exact Nat.zero_lt_succ fuel
    · exact Nat.succ_lt_succ (ih hm)

/-- Characters that are read to their end, as lexemes that close all groups, are read as the same
lexemes before a closing parenthesis. The groups that are open within them are known from the
assembly; `outer` belongs to those around. -/
theorem scan_append {fuel : Nat} : ∀ {cs : List Char} {ls : List Lexeme} {a a' : Assembly},
    Lexeme.scan fuel false (List.replicate a.outer.length false) cs = some ls →
      ls.foldlM Assembly.add a = some a' → a'.outer = [] → (∀ l ∈ ls, l.IsTerse) →
        ∀ more outer tail,
          Lexeme.scan (more + ls.length) false (List.replicate a.outer.length false ++ outer)
              (cs ++ ')' :: tail) =
            (Lexeme.scan more false outer (')' :: tail)).map (ls ++ ·) := by
  induction fuel with
  | zero => intro _ _ _ _ h; cases h
  | succ fuel ih =>
    intro cs ls a a' hs ha ho hv more outer tail
    rcases cases_of_scan hs with ⟨hnil, rfl⟩ | ⟨l, rest, ms, hl, hm, rfl⟩
    · rw [Reader.skip_false] at hnil
      subst hnil
      cases ha
      simp [ho]
    · rw [Reader.skip_false] at hl
      have hne : cs ≠ [] := by
        rintro rfl
        cases hl
      obtain ⟨c, cs, rfl⟩ := List.exists_cons_of_ne_nil hne
      rw [List.foldlM_cons] at ha
      obtain ⟨mid, hadd, ha⟩ := Option.bind_eq_some_iff.1 ha
      -- As many groups are open here as in the assembly, whatever is open around them.
      have hf := verbosity_of_add (hv l List.mem_cons_self) hadd
      have hin := hf []
      rw [List.append_nil, List.append_nil] at hin
      rw [hin] at hm
      have hrest := ih hm ha ho (fun k hk => hv k (List.mem_cons_of_mem _ hk)) more outer tail
      have hl : Reader.lexeme false (c :: (cs ++ ')' :: tail)) = some (l, rest ++ ')' :: tail) :=
        Reader.isSteady_lexeme.append hl tail
      rw [List.length_cons, ← Nat.add_assoc, List.cons_append, scan_cons hl, hf, hrest,
        Option.map_map]
      rfl

/-- An expression that is read on its own is read in the same way in a group. -/
theorem reads_of_ofLexemes? {text : String} {ls : List Lexeme} {e : Expr}
    (hs : Lexeme.ofSource text = some ls) (he : Expr.ofLexemes? ls = some e)
    (hv : ∀ l ∈ ls, l.IsTerse) (tail : List Char) : Reads text.toList ls (')' :: tail) where
  length_le := Nat.le_of_lt_succ (length_lt_of_scan hs)
  scan fuel outer := by
    obtain ⟨a, ha, ho, -⟩ := exists_foldlM_of_ofLexemes? (isPlain_of_scan hs) he
    exact scan_append (a := {}) hs ha ho hv fuel outer tail

end Regex

/-! ## Fragments -/

/-- The text can be used for placeholders, and `e` is what it is parsed as: it has a meaning on its
own under the flags of the options, names no group and does not switch on the verbose flag. -/
structure Options.IsEmbeddable (o : Options) (text : String) (e : Expr) : Prop where
  parse : Expr.ofSource? text = some e
  meaning : (e.toTree? o.regexFlags).isSome = true
  unnamed : ∀ name, .capture (some name) ∉ e.openings
  terse : ∀ what ∈ e.openings, Flag.verbose ∉ what.switchedOn

namespace Fragment

/-- An expression with its text. Its groups are numbered after those that come before. -/
def ofExpr (text : String) (e : Expr) : Fragment where
  text := text.toList
  body n := e.renumber n
  groups := e.captureCount

theorem isContained_ofExpr {o : Options} {text : String} {e : Expr} (h : o.IsEmbeddable text e) :
    (ofExpr text e).IsContained := by
  obtain ⟨ls, hs, he⟩ := Option.bind_eq_some_iff.1 h.parse
  have hp := isPlain_of_scan hs
  obtain ⟨-, -, -, -, -, ho⟩ := exists_foldlM_of_ofLexemes? hp he
  -- What the expression does not open, no lexeme of it opens.
  have hm : ∀ what, .opening what ∈ ls → what ∈ e.openings := fun what hl =>
    ho ▸ List.mem_filterMap.2 ⟨_, hl, rfl⟩
  have hu : ∀ l ∈ ls, l.IsUnnamed := by
    rintro l hl name rfl
    exact h.unnamed name (hm _ hl)
  have hv : ∀ l ∈ ls, l.IsTerse := by
    rintro l hl what rfl
    exact h.terse what (hm what hl)
  exact ⟨ls, reads_of_ofLexemes? hs he hv, fills_of_ofLexemes? hp hu he⟩

end Fragment

/-! ## Flags after a piece -/

namespace Regex.Expr

theorem flagsAfter?_char (f : Flags) (c : Char) : (char c false).flagsAfter? f = some f := by
  simp [flagsAfter?, toTree?]

/-- Flags that are switched within a group hold to its end. -/
theorem flagsAfter?_group_of_isSome {f : Flags} {e : Expr} (h : (e.flagsAfter? f).isSome = true) :
    (group {} e).flagsAfter? f = some f := by
  obtain ⟨g, hg⟩ := Option.isSome_iff_exists.1 h
  rw [flagsAfter?_group, Flags.change_empty, hg]
  rfl

theorem flagsAfter?_series {f : Flags} {es : List Expr}
    (h : ∀ e ∈ es, e.flagsAfter? f = some f) : (series es).flagsAfter? f = some f := by
  induction es with
  | nil => rfl
  | cons e es ih =>
    have he := h e List.mem_cons_self
    cases es with
    | nil => exact he
    | cons d es =>
      rw [series_cons_cons, flagsAfter?_cat, he]
      exact ih fun e he => h e (List.mem_cons_of_mem _ he)

end Regex.Expr

namespace Piece

variable {f : Flags} {o : Options}

theorem flagsAfter?_groupExpr {x : Fragment}
    (hx : ∀ n, ((x.body n).flagsAfter? f).isSome = true) (name : Option String) (n : Nat) :
    (groupExpr name x n).flagsAfter? f = some f := by
  cases name with
  | none => exact Expr.flagsAfter?_group_of_isSome (hx n)
  | some name =>
    rw [groupExpr, Expr.flagsAfter?_capture, Expr.flagsAfter?_group_of_isSome (hx (n + 1))]
    rfl

theorem flagsAfter?_unitExpr {e : Expr} (he : e.flagsAfter? f = some f) (shape : Shape) :
    (unitExpr o e shape).flagsAfter? f = some f := by
  have hc := Expr.flagsAfter?_char f o.separator
  have hg : ∀ es : List Expr, (∀ d ∈ es, d.flagsAfter? f = some f) →
      (Expr.group {} (.series es)).flagsAfter? f = some f := fun es h =>
    Expr.flagsAfter?_group_of_isSome (by rw [Expr.flagsAfter?_series h]; rfl)
  cases shape with
  | foldLeft => exact hg _ (by simp [hc, he])
  | foldRight => exact hg _ (by simp [hc, he])
  | bare => exact he

theorem flagsAfter?_optionally {e : Expr} (he : e.flagsAfter? f = some f) (optional : Bool) :
    (optionally optional e).flagsAfter? f = some f := by
  cases optional with
  | false => exact he
  | true => exact (Expr.flagsAfter?_rep f 0 (some 1) true e).trans he

/-- The parts of a piece leave the flags as they are, whatever a placeholder's expression does. -/
theorem flagsAfter?_of_mem_exprs {p : Piece} {d : Expr} (hd : d ∈ p.exprs o)
    (hp : ∀ shape name optional x n, p = unit shape name optional x n →
      ∀ n, ((x.body n).flagsAfter? f).isSome = true) : d.flagsAfter? f = some f := by
  cases p with
  | nothing => cases hd
  | text chars =>
    obtain ⟨c, -, rfl⟩ := List.mem_map.1 hd
    exact Expr.flagsAfter?_char f c
  | separator tolerated =>
    rw [List.mem_singleton.1 hd]
    exact flagsAfter?_optionally (Expr.flagsAfter?_char f o.separator) tolerated
  | unit shape name optional x n =>
    rw [List.mem_singleton.1 hd]
    have hx := hp _ _ _ _ _ rfl
    exact flagsAfter?_optionally (flagsAfter?_unitExpr (flagsAfter?_groupExpr hx name n) shape)
      optional

end Piece

/-! ## The source of a template -/

namespace Source

variable {o : Options} {tokens : List Token} {overrides : Overrides}

/-- The expressions for placeholders, given the parse of each. -/
def fragments (o : Options) (overrides : Overrides) (e : String → Expr) (name : String) :
    Fragment :=
  .ofExpr (expressionFor o overrides name) (e name)

/-- The expression of a template has a meaning if its parts have one that leaves the flags as they
are. -/
theorem flagsAfter?_expr {x : String → Fragment}
    (hx : ∀ p ∈ Piece.ofTokens o x tokens, ∀ d ∈ p.exprs o,
      d.flagsAfter? o.regexFlags = some o.regexFlags) :
    (expr o x tokens).flagsAfter? {} = some o.regexFlags := by
  have hs : (Expr.series (.assert .lineStart ::
      ((Piece.ofTokens o x tokens).flatMap (Piece.exprs o) ++ [.assert .lineEnd]))).flagsAfter?
        o.regexFlags = some o.regexFlags := by
    refine Expr.flagsAfter?_series fun d hd => ?_
    rcases List.mem_cons.1 hd with rfl | hd
    · rfl
    rcases List.mem_append.1 hd with hd | hd
    · obtain ⟨p, hp, hd⟩ := List.mem_flatMap.1 hd
      exact hx p hp d hd
    · rw [List.mem_singleton.1 hd]
      rfl
  -- The flags of the options stand first, so the row comes under them.
  rw [expr, flagExprs]
  split
  · next h =>
    rw [List.nil_append]
    rw [Options.regexFlags_of_flags_eq h] at hs ⊢
    exact hs
  · rw [List.singleton_append, Expr.series_cons_cons, Expr.flagsAfter?_cat]
    exact hs

/-- Expressions that can be read on their own stay contained. The source of a template is parsed as
its tokens say, where the group of each placeholder holds the parse of the placeholder's expression
and nothing else. No part of the row changes the flags for the parts after it. All this has a
meaning, so the source is refused only if it is nested too deeply or too large. -/
theorem ofSource?_ofTokens_of_isEmbeddable (ho : o.fault? = none)
    (hn : ∀ t ∈ tokens, ∀ name ∈ t.name?, Token.validName name = true) {e : String → Expr}
    (he : ∀ t ∈ tokens, ∀ name ∈ t.name?,
      o.IsEmbeddable (expressionFor o overrides name) (e name)) :
    Expr.ofSource? (ofTokens o overrides tokens) =
        some (expr o (fragments o overrides e) tokens) ∧
      (∀ p ∈ Piece.ofTokens o (fragments o overrides e) tokens, ∀ d ∈ p.exprs o,
        d.flagsAfter? o.regexFlags = some o.regexFlags) ∧
      ∀ limits : Limits, limits.weight = none →
        ((compile? limits (ofTokens o overrides tokens)).isSome = true ↔
          (expr o (fragments o overrides e) tokens).depth ≤ limits.depth) := by
  have hparse := ofSource?_ofTokens (x := fragments o overrides e) ho (fun _ _ _ _ => rfl)
    (fun t ht name hname => Fragment.isContained_ofExpr (he t ht name hname)) hn
  have hflags : ∀ p ∈ Piece.ofTokens o (fragments o overrides e) tokens, ∀ d ∈ p.exprs o,
      d.flagsAfter? o.regexFlags = some o.regexFlags := by
    intro p hp d hd
    refine Piece.flagsAfter?_of_mem_exprs hd ?_
    rintro shape name optional x n rfl m
    obtain ⟨t, ht, z, hz, rfl⟩ := Piece.exists_name_of_mem_ofTokens hp
    change (((e z).renumber m).flagsAfter? o.regexFlags).isSome = true
    rw [Expr.flagsAfter?_renumber, Expr.flagsAfter?, Option.isSome_map]
    exact (he t ht z hz).meaning
  refine ⟨hparse, hflags, fun limits hw => ?_⟩
  obtain ⟨⟨tree, f⟩, htree, -⟩ := Option.map_eq_some_iff.1 (flagsAfter?_expr hflags)
  rw [compile?, hparse]
  simp [htree, hw]

/-- Options under which placeholders take digits. -/
def digits : Options :=
  { defaultExpression := some "\\d+", flags := "U" }

/-- What `x|(y)(?i)z` is parsed as. -/
def alternation : Expr :=
  .alt (.char 'x' false) (.cat (.capture 1 none (.char 'y' false))
    (.cat (.flags { on := [.caseless] }) (.char 'z' false)))

theorem isEmbeddable_alternation : digits.IsEmbeddable "x|(y)(?i)z" alternation where
  parse := by decide +kernel
  meaning := by decide +kernel
  unnamed name h := by simp [alternation, Expr.openings] at h
  terse := by decide

theorem isEmbeddable_digits :
    digits.IsEmbeddable "\\d+" (.rep 1 none true (.short .digit false)) where
  parse := by decide +kernel
  meaning := by decide +kernel
  unnamed name h := by simp [Expr.openings] at h
  terse := by decide

/-- Both groups of a name hold the whole alternation, and the groups in it are numbered on. -/
theorem ofSource?_ofTokens_of_isEmbeddable_alternation :
    let tokens := [.placeholder "a" false, .separator, .placeholder "b" false, .separator,
      .placeholder "a" true]
    Expr.ofSource? (ofTokens digits [("a", "x|(y)(?i)z")] tokens) = some (.series
        [.flags { on := [.swapGreed] }, .assert .lineStart,
          .capture 1 (some "a") (.group {} (alternation.renumber 1)),
          .char '/' false,
          .capture 3 (some "b") (.group {} (.rep 1 none true (.short .digit false))),
          .rep 0 (some 1) true
            (.group {} (.series [.char '/' false, .group {} (alternation.renumber 3)])),
          .rep 0 (some 1) true (.char '/' false), .assert .lineEnd]) ∧
      (compile? { weight := none } (ofTokens digits [("a", "x|(y)(?i)z")] tokens)).isSome =
        true := by
  intro tokens
  let e name := if name = "a" then alternation else .rep 1 none true (.short .digit false)
  have he : ∀ t ∈ tokens, ∀ name ∈ t.name?,
      digits.IsEmbeddable (expressionFor digits [("a", "x|(y)(?i)z")] name) (e name) := by
    simp only [tokens, List.mem_cons, List.not_mem_nil, or_false]
    rintro _ (rfl | rfl | rfl | rfl | rfl) _ ⟨⟩
    · exact isEmbeddable_alternation
    · exact isEmbeddable_digits
    · exact isEmbeddable_alternation
  obtain ⟨hparse, -, hc⟩ := ofSource?_ofTokens_of_isEmbeddable (by decide) (by decide) he
  exact ⟨hparse, (hc { weight := none } rfl).2 (by decide)⟩

end Source

end PathTemplate
