import PathTemplate.Proofs.Assembly
import PathTemplate.Proofs.Reading
/-!
# A source and its expression

The source of a template is written piece by piece, a piece for each token. Each piece is read back
as the parts that it is meant to be, whatever comes after it, so the source has the expression that
its pieces make in a row (`ofSource?_ofTokens`).

The expressions for single placeholders are arbitrary here. All that is needed of one is that it is
contained: before a closing parenthesis it is read as one known expression.
-/

namespace PathTemplate

open Regex

/-! ## Names that are new -/

namespace Token

/-- The distinct names in tokens that are not among those `bound` before, in order. -/
def newNames (bound : List String) : List Token → List String
  | [] => []
  | .placeholder name _ :: tokens =>
    if name ∈ bound then newNames bound tokens
    else name :: newNames (bound ++ [name]) tokens
  | _ :: tokens => newNames bound tokens

theorem foldl_addName (tokens : List Token) : ∀ bound : List String,
    (tokens.filterMap name?).foldl addName bound = bound ++ newNames bound tokens := by
  induction tokens with
  | nil => simp [newNames]
  | cons t tokens ih =>
    intro bound
    cases t with
    | placeholder name optional =>
      have hf : (placeholder name optional :: tokens).filterMap name? =
          name :: tokens.filterMap name? := rfl
      rw [hf, List.foldl_cons, ih, newNames, addName]
      split <;> simp
    | _ => exact ih bound

theorem names_eq_newNames (tokens : List Token) : names tokens = newNames [] tokens :=
  foldl_addName tokens []

theorem not_mem_of_mem_newNames {name : String} (tokens : List Token) :
    ∀ {bound : List String}, name ∈ newNames bound tokens → name ∉ bound := by
  induction tokens with
  | nil => intro _ h; cases h
  | cons t tokens ih =>
    intro bound h
    cases t with
    | placeholder x optional =>
      rw [newNames] at h
      split at h
      · exact ih h
      · next hx =>
        rcases List.mem_cons.1 h with rfl | h
        · exact hx
        · exact fun hb => ih h (List.mem_append_left _ hb)
    | _ => exact ih h

end Token

/-! ## Pieces -/

/-- A regular expression for placeholders: how it is written, what it is if it comes after so many
groups, and how many groups it has of its own. -/
structure Fragment where
  text : List Char
  body : Nat → Expr
  groups : Nat

namespace Fragment

/-- Before a closing parenthesis the expression is read to its end, and as one expression. -/
def IsContained (x : Fragment) : Prop :=
  ∃ ls, (∀ rest, Reads x.text ls (')' :: rest)) ∧
    ∀ n, Fills ls n (n + x.groups) [] (x.body n)

/-- The expression for placeholders that have none of their own: characters other than the
separator. -/
def standard (o : Options) : Fragment where
  text := '[' :: '^' :: (escapeChar o.separator ++ [']', '+'])
  body _ := .rep 1 none true (.bracket true (.char o.separator))
  groups := 0

theorem isContained_standard (o : Options) : (standard o).IsContained := by
  refine ⟨[.atom (.bracket true (.char o.separator))] ++ [.rep 1 none true], fun rest => ?_,
    fun n => ?_⟩
  · have hp : Reads ['+'] [.rep 1 none true] (')' :: rest) := reads_plus (by simp)
    simpa [standard] using (reads_class o.separator ('+' :: ')' :: rest)).append hp
  · exact ((Builds.atom _ n).rep (by simp) 1 none true).fills

end Fragment

/-- What is written for a token. -/
inductive Piece where
  /-- Nothing, for a separator that is written with a placeholder. -/
  | nothing
  | text (chars : List Char)
  /-- A separator, which may be missing if it is tolerated. -/
  | separator (tolerated : Bool)
  /-- A placeholder with the separator that belongs to it. It captures if it has a name. `n` is the
  number of groups before it. -/
  | unit (shape : Shape) (name : Option String) (optional : Bool) (x : Fragment) (n : Nat)

namespace Piece

/-- How the group of a placeholder is written. -/
def groupSource (name : Option String) (x : Fragment) : List Char :=
  let inner := '(' :: '?' :: ':' :: (x.text ++ [')'])
  match name with
  | none => inner
  | some name => '(' :: '?' :: 'P' :: '<' :: (name.toList ++ '>' :: (inner ++ [')']))

/-- How a placeholder is written together with its separator. -/
def unitSource (o : Options) (group : List Char) : Shape → List Char
  | .foldLeft => '(' :: '?' :: ':' :: (escapeChar o.separator ++ group ++ [')'])
  | .foldRight => '(' :: '?' :: ':' :: (group ++ escapeChar o.separator ++ [')'])
  | .bare => group

/-- How a piece is written. -/
def source (o : Options) : Piece → List Char
  | nothing => []
  | text chars => chars.flatMap escapeChar
  | separator tolerated => escapeChar o.separator ++ if tolerated then ['?'] else []
  | unit shape name optional x _ =>
    unitSource o (groupSource name x) shape ++ if optional then ['?'] else []

/-- The group of a placeholder. -/
def groupExpr (name : Option String) (x : Fragment) (n : Nat) : Expr :=
  match name with
  | none => .group {} (x.body n)
  | some name => .capture (n + 1) (some name) (.group {} (x.body (n + 1)))

/-- A placeholder together with its separator. -/
def unitExpr (o : Options) (group : Expr) : Shape → Expr
  | .foldLeft => .group {} (.series [.char o.separator false, group])
  | .foldRight => .group {} (.series [group, .char o.separator false])
  | .bare => group

/-- An expression, which may be left out if it is optional. -/
def optionally (optional : Bool) (e : Expr) : Expr :=
  if optional then .rep 0 (some 1) true e else e

/-- The parts that a piece is read as. -/
def exprs (o : Options) : Piece → List Expr
  | nothing => []
  | text chars => chars.map (.char · false)
  | separator tolerated => [optionally tolerated (.char o.separator false)]
  | unit shape name optional x n => [optionally optional (unitExpr o (groupExpr name x n) shape)]

/-- The number of groups in a piece. -/
def groups : Piece → Nat
  | unit _ name _ x _ => name.toList.length + x.groups
  | _ => 0

/-- The number of groups in pieces. -/
def groupCount : List Piece → Nat
  | [] => 0
  | p :: more => p.groups + groupCount more

/-- The pieces for the tokens after `before`, given nearest first, if `bound` are the names in
`before` and `n` is the number of groups for them. -/
def layout (o : Options) (x : String → Fragment) (before : List Token) (bound : List String)
    (n : Nat) : List Token → List Piece
  | [] => []
  | .literal s :: after => text s.toList :: layout o x (.literal s :: before) bound n after
  | .separator :: after =>
    (if Source.isFolded o.capture before after then nothing
      else .separator (after.isEmpty && o.allowTrailingSeparator)) ::
        layout o x (.separator :: before) bound n after
  | .placeholder name optional :: after =>
    let piece := unit (Source.shapeAt o.capture before optional after)
      (if name ∈ bound then none else some name) optional (x name) n
    piece :: layout o x (.placeholder name optional :: before) (Token.addName bound name)
      (n + piece.groups) after

theorem layout_of_mem {o : Options} {x : String → Fragment} {bound : List String} {name : String}
    (h : name ∈ bound) (before after : List Token) (n : Nat) (optional : Bool) :
    layout o x before bound n (.placeholder name optional :: after) =
      unit (Source.shapeAt o.capture before optional after) none optional (x name) n ::
        layout o x (.placeholder name optional :: before) bound
          (n + (0 + (x name).groups)) after := by
  simp [layout, Token.addName, h, groups]

theorem layout_of_not_mem {o : Options} {x : String → Fragment} {bound : List String}
    {name : String} (h : name ∉ bound) (before after : List Token) (n : Nat) (optional : Bool) :
    layout o x before bound n (.placeholder name optional :: after) =
      unit (Source.shapeAt o.capture before optional after) (some name) optional (x name) n ::
        layout o x (.placeholder name optional :: before) (bound ++ [name])
          (n + (1 + (x name).groups)) after := by
  simp [layout, Token.addName, h, groups]

/-- The pieces of a whole template. -/
def ofTokens (o : Options) (x : String → Fragment) (tokens : List Token) : List Piece :=
  layout o x [] [] 0 tokens ++
    if o.allowTrailingSeparator && !(tokens.getLast?.any Token.isSeparator) then [separator true]
    else []

/-- A placeholder's piece is written with the expression for one of the names in the tokens. -/
theorem exists_name_of_mem_layout {o : Options} {x : String → Fragment} {shape : Shape}
    {name : Option String} {optional : Bool} {y : Fragment} {m : Nat} (tokens : List Token) :
    ∀ before bound n, unit shape name optional y m ∈ layout o x before bound n tokens →
      ∃ t ∈ tokens, ∃ z ∈ t.name?, y = x z := by
  induction tokens with
  | nil => intro _ _ _ h; cases h
  | cons t tokens ih =>
    intro before bound n h
    -- A piece after the first one belongs to a later token.
    have later : (∃ t ∈ tokens, ∃ z ∈ t.name?, y = x z) →
        ∃ t' ∈ t :: tokens, ∃ z ∈ t'.name?, y = x z := fun ⟨t', ht, hz⟩ =>
      ⟨t', List.mem_cons_of_mem t ht, hz⟩
    cases t with
    | literal s =>
      rcases List.mem_cons.1 h with h | h
      · cases h
      · exact later (ih _ _ _ h)
    | separator =>
      rcases List.mem_cons.1 h with h | h
      · split at h <;> cases h
      · exact later (ih _ _ _ h)
    | placeholder z optional' =>
      rcases List.mem_cons.1 h with h | h
      · cases h
        exact ⟨_, List.mem_cons_self, z, rfl, rfl⟩
      · exact later (ih _ _ _ h)

theorem exists_name_of_mem_ofTokens {o : Options} {x : String → Fragment} {shape : Shape}
    {name : Option String} {optional : Bool} {y : Fragment} {n : Nat} {tokens : List Token}
    (h : unit shape name optional y n ∈ ofTokens o x tokens) :
    ∃ t ∈ tokens, ∃ z ∈ t.name?, y = x z := by
  rcases List.mem_append.1 h with h | h
  · exact exists_name_of_mem_layout tokens _ _ _ h
  · split at h
    · cases List.mem_singleton.1 h
    · cases h

end Piece

/-! ## A piece is read as its parts -/

/-- Where `rest` comes after them, characters are read as parts of a row. -/
def Parses (cs : List Char) (before after : Nat) (names : List String) (es : List Expr)
    (rest : List Char) : Prop :=
  ∃ ls, Reads cs ls rest ∧ Builds ls before after names es

namespace Parses

variable {cs ds rest : List Char} {before mid after : Nat} {names more : List String}
  {es fs : List Expr} {e : Expr}

theorem nil (n : Nat) (rest : List Char) : Parses [] n n [] [] rest :=
  ⟨[], .nil rest, .nil n⟩

theorem append (h₁ : Parses cs before mid names es (ds ++ rest))
    (h₂ : Parses ds mid after more fs rest) (hd : ∀ name ∈ more, name ∉ names) :
    Parses (cs ++ ds) before after (names ++ more) (es ++ fs) rest := by
  obtain ⟨ls, hr, hb⟩ := h₁
  obtain ⟨ms, hs, hc⟩ := h₂
  exact ⟨ls ++ ms, hr.append hs, hb.append hc hd⟩

theorem text (chars : List Char) (n : Nat) (rest : List Char) :
    Parses (chars.flatMap escapeChar) n n [] (chars.map (.char · false)) rest :=
  ⟨_, reads_text chars rest, .atoms (.char · false) n chars⟩

theorem char (c : Char) (n : Nat) (rest : List Char) :
    Parses (escapeChar c) n n [] [.char c false] rest :=
  ⟨_, reads_escapeChar c rest, .atom _ n⟩

theorem group (h : Parses cs before after names es (')' :: rest)) :
    Parses ('(' :: '?' :: ':' :: (cs ++ [')'])) before after names [.group {} (.series es)]
      rest := by
  obtain ⟨ls, hr, hb⟩ := h
  exact ⟨_, reads_group hr, hb.fills.group {}⟩

theorem optionally (h : ∀ rest, Parses cs before after names [e] rest)
    (he : ∀ change, e ≠ .flags change) (hr : rest.head? ≠ some '?') (optional : Bool) :
    Parses (cs ++ if optional then ['?'] else []) before after names [Piece.optionally optional e]
      rest := by
  cases optional with
  | false => simpa [Piece.optionally] using h rest
  | true =>
    obtain ⟨ls, hl, hb⟩ := h (['?'] ++ rest)
    exact ⟨_, hl.append (reads_question hr), hb.rep he 0 (some 1) true⟩

end Parses

namespace Piece

variable {o : Options}

/-- The name that a placeholder captures under is a valid one. -/
def IsNamed (name : Option String) : Prop :=
  ∀ x ∈ name, Token.validName x = true

theorem parses_group {name : Option String} {x : Fragment} (hn : IsNamed name)
    (hx : x.IsContained) (n : Nat) (rest : List Char) :
    Parses (groupSource name x) n (n + (name.toList.length + x.groups)) name.toList
      [groupExpr name x n] rest := by
  obtain ⟨ls, hr, hf⟩ := hx
  cases name with
  | none =>
    have h := (hf n).group {}
    refine ⟨_, reads_group (hr rest), ?_⟩
    rw [← Nat.zero_add x.groups] at h
    exact h
  | some name =>
    have h := ((hf (n + 1)).group {}).fills.capture (List.not_mem_nil (a := name))
    refine ⟨_, reads_named (hn name rfl) (reads_group (hr _)), ?_⟩
    rw [Nat.add_assoc] at h
    exact h

theorem parses_unit {g : List Char} {n m : Nat} {names : List String} {e : Expr}
    (h : ∀ rest, Parses g n m names [e] rest) (shape : Shape) (rest : List Char) :
    Parses (unitSource o g shape) n m names [unitExpr o e shape] rest := by
  cases shape with
  | foldLeft => exact ((Parses.char o.separator n _).append (h _) (by simp)).group
  | foldRight =>
    have := ((h _).append (Parses.char o.separator m (')' :: rest)) (by simp)).group
    rw [List.append_nil] at this
    exact this
  | bare => exact h rest

/-- What a placeholder is read as is no change of flags. -/
theorem unitExpr_ne_flags (name : Option String) (x : Fragment) (n : Nat) (shape : Shape)
    (change : FlagChange) : unitExpr o (groupExpr name x n) shape ≠ .flags change := by
  cases shape <;> cases name <;> simp [unitExpr, groupExpr]

/-- No piece starts with a question mark. -/
theorem head?_source (p : Piece) (rest : List Char) (h : rest.head? ≠ some '?') :
    (p.source o ++ rest).head? ≠ some '?' := by
  have hc : ∀ c rest, (escapeChar c ++ rest).head? ≠ some '?' := by
    intro c rest
    rw [escapeChar]
    split
    · simp
    · next hm =>
      -- A question mark of the template would have been escaped.
      simp only [List.singleton_append, List.head?_cons, ne_eq, Option.some.injEq]
      rintro rfl
      exact hm (by decide)
  cases p with
  | nothing => exact h
  | text chars =>
    cases chars with
    | nil => exact h
    | cons c chars =>
      rw [source, List.flatMap_cons, List.append_assoc]
      exact hc c _
  | separator tolerated =>
    rw [source, List.append_assoc]
    exact hc _ _
  | unit shape name optional x n =>
    cases shape <;> cases name <;> simp [source, unitSource, groupSource]

theorem head?_flatMap_source (ps : List Piece) (rest : List Char) (h : rest.head? ≠ some '?') :
    (ps.flatMap (source o) ++ rest).head? ≠ some '?' := by
  induction ps with
  | nil => exact h
  | cons p ps ih =>
    rw [List.flatMap_cons, List.append_assoc]
    exact head?_source p _ ih

theorem parses_separator (tolerated : Bool) (n : Nat) {rest : List Char}
    (hr : rest.head? ≠ some '?') :
    Parses ((separator tolerated).source o) n n [] ((separator tolerated).exprs o) rest :=
  .optionally (.char o.separator n) (fun _ => by simp) hr tolerated

theorem parses_placeholder {name : Option String} {x : Fragment} (hn : IsNamed name)
    (hx : x.IsContained) (shape : Shape) (optional : Bool) (n : Nat) {rest : List Char}
    (hr : rest.head? ≠ some '?') :
    Parses ((unit shape name optional x n).source o) n (n + (unit shape name optional x n).groups)
      name.toList ((unit shape name optional x n).exprs o) rest :=
  .optionally (parses_unit (parses_group hn hx n) shape) (unitExpr_ne_flags name x n shape) hr
    optional

theorem parses_cons {p : Piece} {ps : List Piece} {n : Nat} {names more : List String}
    {rest : List Char}
    (h₁ : Parses (p.source o) n (n + p.groups) names (p.exprs o) (ps.flatMap (source o) ++ rest))
    (h₂ : Parses (ps.flatMap (source o)) (n + p.groups) (n + p.groups + groupCount ps) more
      (ps.flatMap (exprs o)) rest) (hd : ∀ name ∈ more, name ∉ names) :
    Parses ((p :: ps).flatMap (source o)) n (n + groupCount (p :: ps)) (names ++ more)
      ((p :: ps).flatMap (exprs o)) rest := by
  have h := h₁.append h₂ hd
  rwa [Nat.add_assoc] at h

/-- The pieces of tokens are read as their parts in a row. -/
theorem parses_layout {x : String → Fragment} (tokens : List Token)
    (hx : ∀ t ∈ tokens, ∀ name ∈ t.name?, (x name).IsContained)
    (hn : ∀ t ∈ tokens, ∀ name ∈ t.name?, Token.validName name = true) {rest : List Char}
    (hr : rest.head? ≠ some '?') : ∀ before bound n,
    Parses ((layout o x before bound n tokens).flatMap (source o)) n
      (n + groupCount (layout o x before bound n tokens)) (Token.newNames bound tokens)
      ((layout o x before bound n tokens).flatMap (exprs o)) rest := by
  induction tokens with
  | nil => intro before bound n; exact .nil n rest
  | cons t tokens ih =>
    intro before bound n
    have ih := ih (fun t ht => hx t (List.mem_cons_of_mem _ ht))
      fun t ht => hn t (List.mem_cons_of_mem _ ht)
    cases t with
    | literal s =>
      exact parses_cons (p := text s.toList) (.text s.toList n _) (ih _ bound n) (by simp)
    | separator =>
      rw [layout]
      split
      · exact parses_cons (p := nothing) (.nil n _) (ih _ bound n) (by simp)
      · exact parses_cons (p := separator _)
          (parses_separator _ n (head?_flatMap_source _ rest hr)) (ih _ bound n) (by simp)
    | placeholder name optional =>
      have hc := hx _ List.mem_cons_self name rfl
      rw [Token.newNames]
      by_cases hb : name ∈ bound
      · rw [if_pos hb, layout_of_mem hb]
        have hv : IsNamed none := nofun
        exact parses_cons (parses_placeholder hv hc _ optional n
          (head?_flatMap_source _ rest hr)) (ih _ bound _) (by simp)
      · rw [if_neg hb, layout_of_not_mem hb]
        have hv : IsNamed (some name) := by
          rintro _ ⟨⟩
          exact hn _ List.mem_cons_self name rfl
        -- The reader refuses a name that it knows, and the names that come after are others.
        have hd : ∀ y ∈ Token.newNames (bound ++ [name]) tokens, y ∉ (some name).toList :=
          fun y hy hm => Token.not_mem_of_mem_newNames tokens hy (List.mem_append_right _ hm)
        exact parses_cons (parses_placeholder hv hc _ optional n
          (head?_flatMap_source _ rest hr)) (ih _ _ _) hd

/-- The pieces of a template are read as their parts in a row. -/
theorem parses_ofTokens {x : String → Fragment} (tokens : List Token)
    (hx : ∀ t ∈ tokens, ∀ name ∈ t.name?, (x name).IsContained)
    (hn : ∀ t ∈ tokens, ∀ name ∈ t.name?, Token.validName name = true) {rest : List Char}
    (hr : rest.head? ≠ some '?') :
    ∃ m, Parses ((ofTokens o x tokens).flatMap (source o)) 0 m (Token.names tokens)
      ((ofTokens o x tokens).flatMap (exprs o)) rest := by
  rw [ofTokens, Token.names_eq_newNames]
  split
  · have hd := head?_flatMap_source (o := o) [separator true] rest hr
    have hs := parses_separator (o := o) true
      (0 + groupCount (layout o x [] [] 0 tokens)) hr
    have h := (parses_layout tokens hx hn hd [] [] 0).append
      (by simpa using hs) (fun name hm => by cases hm)
    rw [List.flatMap_append, List.flatMap_append]
    exact ⟨_, by simpa using h⟩
  · have h := parses_layout (o := o) tokens hx hn hr [] [] 0
    exact ⟨_, by simpa using h⟩

end Piece

/-! ## A source is read as the parts of its pieces -/

namespace Source

/-- The parts that the flags before a source are read as. -/
def flagExprs (o : Options) : List Expr :=
  if o.flags = "" then [] else [.flags o.flagChange]

/-- The expression of a template. -/
def expr (o : Options) (x : String → Fragment) (tokens : List Token) : Expr :=
  .series (flagExprs o ++ (.assert .lineStart ::
    ((Piece.ofTokens o x tokens).flatMap (Piece.exprs o) ++ [.assert .lineEnd])))

variable {o : Options} {x : String → Fragment}

theorem toList_group {overrides : Overrides} {name : String}
    (hx : (x name).text = (expressionFor o overrides name).toList) (bound : List String) :
    (group o overrides bound name).toList =
      Piece.groupSource (if name ∈ bound then none else some name) (x name) := by
  rw [group]
  split <;> simp [Piece.groupSource, hx]

theorem toList_escapedSeparator (o : Options) :
    o.escapedSeparator.toList = escapeChar o.separator := by
  simp [Options.escapedSeparator, toList_escape]

theorem toList_unit (o : Options) (shape : Shape) (group : String) :
    (unit o shape group).toList = Piece.unitSource o group.toList shape := by
  cases shape <;> simp [unit, Piece.unitSource, toList_escapedSeparator]

/-- What is written for the tokens is written for their pieces. -/
theorem toList_pieces {overrides : Overrides} (tokens : List Token)
    (hx : ∀ t ∈ tokens, ∀ name ∈ t.name?, (x name).text = (expressionFor o overrides name).toList) :
    ∀ before bound n, (pieces o overrides before bound tokens).flatMap String.toList =
      (Piece.layout o x before bound n tokens).flatMap (Piece.source o) := by
  induction tokens with
  | nil => intro _ _ _; rfl
  | cons t tokens ih =>
    intro before bound n
    have ih := ih fun t ht => hx t (List.mem_cons_of_mem _ ht)
    cases t with
    | literal s =>
      rw [pieces, Piece.layout, List.flatMap_cons, List.flatMap_cons, ih, toList_escape]
      rfl
    | separator =>
      rw [pieces, Piece.layout, List.flatMap_cons, List.flatMap_cons, ih _ _ n]
      congr 1
      split
      · rfl
      · cases tokens.isEmpty && o.allowTrailingSeparator <;>
          simp [Piece.source, toList_escapedSeparator]
    | placeholder name optional =>
      rw [pieces, Piece.layout, List.flatMap_cons, List.flatMap_cons, ih]
      congr 1
      have ht := hx _ List.mem_cons_self name rfl
      cases optional <;> simp [Piece.source, toList_unit, toList_group ht]

theorem toList_trailing (o : Options) (tokens : List Token) :
    (trailing o tokens).toList =
      (if o.allowTrailingSeparator && !(tokens.getLast?.any Token.isSeparator) then
        [Piece.separator true] else []).flatMap (Piece.source o) := by
  rw [trailing]
  split <;> simp [Piece.source, toList_escapedSeparator]

theorem toList_ofTokens {overrides : Overrides} (tokens : List Token)
    (hx : ∀ t ∈ tokens, ∀ name ∈ t.name?, (x name).text = (expressionFor o overrides name).toList) :
    (ofTokens o overrides tokens).toList = (flagGroup o).toList ++
      (['^'] ++ ((Piece.ofTokens o x tokens).flatMap (Piece.source o) ++ ['$'])) := by
  simp only [ofTokens, String.toList_append, String.toList_join, toList_pieces tokens hx [] [] 0,
    toList_trailing, Piece.ofTokens, List.flatMap_append, List.append_assoc]
  rfl

theorem parses_flagGroup (ho : o.fault? = none) (rest : List Char) :
    Parses (flagGroup o).toList 0 0 [] (flagExprs o) rest := by
  rw [flagGroup, flagExprs]
  split
  · exact .nil 0 rest
  · next h =>
    have hf := reads_flags ho h rest
    exact ⟨_, by simpa using hf, .flags _ 0⟩

/-- The source of a template is read as the parts of its pieces in a row, between the two ends of
the text. -/
theorem ofSource?_ofTokens {overrides : Overrides} {tokens : List Token} (ho : o.fault? = none)
    (hx : ∀ t ∈ tokens, ∀ name ∈ t.name?, (x name).text = (expressionFor o overrides name).toList)
    (hc : ∀ t ∈ tokens, ∀ name ∈ t.name?, (x name).IsContained)
    (hn : ∀ t ∈ tokens, ∀ name ∈ t.name?, Token.validName name = true) :
    Expr.ofSource? (ofTokens o overrides tokens) = some (expr o x tokens) := by
  have hd : ['$'].head? ≠ some '?' := by simp
  obtain ⟨m, hp⟩ := Piece.parses_ofTokens (o := o) tokens hc hn hd
  have hs rest : Parses ['^'] 0 0 [] [.assert .lineStart] rest :=
    ⟨_, reads_lineStart _, .atom _ 0⟩
  have he : Parses ['$'] m m [] [.assert .lineEnd] [] := ⟨_, reads_lineEnd _, .atom _ m⟩
  have hin := (hs _).append (hp.append he fun _ h => by cases h) fun _ _ h => by cases h
  obtain ⟨ls, hr, hb⟩ := (parses_flagGroup ho _).append hin fun _ _ h => by cases h
  have hl := hr.ofSource
  rw [← toList_ofTokens tokens hx, String.ofList_toList] at hl
  rw [Expr.ofSource?, hl]
  exact ofLexemes?_of_builds hb

end Source

end PathTemplate
