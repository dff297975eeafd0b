import PathTemplate.Proofs.Containment
import PathTemplate.Proofs.Contents
/-!
# Templates whose placeholders have expressions

What the source of a template is compiled to where overrides or a default give the placeholders
expressions of their own. The row of parts is laid out as without them, and the group of a
placeholder holds the tree of its expression (`Source.tree_eq_framed`). Whether an expression may be
given does not depend on the flags of the template (`Options.IsEmbeddable.of_options`).
-/

namespace PathTemplate

open Regex

/-! ## Flags and meaning -/

namespace Regex

variable {f g : Flags}

theorem Flags.allows_congr (h : f.unicode = g.unicode) (c : Char) : f.allows c = g.allows c := by
  rw [allows, allows, h]

theorem Flags.isSome_negate?_congr (h : f.unicode = g.unicode) (negated : Bool) (s t : CharSet) :
    (f.negate? negated s).isSome = (g.negate? negated t).isSome := by
  unfold negate?
  rw [h]
  cases negated <;> cases g.unicode <;> rfl

theorem PropertyQuery.isSome_toSet?_congr (h : f.unicode = g.unicode) (negated : Bool)
    (query : PropertyQuery) :
    (query.toSet? f negated).isSome = (query.toSet? g negated).isSome := by
  unfold toSet?
  rw [h]
  split
  · cases query.find? with
    | none => rfl
    | some found => exact Flags.isSome_negate?_congr h _ _ _
  · rfl

theorem ClassExpr.isSome_toSet?_congr (h : f.unicode = g.unicode) (e : ClassExpr) :
    (e.toSet? f).isSome = (e.toSet? g).isSome := by
  induction e with
  | none => rfl
  | char c =>
    rw [toSet?, toSet?, Flags.allows_congr h]
    cases g.allows c <;> rfl
  | range lo hi =>
    rw [toSet?, toSet?, Flags.allows_congr h, Flags.allows_congr h]
    cases g.allows lo && g.allows hi <;> rfl
  | ascii cls negated => exact Flags.isSome_negate?_congr h _ _ _
  | short cls negated => exact Flags.isSome_negate?_congr h _ _ _
  | property query negated => exact query.isSome_toSet?_congr h negated
  | bracket negated inner ih =>
    rw [toSet?, toSet?]
    cases hf : inner.toSet? f with
    | none =>
      rw [hf] at ih
      rw [Option.isNone_iff_eq_none.1 (Option.isSome_eq_false_iff.1 ih.symm)]
      rfl
    | some s =>
      rw [hf] at ih
      obtain ⟨t, ht⟩ := Option.isSome_iff_exists.1 ih.symm
      rw [ht]
      exact Flags.isSome_negate?_congr h _ s t
  | union a b iha ihb | op o a b iha ihb =>
    simp only [toSet?, Option.bind_eq_bind, Option.isSome_bind]
    cases hf : a.toSet? f <;> cases hg : a.toSet? g <;> simp_all

/-- Of the flags before an expression, only the one for Unicode decides whether it has a meaning,
and whether that flag is set after it. -/
theorem Expr.unicode_flagsAfter?_congr (e : Expr) : ∀ {f g : Flags}, f.unicode = g.unicode →
    (e.flagsAfter? f).map (·.unicode) = (e.flagsAfter? g).map (·.unicode) := by
  have atom {α : Type} {x y : Option α} {F G : α → Tree} {f g : Flags} (h : f.unicode = g.unicode)
      (hs : x.isSome = y.isSome) : ((x.map fun a => (F a, f)).map (·.2)).map (·.unicode) =
        ((y.map fun a => (G a, g)).map (·.2)).map (·.unicode) := by
    cases x <;> cases y <;> simp_all
  induction e with
  | char c byte =>
    intro f g h
    rw [flagsAfter?, flagsAfter?, toTree?, toTree?, Flags.allows_congr h]
    cases byte && !g.allows c with
    | false => exact congrArg some h
    | true => rfl
  | dot =>
    intro f g h
    refine atom h ?_
    unfold Flags.dot?
    rw [h]
    cases g.unicode <;> cases f.dotAll <;> cases g.dotAll <;> cases f.crlf <;> cases g.crlf <;> rfl
  | short cls negated =>
    intro f g h
    exact atom h (Flags.isSome_negate?_congr h _ _ _)
  | property query negated =>
    intro f g h
    exact atom h (query.isSome_toSet?_congr h negated)
  | bracket negated inner =>
    intro f g h
    exact atom h (ClassExpr.isSome_toSet?_congr h (.bracket negated inner))
  | rep min max greedy e ih =>
    intro f g h
    rw [flagsAfter?_rep, flagsAfter?_rep]
    exact ih h
  | capture index name e ih =>
    intro f g h
    have ih := ih h
    rw [flagsAfter?_capture, flagsAfter?_capture]
    cases hf : e.flagsAfter? f <;> cases hg : e.flagsAfter? g <;> simp_all
  | group change e ih =>
    intro f g h
    have hc : (f.change change).unicode = (g.change change).unicode := by
      simp only [Flags.change, h]
    have ih := ih hc
    rw [flagsAfter?_group, flagsAfter?_group]
    cases hf : e.flagsAfter? (f.change change) <;> cases hg : e.flagsAfter? (g.change change) <;>
      simp_all
  | cat a b iha ihb | alt a b iha ihb =>
    intro f g h
    have iha := iha h
    simp only [flagsAfter?_cat, flagsAfter?_alt]
    cases hf : a.flagsAfter? f with
    | none =>
      rw [hf] at iha
      rw [Option.map_eq_none_iff.1 iha.symm]
    | some f' =>
      rw [hf] at iha
      obtain ⟨g', hg, hu⟩ := Option.map_eq_some_iff.1 iha.symm
      rw [hg]
      exact ihb hu.symm
  | flags change =>
    intro f g h
    simp only [flagsAfter?, toTree?, Option.map_some, Flags.change, h]
  | _ =>
    intro f g h
    exact congrArg some h

end Regex

/-- An expression that may be given under some options may be given under any. -/
theorem Options.IsEmbeddable.of_options {o : Options} {text : String} {e : Expr}
    (h : o.IsEmbeddable text e) (o' : Options) : o'.IsEmbeddable text e where
  parse := h.parse
  meaning := by
    have hu : o.regexFlags.unicode = o'.regexFlags.unicode := by
      rw [o.unicode_regexFlags, o'.unicode_regexFlags]
    have hc := congrArg Option.isSome (e.unicode_flagsAfter?_congr hu)
    simpa [Expr.flagsAfter?, h.meaning] using hc.symm
  unnamed := h.unnamed
  terse := h.terse

/-! ## Expressions that can be used for placeholders -/

namespace Fragment

/-- The expression stays within its group, it has a meaning under the flags of the options, and its
groups have no names and are numbered on from those before. -/
structure IsUsable (o : Options) (x : Fragment) : Prop where
  contained : x.IsContained
  meaning : ∀ n, ((x.body n).toTree? o.regexFlags).isSome = true
  numbered : ∀ n, (x.body n).All (fun _ => True) fun index name =>
    (n < index ∧ index ≤ n + x.groups) ∧ name = none

theorem isUsable_standard (o : Options) : (standard o).IsUsable o where
  contained := isContained_standard o
  meaning n := by rw [Piece.toTree?_standard o.unicode_regexFlags]; rfl
  numbered _ := trivial

theorem isUsable_ofExpr {o : Options} {text : String} {e : Expr} (h : o.IsEmbeddable text e) :
    (ofExpr text e).IsUsable o where
  contained := isContained_ofExpr h
  meaning n := by
    have hr := congrArg Option.isSome (Expr.flagsAfter?_renumber n e o.regexFlags)
    rw [Expr.flagsAfter?, Expr.flagsAfter?, Option.isSome_map, Option.isSome_map, h.meaning] at hr
    exact hr
  numbered n := by
    refine Expr.all_renumber_iff.2 ((Expr.isNumbered_of_ofSource? h.parse).imp ?_)
    rintro index name hm ⟨h₀, h₁⟩
    refine ⟨⟨by omega, Nat.add_le_add_left h₁ n⟩, ?_⟩
    cases name with
    | none => rfl
    | some name => exact absurd hm (h.unnamed name)

/-- The tree of the expression in a group of its own, if it comes after `n` groups. -/
def tree (f : Flags) (x : Fragment) (n : Nat) : Tree :=
  (((x.body n).toTree? f).map (·.1.factored)).getD .empty

variable {o : Options} {x : Fragment}

theorem IsUsable.toTree?_group (hx : x.IsUsable o) (n : Nat) :
    (Expr.group {} (x.body n)).toTree? o.regexFlags =
      some (x.tree o.regexFlags n, o.regexFlags) := by
  obtain ⟨⟨r, f⟩, hr⟩ := Option.isSome_iff_exists.1 (hx.meaning n)
  simp [Expr.toTree?, Flags.change_empty, tree, hr]

/-- What holds of the conditions and the groups of the expression holds in its tree. -/
theorem all_tree {f : Flags} {n : Nat} {A : Assertion → Prop} {P : Look → Prop}
    {C : Nat → Option String → Prop} (h : (x.body n).All A C)
    (hP : ∀ (f : Flags) a, A a → P (f.look a)) : (x.tree f n).All P C := by
  unfold tree
  cases hr : (x.body n).toTree? f with
  | none => trivial
  | some t => exact (h.toTree? hP hr).factored

end Fragment

/-! ## The tree of a template -/

namespace Piece

/-- The group of a placeholder with any expression. -/
def holder (f : Flags) (name : Option String) (x : Fragment) (n : Nat) : Tree :=
  match name with
  | none => x.tree f n
  | some name => .group (n + 1) (some name) (x.tree f (n + 1)).factored

theorem toTree?_groupExpr_of_isUsable {o : Options} {x : Fragment} (hx : x.IsUsable o)
    (name : Option String) (n : Nat) :
    (groupExpr name x n).toTree? o.regexFlags =
      some (holder o.regexFlags name x n, o.regexFlags) := by
  cases name with
  | none => exact hx.toTree?_group n
  | some name =>
    rw [groupExpr, Expr.toTree?, hx.toTree?_group (n + 1)]
    rfl

/-- Conditions and groups are only in the groups of placeholders. -/
theorem all_of_mem_treesBy {P : Look → Prop} {Q : Nat → Option String → Prop} {f : Flags}
    {o : Options} {G : Option String → Fragment → Nat → Tree} {p : Piece}
    (hp : ∀ shape name optional x n, p = unit shape name optional x n → (G name x n).All P Q) :
    ∀ r ∈ p.treesBy f o G, r.All P Q := by
  have hm : ∀ (optional : Bool) {r : Tree}, r.All P Q → (maybe f optional r).All P Q := by
    intro optional r hr
    cases optional <;> exact hr
  intro r hr
  cases p with
  | nothing => cases hr
  | text chars =>
    obtain ⟨c, -, rfl⟩ := List.mem_map.1 hr
    trivial
  | separator tolerated =>
    rw [List.mem_singleton.1 hr]
    exact hm tolerated trivial
  | unit shape name optional x n =>
    have hg := hp _ _ _ _ _ rfl
    rw [List.mem_singleton.1 hr]
    apply hm optional
    cases shape with
    | foldLeft => exact ⟨trivial, hg⟩
    | foldRight => exact ⟨hg, trivial⟩
    | bare => exact hg

end Piece

namespace Source

variable {o : Options} {overrides : Overrides} {name : String}

/-- The expression that is given for the placeholders of a name, by an override or else by
default. -/
def given? (o : Options) (overrides : Overrides) (name : String) : Option String :=
  (overrides.lookup name).or o.defaultExpression

/-- The expression for the placeholders of a name: the one that is given, or else the standard
one. -/
def fragment (o : Options) (overrides : Overrides) (name : String) : Fragment :=
  match given? o overrides name with
  | none => .standard o
  | some text => .ofExpr text ((Expr.ofSource? text).getD .empty)

theorem text_fragment (o : Options) (overrides : Overrides) (name : String) :
    (fragment o overrides name).text = (expressionFor o overrides name).toList := by
  unfold fragment given? expressionFor
  cases overrides.lookup name with
  | some text => rfl
  | none =>
    cases hd : o.defaultExpression with
    | none => exact text_standard hd name
    | some text => simp [Fragment.ofExpr, Options.placeholderExpression, hd]

/-- Whether the expression that is given for the placeholders of a name, if any, can be used: it is
a regular expression on its own, names no group and does not switch on the verbose flag. -/
theorem isUsable_fragment
    (h : ∀ text ∈ given? o overrides name, ∃ e, Options.IsEmbeddable {} text e) :
    (fragment o overrides name).IsUsable o := by
  unfold fragment
  cases hg : given? o overrides name with
  | none => exact Fragment.isUsable_standard o
  | some text =>
    obtain ⟨e, he⟩ := h text hg
    simp only [he.parse, Option.getD_some]
    exact Fragment.isUsable_ofExpr (he.of_options o)

/-- The parts that match the texts of a template, between the two ends. -/
def forest (o : Options) (overrides : Overrides) (tokens : List Token) : List Tree :=
  (Piece.ofTokens o (fragment o overrides) tokens).flatMap
    (Piece.treesBy o.regexFlags o (Piece.holder o.regexFlags))

/-- What the source of a template is compiled to, with any expressions that can be used. -/
theorem tree_eq_framed {tokens : List Token} {limits : Limits} {r : Regex} (ho : o.fault? = none)
    (hn : ∀ t ∈ tokens, ∀ name ∈ t.name?, Token.validName name = true)
    (hx : ∀ t ∈ tokens, ∀ name ∈ t.name?, (fragment o overrides name).IsUsable o)
    (hr : compile? limits (ofTokens o overrides tokens) = some r) :
    r.source = ofTokens o overrides tokens ∧ r.tree = framed o (forest o overrides tokens) := by
  have ht : (expr o (fragment o overrides) tokens).toTree? {} =
      some (framed o (forest o overrides tokens), o.regexFlags) := by
    apply toTree?_expr_of_parts
    apply toTree?_flatMap_exprs
    intro p hm
    apply Piece.toTree?_exprs_of_groups o.unicode_regexFlags
    rintro shape y optional x n rfl
    obtain ⟨t, ht, z, hz, rfl⟩ := Piece.exists_name_of_mem_ofTokens hm
    exact Piece.toTree?_groupExpr_of_isUsable (hx t ht z hz) y n
  rw [compile?, ofSource?_ofTokens ho (fun _ _ name _ => text_fragment o overrides name)
    (fun t ht name hz => (hx t ht name hz).contained) hn] at hr
  simp only [Option.bind_eq_bind, Option.bind_some, ht, factored_framed] at hr
  split at hr
  · cases hr
    exact ⟨rfl, rfl⟩
  · cases hr

end Source

end PathTemplate
