import PathTemplate.Proofs.Pieces
import PathTemplate.Regex
/-!
# The meaning of a template's source

Where no placeholder has an expression of its own, the source of a template has a meaning under all
flags, and it is nested no deeper than a few groups. So the source is compiled, unless it is too
large (`compile?_ofTokens`), to a row of small parts (`Source.tree`): what is written for a token
means the same wherever it stands.
-/

namespace PathTemplate

open Regex

namespace Regex

/-! ## Parts in a row -/

theorem Expr.series_cons_cons (e d : Expr) (es : List Expr) :
    series (e :: d :: es) = cat e (series (d :: es)) :=
  rfl

theorem Expr.toTree?_series {f : Flags} : ∀ {es : List Expr} {ts : List Tree},
    es.map (toTree? f) = ts.map (fun t => some (t, f)) →
      (Expr.series es).toTree? f = some (Tree.ofParts ts, f)
  | [], [], _ => rfl
  | [], _ :: _, h => by cases h
  | _ :: _, [], h => by cases h
  | [e], [t], h => (List.cons.inj h).1
  | [e], t :: u :: ts, h => by cases (List.cons.inj h).2
  | e :: d :: es, [t], h => by cases (List.cons.inj h).2
  | e :: d :: es, t :: u :: ts, h => by
    obtain ⟨h₁, h₂⟩ := List.cons.inj h
    have ih : (series (d :: es)).toTree? f = some (Tree.ofParts (u :: ts), f) := toTree?_series h₂
    rw [series_cons_cons, toTree?, h₁]
    simp only [Option.bind_eq_bind, Option.bind_some, ih]
    rfl

/-- A row is nested one deeper than its parts. -/
theorem Expr.depth_series {d : Nat} (es : List Expr) (h : ∀ e ∈ es, e.depth ≤ d) :
    (Expr.series es).depth ≤ d + 1 := by
  induction es with
  | nil => exact Nat.zero_le _
  | cons e es ih =>
    have he := h e List.mem_cons_self
    have ih := ih fun e he => h e (List.mem_cons_of_mem _ he)
    match es, h, ih with
    | [], _, _ => exact Nat.le_succ_of_le he
    | [e'], h, _ =>
      have he' := h e' (by simp)
      rw [series_cons_cons, series, depth.eq_def]
      dsimp only
      split <;> omega
    | e' :: e'' :: es, _, ih =>
      rw [series_cons_cons] at ih ⊢
      rw [series_cons_cons, depth]
      exact Nat.max_le.2 ⟨Nat.succ_le_succ he, ih⟩

end Regex

/-! ## Flags -/

theorem Regex.Flags.change_empty (f : Flags) : f.change {} = f := by
  cases f
  rfl

namespace Options

variable {o : Options}

/-- The flags in force in a template. -/
def regexFlags (o : Options) : Flags :=
  ({} : Flags).change o.flagChange

theorem regexFlags_of_flags_eq (h : o.flags = "") : o.regexFlags = {} := by
  simp [regexFlags, flagChange, h, Flags.change_empty]

theorem apply_flagChange_iff (o : Options) (flag : Flag) (current : Bool) :
    o.flagChange.apply flag current = true ↔ flag.letter ∈ o.flags.toList ∨ current = true := by
  have hm : flag ∈ o.flagChange.on ↔ flag.letter ∈ o.flags.toList := by
    simp only [flagChange, List.mem_filterMap, List.mem_reverse]
    constructor
    · rintro ⟨c, hc, hf⟩
      exact Flag.eq_letter hf ▸ hc
    · exact fun h => ⟨flag.letter, h, by cases flag <;> rfl⟩
  have hn : flag ∉ o.flagChange.off := List.not_mem_nil
  rw [FlagChange.apply, if_neg hn, ← hm]
  split <;> simp_all

theorem unicode_regexFlags (o : Options) : o.regexFlags.unicode = true :=
  (apply_flagChange_iff o .unicode true).2 (.inr rfl)

theorem caseless_regexFlags_iff (o : Options) :
    o.regexFlags.caseless = true ↔ 'i' ∈ o.flags.toList :=
  (apply_flagChange_iff o .caseless false).trans (or_iff_left Bool.false_ne_true)

theorem multiLine_regexFlags_iff (o : Options) :
    o.regexFlags.multiLine = true ↔ 'm' ∈ o.flags.toList :=
  (apply_flagChange_iff o .multiLine false).trans (or_iff_left Bool.false_ne_true)

end Options

/-! ## Pieces -/

namespace Piece

/-- The characters that a character of a template stands for. -/
def charTree (f : Flags) (c : Char) : Tree :=
  .set (f.fold (.single c))

/-- The characters that are no separators, at least one of them. -/
def standardTree (f : Flags) (o : Options) : Tree :=
  .rep 1 none (true != f.swapGreed) (.set (.compl (f.fold (.single o.separator))))

/-- The group of a placeholder. -/
def groupTree (f : Flags) (o : Options) (name : Option String) (n : Nat) : Tree :=
  match name with
  | none => standardTree f o
  | some name => .group (n + 1) (some name) (standardTree f o)

/-- A placeholder together with its separator. -/
def unitTree (f : Flags) (o : Options) (group : Tree) : Shape → Tree
  | .foldLeft => .cat (charTree f o.separator) group
  | .foldRight => .cat group (charTree f o.separator)
  | .bare => group

/-- A part that may be left out if it is optional. -/
def maybe (f : Flags) (optional : Bool) (r : Tree) : Tree :=
  if optional then .rep 0 (some 1) (true != f.swapGreed) r else r

/-- What the parts of a piece mean, if `G` tells the groups of placeholders. -/
def treesBy (f : Flags) (o : Options) (G : Option String → Fragment → Nat → Tree) :
    Piece → List Tree
  | nothing => []
  | text chars => chars.map (charTree f)
  | separator tolerated => [maybe f tolerated (charTree f o.separator)]
  | unit shape name optional x n => [maybe f optional (unitTree f o (G name x n) shape)]

/-- What the parts of a piece mean where no placeholder has an expression of its own. -/
def trees (f : Flags) (o : Options) : Piece → List Tree :=
  treesBy f o fun name _ n => groupTree f o name n

variable {f : Flags} {o : Options}

theorem toTree?_char (hf : f.unicode = true) (c : Char) :
    (Expr.char c false).toTree? f = some (charTree f c, f) := by
  simp [Expr.toTree?, charTree, Flags.form, hf]

theorem toTree?_standard (hf : f.unicode = true) (o : Options) (n : Nat) :
    ((Fragment.standard o).body n).toTree? f = some (standardTree f o, f) := by
  simp [Fragment.standard, Expr.toTree?, ClassExpr.toSet?, Flags.allows, Flags.negate?, Flags.form,
    hf, standardTree, Tree.repeated, Tree.isEmptyOnly]

/-- A group without flags means what stands in it, unless that is a choice. -/
theorem toTree?_group {e : Expr} {r : Tree} (h : e.toTree? f = some (r, f)) (hr : r.choices = [r]) :
    (Expr.group {} e).toTree? f = some (r, f) := by
  simp only [Expr.toTree?, Flags.change_empty, h, Option.bind_eq_bind, Option.bind_some,
    Tree.factored_of_choices hr]
  rfl

theorem toTree?_groupExpr (hf : f.unicode = true) (name : Option String) (n : Nat) :
    (groupExpr name (Fragment.standard o) n).toTree? f = some (groupTree f o name n, f) := by
  have h m := toTree?_group (toTree?_standard hf o m) rfl
  cases name with
  | none => exact h n
  | some name =>
    rw [groupExpr, Expr.toTree?, h]
    rfl

theorem toTree?_unitExpr (hf : f.unicode = true) {e : Expr} {r : Tree}
    (h : e.toTree? f = some (r, f)) (shape : Shape) :
    (unitExpr o e shape).toTree? f = some (unitTree f o r shape, f) := by
  have hc := toTree?_char hf o.separator
  cases shape with
  | foldLeft =>
    have hs : [.char o.separator false, e].map (Expr.toTree? f) =
        [charTree f o.separator, r].map fun t => some (t, f) := by simp [hc, h]
    exact toTree?_group (Expr.toTree?_series hs) rfl
  | foldRight =>
    have hs : [e, .char o.separator false].map (Expr.toTree? f) =
        [r, charTree f o.separator].map fun t => some (t, f) := by simp [hc, h]
    exact toTree?_group (Expr.toTree?_series hs) rfl
  | bare => exact h

theorem toTree?_optionally {e : Expr} {r : Tree} (h : e.toTree? f = some (r, f))
    (optional : Bool) :
    (optionally optional e).toTree? f = some (maybe f optional r, f) := by
  cases optional with
  | false => exact h
  | true => simp [optionally, maybe, Expr.toTree?, h, Tree.repeated]

/-- Each part of a piece has its meaning, and leaves the flags as they are, if the group of a
placeholder does so. -/
theorem toTree?_exprs_of_groups (hf : f.unicode = true) {G : Option String → Fragment → Nat → Tree}
    {p : Piece} (hp : ∀ shape name optional x n, p = unit shape name optional x n →
      (groupExpr name x n).toTree? f = some (G name x n, f)) :
    (p.exprs o).map (·.toTree? f) = (p.treesBy f o G).map fun t => some (t, f) := by
  cases p with
  | nothing => rfl
  | text chars =>
    rw [exprs, treesBy, List.map_map, List.map_map]
    exact List.map_congr_left fun c _ => toTree?_char hf c
  | separator tolerated =>
    exact congrArg (fun x => [x]) (toTree?_optionally (toTree?_char hf o.separator) tolerated)
  | unit shape name optional x n =>
    have hg := hp _ _ _ _ _ rfl
    exact congrArg (fun x => [x]) (toTree?_optionally (toTree?_unitExpr hf hg shape) optional)

theorem toTree?_exprs (hf : f.unicode = true) {p : Piece}
    (hp : ∀ shape name optional x n, p = unit shape name optional x n → x = Fragment.standard o) :
    (p.exprs o).map (·.toTree? f) = (p.trees f o).map fun t => some (t, f) := by
  apply toTree?_exprs_of_groups hf
  intro shape name optional x n h
  obtain rfl := hp _ _ _ _ _ h
  exact toTree?_groupExpr hf name n

end Piece

/-! ## The whole source -/

namespace Source

/-- The pieces of a template whose placeholders all have the standard expression. -/
def standardPieces (o : Options) (tokens : List Token) : List Piece :=
  Piece.ofTokens o (fun _ => Fragment.standard o) tokens

/-- Parts between the two ends. -/
def bounded (o : Options) (ts : List Tree) : List Tree :=
  .look (o.regexFlags.look .lineStart) :: (ts ++ [.look (o.regexFlags.look .lineEnd)])

/-- A row of parts between the two ends, as it is compiled under the flags of the options. Flags
leave an empty part. -/
def framed (o : Options) (ts : List Tree) : Tree :=
  .ofParts (if o.flags = "" then bounded o ts else .empty :: bounded o ts)

/-- The parts that match the texts of a template, between the two ends. -/
def core (o : Options) (tokens : List Token) : List Tree :=
  (standardPieces o tokens).flatMap (Piece.trees o.regexFlags o)

/-- What the source of a template is compiled to. -/
def tree (o : Options) (tokens : List Token) : Tree :=
  framed o (core o tokens)

variable {o : Options}

theorem eq_standard_of_mem {shape : Shape} {name : Option String} {optional : Bool}
    {x : Fragment} {n : Nat} {tokens : List Token}
    (h : Piece.unit shape name optional x n ∈ standardPieces o tokens) :
    x = Fragment.standard o := by
  obtain ⟨-, -, -, -, rfl⟩ := Piece.exists_name_of_mem_ofTokens h
  rfl

/-- The parts of the pieces have their meaning, and leave the flags as they are. -/
theorem toTree?_flatMap_exprs {f : Flags} {F : Piece → List Tree} (ps : List Piece)
    (hp : ∀ p ∈ ps, (p.exprs o).map (·.toTree? f) = (F p).map fun t => some (t, f)) :
    (ps.flatMap (Piece.exprs o)).map (·.toTree? f) =
      (ps.flatMap F).map fun t => some (t, f) := by
  induction ps with
  | nil => rfl
  | cons p ps ih =>
    rw [List.flatMap_cons, List.flatMap_cons, List.map_append, List.map_append,
      ih fun p h => hp p (List.mem_cons_of_mem _ h), hp p List.mem_cons_self]

/-- The expression of a template has a meaning if its parts have one that leaves the flags as they
are. -/
theorem toTree?_expr_of_parts {x : String → Fragment} {tokens : List Token} {ts : List Tree}
    (h : ((Piece.ofTokens o x tokens).flatMap (Piece.exprs o)).map (·.toTree? o.regexFlags) =
      ts.map fun t => some (t, o.regexFlags)) :
    (expr o x tokens).toTree? {} = some (framed o ts, o.regexFlags) := by
  have hc : (Expr.assert .lineStart :: ((Piece.ofTokens o x tokens).flatMap (Piece.exprs o) ++
      [.assert .lineEnd])).map (·.toTree? o.regexFlags) =
        (bounded o ts).map fun t => some (t, o.regexFlags) := by
    rw [bounded, List.map_cons, List.map_cons, List.map_append, List.map_append, h]
    rfl
  have hs := Expr.toTree?_series hc
  rw [expr, framed, flagExprs]
  split
  · next h =>
    rw [List.nil_append]
    rw [Options.regexFlags_of_flags_eq h] at hs ⊢
    exact hs
  · rw [List.singleton_append, Expr.series_cons_cons, Expr.toTree?]
    simp only [Expr.toTree?, Option.bind_eq_bind, Option.bind_some]
    rw [show ({} : Flags).change o.flagChange = o.regexFlags from rfl, hs]
    rfl

/-- The expression of a template has a meaning, whatever the flags. -/
theorem toTree?_expr (o : Options) (tokens : List Token) :
    (expr o (fun _ => Fragment.standard o) tokens).toTree? {} =
      some (tree o tokens, o.regexFlags) := by
  apply toTree?_expr_of_parts
  apply toTree?_flatMap_exprs
  intro p hm
  apply Piece.toTree?_exprs o.unicode_regexFlags
  rintro _ _ _ _ _ rfl
  exact eq_standard_of_mem hm

end Source

/-! ## Nesting -/

namespace Piece

variable {o : Options}

theorem depth_groupExpr_le (name : Option String) (n : Nat) :
    (groupExpr name (Fragment.standard o) n).depth ≤ 4 := by
  cases name <;> simp [groupExpr, Fragment.standard, Expr.depth, ClassExpr.depth]

theorem depth_unitExpr_le {e : Expr} {d : Nat} (he : e.depth ≤ d) (shape : Shape) :
    (unitExpr o e shape).depth ≤ d + 2 := by
  have hc : (Expr.char o.separator false).depth ≤ d := Nat.zero_le d
  cases shape with
  | foldLeft =>
    refine Nat.succ_le_succ (Expr.depth_series _ ?_)
    simp [hc, he]
  | foldRight =>
    refine Nat.succ_le_succ (Expr.depth_series _ ?_)
    simp [hc, he]
  | bare => exact Nat.le_add_right_of_le he

theorem depth_optionally_le {e : Expr} {d : Nat} (he : e.depth ≤ d) (optional : Bool) :
    (optionally optional e).depth ≤ d + 1 := by
  cases optional with
  | false => exact Nat.le_succ_of_le he
  | true => exact Nat.succ_le_succ he

theorem depth_le_of_mem_exprs {p : Piece} {e : Expr} (h : e ∈ p.exprs o)
    (hp : ∀ shape name optional x n, p = unit shape name optional x n → x = Fragment.standard o) :
    e.depth ≤ 7 := by
  cases p with
  | nothing => cases h
  | text chars =>
    obtain ⟨c, -, rfl⟩ := List.mem_map.1 h
    exact Nat.zero_le 7
  | separator tolerated =>
    have hc : (Expr.char o.separator false).depth ≤ 6 := Nat.zero_le 6
    rw [List.mem_singleton.1 h]
    exact depth_optionally_le hc tolerated
  | unit shape name optional x n =>
    obtain rfl := hp _ _ _ _ _ rfl
    rw [List.mem_singleton.1 h]
    exact depth_optionally_le (depth_unitExpr_le (depth_groupExpr_le name n) shape) optional

end Piece

namespace Source

variable {o : Options}

/-- However long a template is, its expression is nested only as deep as a single placeholder. -/
theorem depth_expr_le (o : Options) (tokens : List Token) :
    (expr o (fun _ => Fragment.standard o) tokens).depth ≤ 8 := by
  refine Expr.depth_series _ fun e he => ?_
  rcases List.mem_append.1 he with he | he
  · rw [flagExprs] at he
    split at he
    · cases he
    · rw [List.mem_singleton.1 he]
      exact Nat.zero_le 7
  · rcases List.mem_cons.1 he with rfl | he
    · exact Nat.zero_le 7
    · rcases List.mem_append.1 he with he | he
      · obtain ⟨p, hp, he⟩ := List.mem_flatMap.1 he
        refine Piece.depth_le_of_mem_exprs he ?_
        rintro _ _ _ _ _ rfl
        exact eq_standard_of_mem hp
      · rw [List.mem_singleton.1 he]
        exact Nat.zero_le 7

/-! ## Compilation -/

/-- A row of at least two parts is no choice. -/
theorem factored_framed (o : Options) (ts : List Tree) : (framed o ts).factored = framed o ts := by
  refine Tree.factored_of_choices ?_
  rw [framed]
  split
  · -- The two ends are always there, so the row is never a part alone.
    rw [bounded]
    cases ts <;> rfl
  · rfl

theorem factored_tree (o : Options) (tokens : List Token) :
    (tree o tokens).factored = tree o tokens :=
  factored_framed o _

theorem text_standard (hd : o.defaultExpression = none) (name : String) :
    (Fragment.standard o).text = (expressionFor o [] name).toList := by
  simp [Fragment.standard, expressionFor, Options.placeholderExpression, hd,
    toList_escapedSeparator]

/-- The source of a template is compiled to its tree, unless that is beyond the limits. -/
theorem compile?_ofTokens (ho : o.fault? = none) (hd : o.defaultExpression = none)
    {tokens : List Token}
    (hn : ∀ t ∈ tokens, ∀ name ∈ t.name?, Token.validName name = true) (limits : Limits) :
    compile? limits (ofTokens o [] tokens) =
      if (expr o (fun _ => Fragment.standard o) tokens).depth ≤ limits.depth ∧
          limits.weight.all (tree o tokens).fits then
        some ⟨ofTokens o [] tokens, tree o tokens⟩
      else none := by
  rw [compile?, ofSource?_ofTokens ho (fun _ _ name _ => text_standard hd name)
    (fun _ _ _ _ => Fragment.isContained_standard o) hn]
  simp only [Option.bind_eq_bind, Option.bind_some, toTree?_expr, factored_tree]
  rfl

/-- The source of a template is compiled if only its size has no bound. -/
theorem exists_compile? (ho : o.fault? = none) (hd : o.defaultExpression = none)
    {tokens : List Token} (hn : ∀ t ∈ tokens, ∀ name ∈ t.name?, Token.validName name = true) :
    ∃ r, compile? { weight := none } (ofTokens o [] tokens) = some r := by
  have h := Nat.le_trans (depth_expr_le o tokens) (show 8 ≤ 250 by decide)
  rw [compile?_ofTokens ho hd hn, if_pos ⟨h, rfl⟩]
  exact ⟨_, rfl⟩

/-- Within any limits, the regular expression of a template is its tree. -/
theorem tree_of_compile? (ho : o.fault? = none) (hd : o.defaultExpression = none)
    {tokens : List Token} (hn : ∀ t ∈ tokens, ∀ name ∈ t.name?, Token.validName name = true)
    {limits : Limits} {r : Regex} (h : compile? limits (ofTokens o [] tokens) = some r) :
    r.tree = tree o tokens := by
  rw [compile?_ofTokens ho hd hn] at h
  split at h
  · cases h
    rfl
  · cases h

end Source

end PathTemplate
