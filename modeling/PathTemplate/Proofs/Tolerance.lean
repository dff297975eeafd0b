import PathTemplate.Proofs.Fragments
import PathTemplate.Proofs.Language
import PathTemplate.Proofs.Words
/-!
# Trailing separators

What it changes that a trailing separator is tolerated. With and without tolerance the pieces of a
template are the same but for the last one, so the texts that match are words of one language with
different ends (`Source.exists_words_forest`). This is said for any expressions that placeholders
have, as long as they set no conditions: they may match separators themselves, and still no text is
gained or lost but for one separator at its end.
-/

namespace PathTemplate

open Regex

/-- The options with tolerance for a trailing separator, or without. -/
def Options.tolerating (o : Options) (tolerant : Bool) : Options :=
  { o with allowTrailingSeparator := tolerant }

/-! ## The last piece -/

namespace Piece

variable {o : Options}

/-- With and without tolerance the tokens are laid out alike up to a separator at the end that is
written on its own. -/
theorem exists_layout_eq_append (o : Options) (x : String → Fragment) (tokens : List Token) :
    ∀ before bound n, ∃ ps, ∀ tolerant, layout (o.tolerating tolerant) x before bound n tokens =
      ps ++ if Filling.endsAlone o.capture before tokens then [separator tolerant] else [] := by
  induction tokens with
  | nil => exact fun _ _ _ => ⟨[], fun _ => rfl⟩
  | cons t tokens ih =>
    intro before bound n
    -- A piece that is the same in both cases stays in front of those after it.
    have step : ∀ (p : Piece) (names : List String) (m : Nat),
        Filling.endsAlone o.capture before (t :: tokens) =
            Filling.endsAlone o.capture (t :: before) tokens →
          (∀ tolerant, layout (o.tolerating tolerant) x before bound n (t :: tokens) =
            p :: layout (o.tolerating tolerant) x (t :: before) names m tokens) →
          ∃ ps, ∀ tolerant, layout (o.tolerating tolerant) x before bound n (t :: tokens) =
            ps ++ if Filling.endsAlone o.capture before (t :: tokens) then [separator tolerant]
              else [] := by
      intro p names m he hp
      obtain ⟨ps, hps⟩ := ih (t :: before) names m
      refine ⟨p :: ps, fun tolerant => ?_⟩
      rw [hp, hps, he, List.cons_append]
    cases t with
    | literal s => exact step (text s.toList) bound n (by cases tokens <;> rfl) fun _ => rfl
    | placeholder name optional =>
      let p := unit (Source.shapeAt o.capture before optional tokens)
        (if name ∈ bound then none else some name) optional (x name) n
      exact step p (Token.addName bound name) (n + p.groups) (by cases tokens <;> rfl) fun _ => rfl
    | separator =>
      cases tokens with
      | cons u tokens =>
        exact step (if Source.isFolded o.capture before (u :: tokens) then nothing
          else separator false) bound n rfl fun _ => rfl
      | nil =>
        rw [Filling.endsAlone]
        cases hf : Source.isFolded o.capture before [] with
        | true => exact ⟨[nothing], fun tolerant => by simp [layout, Options.tolerating, hf]⟩
        | false => exact ⟨[], fun tolerant => by simp [layout, Options.tolerating, hf]⟩

end Piece

/-! ## Words -/

namespace Piece

variable {f : Flags}

theorem words_charTree (hf : f.caseless = false) (c : Char) : (charTree f c).words = {[c]} := by
  ext w
  simp only [charTree, Flags.fold, hf]
  constructor
  · rintro ⟨d, hd, rfl⟩
    rw [CharSet.contains_single] at hd
    rw [eq_of_beq hd]
    rfl
  · rintro rfl
    exact ⟨c, by simp, rfl⟩

theorem words_maybe (f : Flags) (optional : Bool) (r : Tree) :
    (maybe f optional r).words = if optional then 1 + r.words else r.words := by
  cases optional with
  | false => rfl
  | true =>
    ext w
    rw [if_pos rfl, Language.mem_add]
    constructor
    · rintro ⟨n, hn, hw⟩
      have hn : n ≤ 1 := of_decide_eq_true hn
      rw [Nat.zero_add] at hw
      rcases Nat.le_one_iff_eq_zero_or_eq_one.1 hn with rfl | rfl
      · exact .inl hw
      · rw [pow_one] at hw
        exact .inr hw
    · rintro (hw | hw)
      · exact ⟨0, rfl, hw⟩
      · exact ⟨1, rfl, by rwa [pow_one]⟩

end Piece

namespace Source

variable {o : Options} {overrides : Overrides} {tokens : List Token}

/-- What a text may end with where the last token is a separator of its own, or no separator. -/
def lastWords (o : Options) (tokens : List Token) (tolerant : Bool) : Language Char :=
  if tokens.getLast? = some .separator then
    if Token.owner? o.capture tokens (tokens.length - 1) = none then
      if tolerant then 1 + {[o.separator]} else {[o.separator]}
    else 1
  else if tolerant then 1 + {[o.separator]} else 1

/-- The texts of a template with tolerance and without are the same but for what they end with. -/
theorem exists_words_forest (hi : o.regexFlags.caseless = false) (overrides : Overrides)
    (tokens : List Token) : ∃ K : Language Char, ∀ tolerant,
      ((forest (o.tolerating tolerant) overrides tokens).map Tree.words).prod =
        K * lastWords o tokens tolerant := by
  obtain ⟨ps, hps⟩ := Piece.exists_layout_eq_append o (fragment o overrides) tokens [] [] 0
  let F := Piece.treesBy o.regexFlags o (Piece.holder o.regexFlags)
  have hsep : ∀ tolerant, ((F (Piece.separator tolerant)).map Tree.words).prod =
      if tolerant then 1 + {[o.separator]} else {[o.separator]} := by
    intro tolerant
    simp [F, Piece.treesBy, Piece.words_maybe, Piece.words_charTree hi]
  refine ⟨((ps.flatMap F).map Tree.words).prod, fun tolerant => ?_⟩
  have hf : forest (o.tolerating tolerant) overrides tokens =
      (Piece.layout (o.tolerating tolerant) (fragment o overrides) [] [] 0 tokens ++
        if tolerant && !(tokens.getLast?.any Token.isSeparator) then [Piece.separator true]
        else []).flatMap F := rfl
  rw [hf, hps, List.flatMap_append, List.flatMap_append, List.map_append, List.map_append,
    List.prod_append, List.prod_append, mul_assoc]
  congr 1
  have he := Filling.endsAlone_iff o.capture tokens []
  rw [List.reverse_nil, List.nil_append, List.length_nil, Nat.zero_add] at he
  unfold lastWords
  by_cases hl : tokens.getLast? = some .separator
  · have ha := Token.any_isSeparator_iff.2 hl
    by_cases ho : Token.owner? o.capture tokens (tokens.length - 1) = none
    · rw [if_pos hl, if_pos ho, if_pos (he.2 ⟨hl, ho⟩), ha]
      simp [hsep]
    · rw [if_pos hl, if_neg ho, if_neg fun h => ho (he.1 h).2, ha]
      simp
  · have ha := Token.any_isSeparator_eq_false_iff.2 hl
    rw [if_neg hl, if_neg fun h => hl (he.1 h).1, ha]
    cases tolerant <;> simp [hsep]

/-- What is said of an expression that is given holds where it is used. -/
theorem isUnconditional_body_fragment {name : String}
    (h : ∀ text ∈ given? o overrides name, ∃ e, Options.IsEmbeddable {} text e ∧ e.IsUnconditional)
    (n : Nat) : ((fragment o overrides name).body n).IsUnconditional := by
  unfold fragment
  cases hg : given? o overrides name with
  | none => trivial
  | some text =>
    obtain ⟨e, he, hu⟩ := h text hg
    simp only [he.parse, Option.getD_some]
    exact Expr.all_renumber_iff.2 hu

theorem isUnconditional_of_mem_forest
    (hx : ∀ t ∈ tokens, ∀ name ∈ t.name?, ∀ n,
      ((fragment o overrides name).body n).IsUnconditional) :
    ∀ r ∈ forest o overrides tokens, r.IsUnconditional := by
  intro r hr
  obtain ⟨p, hp, hr⟩ := List.mem_flatMap.1 hr
  refine Piece.all_of_mem_treesBy ?_ r hr
  rintro shape name optional x n rfl
  obtain ⟨t, ht, z, hz, rfl⟩ := Piece.exists_name_of_mem_ofTokens hp
  have hb m : ((fragment o overrides z).tree o.regexFlags m).IsUnconditional :=
    Fragment.all_tree (hx t ht z hz m) fun _ _ h => h
  cases name with
  | none => exact hb n
  | some name => exact ⟨trivial, (hb (n + 1)).factored⟩

end Source

/-! ## Texts that match -/

namespace Regex

variable {o : Options} {overrides : Overrides} {tokens : List Token}

/-- Where the ends are those of the text and the parts set no conditions, the words of the parts in
a row match, and no other texts. -/
theorem isMatch_iff_mem_words {r : Regex} {ts : List Tree} (hr : r.tree = Source.framed o ts)
    (hm : o.regexFlags.multiLine = false) (ht : ∀ t ∈ ts, t.IsUnconditional) (c : String) :
    r.isMatch c = true ↔ c.toList ∈ (ts.map Tree.words).prod := by
  have hs : Spells c.toList.toArray (Tree.Chain c.toList.toArray ts) (ts.map Tree.words).prod :=
    Tree.spells_chain ht
  rw [isMatch, isSome_find?_iff, hr]
  constructor
  · rintro ⟨i, q, hi, h⟩
    obtain ⟨h₀, hq, hsize⟩ := (Source.matches_framed_iff hm hi).1 h
    obtain ⟨w, hw, ha, hp⟩ := (hs ⟨i, []⟩ q.place).1 ⟨q, hq, rfl⟩
    obtain rfl : i = 0 := h₀
    rw [Nat.zero_add] at hp
    have hc := eq_toList_of_at ha (hp ▸ hsize)
    rw [hc] at hw
    exact hw
  · intro hw
    obtain ⟨q, hq, hp⟩ := (hs ⟨0, []⟩ _).2 ⟨_, hw, at_toList _, rfl⟩
    refine ⟨0, q, Nat.zero_le _, (Source.matches_framed_iff hm (Nat.zero_le _)).2 ⟨rfl, hq, ?_⟩⟩
    rw [hp]
    simp

section Given

variable (ho : o.fault? = none) (hs : ∀ c ∈ o.flags.toList, c ∈ ['s', 'u', 'U'])
  (hn : ∀ t ∈ tokens, ∀ name ∈ t.name?, Token.validName name = true)
  (hx : ∀ t ∈ tokens, ∀ name ∈ t.name?, ∀ text ∈ Source.given? o overrides name,
    ∃ e, Options.IsEmbeddable {} text e ∧ e.IsUnconditional) {limits : Limits}
include ho hs hn hx

/-- The texts that match a template are the words of its parts. -/
theorem isMatch_iff_mem_forest {r : Regex}
    (hr : compile? limits (Source.ofTokens o overrides tokens) = some r) (c : String) :
    r.isMatch c = true ↔ c.toList ∈ ((Source.forest o overrides tokens).map Tree.words).prod := by
  have hu := fun t ht name hname => Source.isUsable_fragment (o := o) fun text hg =>
    (hx t ht name hname text hg).imp fun _ he => he.1
  have ht := (Source.tree_eq_framed ho hn hu hr).2
  have hm := (Options.caseless_and_multiLine_of_flags hs).2
  refine isMatch_iff_mem_words ht hm (Source.isUnconditional_of_mem_forest ?_) c
  exact fun t ht name hname => Source.isUnconditional_body_fragment (hx t ht name hname)

/-- What tolerance for a trailing separator is worth. If the last token is no separator, the texts
that match come to match with one more separator at their end. If it is a separator that belongs to
no placeholder, the texts that match come to match without it. If it belongs to one, nothing is
changed. -/
theorem isMatch_tolerating {on off : Regex}
    (hon : compile? limits (Source.ofTokens (o.tolerating true) overrides tokens) = some on)
    (hoff : compile? limits (Source.ofTokens (o.tolerating false) overrides tokens) = some off)
    (c : String) :
    (tokens.getLast? ≠ some .separator → (on.isMatch c = true ↔ off.isMatch c = true ∨
      ∃ d, c = d ++ String.singleton o.separator ∧ off.isMatch d = true)) ∧
    (tokens.getLast? = some .separator →
      Token.owner? o.capture tokens (tokens.length - 1) = none →
        (on.isMatch c = true ↔ off.isMatch c = true ∨
          off.isMatch (c ++ String.singleton o.separator) = true)) ∧
    (tokens.getLast? = some .separator →
      Token.owner? o.capture tokens (tokens.length - 1) ≠ none →
        (on.isMatch c = true ↔ off.isMatch c = true)) := by
  have hi := (Options.caseless_and_multiLine_of_flags hs).1
  obtain ⟨K, hK⟩ := Source.exists_words_forest hi overrides tokens
  have key : ∀ {tolerant : Bool} {r : Regex},
      compile? limits (Source.ofTokens (o.tolerating tolerant) overrides tokens) = some r →
        ∀ c, r.isMatch c = true ↔ c.toList ∈ K * Source.lastWords o tokens tolerant := by
    intro tolerant r hr c
    rw [← hK]
    exact isMatch_iff_mem_forest (o := o.tolerating tolerant) ho hs hn hx hr c
  simp only [key hon, key hoff]
  unfold Source.lastWords
  refine ⟨fun hl => ?_, fun hl hw => ?_, fun hl hw => ?_⟩
  · simp only [hl, if_false, if_true, Bool.false_eq_true, mul_add, mul_one, Language.mem_add,
      mem_mul_singleton_iff]
    refine or_congr Iff.rfl ⟨?_, ?_⟩
    · rintro ⟨d, hd, he⟩
      refine ⟨String.ofList d, ?_, by simpa using hd⟩
      simpa [← String.toList_inj] using he.symm
    · rintro ⟨d, rfl, hd⟩
      exact ⟨d.toList, hd, by simp⟩
  · simp only [hl, hw, if_false, if_true, Bool.false_eq_true, mul_add, mul_one, Language.mem_add,
      mem_mul_singleton_iff]
    rw [or_comm]
    refine or_congr Iff.rfl ⟨fun h => ⟨c.toList, h, by simp⟩, ?_⟩
    rintro ⟨d, hd, he⟩
    rw [String.toList_append, String.toList_singleton] at he
    rwa [← List.append_cancel_right he]
  · simp only [hl, hw, if_false, if_true]

end Given

/-- A separator of its own at the end need not be there, after a placeholder that takes an
alternation with a change of flags in it. -/
theorem isMatch_tolerating_alternation :
    ∃ on off, compile? { weight := none } (Source.ofTokens (Options.tolerating {} true)
        [("a", "x|(y)(?i)z")] [.placeholder "a" false, .separator]) = some on ∧
      compile? { weight := none } (Source.ofTokens (Options.tolerating {} false)
        [("a", "x|(y)(?i)z")] [.placeholder "a" false, .separator]) = some off ∧
      on.isMatch "x" = true := by
  have hx : ∀ t ∈ [Token.placeholder "a" false, .separator], ∀ name ∈ t.name?,
      ∀ text ∈ Source.given? {} [("a", "x|(y)(?i)z")] name,
        ∃ e, Options.IsEmbeddable {} text e ∧ e.IsUnconditional := by
    simp only [List.forall_mem_cons]
    refine ⟨?_, nofun, nofun⟩
    rintro _ ⟨⟩ _ ⟨⟩
    refine ⟨Source.alternation, Source.isEmbeddable_alternation.of_options {}, ?_⟩
    simp [Source.alternation, Expr.IsUnconditional, Expr.All]
  have hon : (compile? { weight := none } (Source.ofTokens (Options.tolerating {} true)
      [("a", "x|(y)(?i)z")] [.placeholder "a" false, .separator])).isSome = true := by
    decide +kernel
  have hoff : ∃ off, compile? { weight := none } (Source.ofTokens (Options.tolerating {} false)
      [("a", "x|(y)(?i)z")] [.placeholder "a" false, .separator]) = some off ∧
        off.isMatch "x/" = true := by
    rw [← Option.any_eq_true]
    decide +kernel
  obtain ⟨on, hon⟩ := Option.isSome_iff_exists.1 hon
  obtain ⟨off, hoff, hm⟩ := hoff
  have h := isMatch_tolerating (by decide) (by simp) (by decide) hx hon hoff "x"
  exact ⟨on, off, hon, hoff, (h.2.1 rfl rfl).2 (.inr hm)⟩

end Regex

end PathTemplate
