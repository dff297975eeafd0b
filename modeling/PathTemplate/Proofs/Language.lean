import PathTemplate.Proofs.Filling
import PathTemplate.Proofs.Matching
import PathTemplate.Proofs.Meaning
import PathTemplate.Proofs.Walk
/-!
# The language of a template

Where case counts, each piece of a template goes on from a place by the words for it, and by no
others. A walk through all pieces therefore is a filling together with the choice whether the
separator that may be missing is there (`Piece.chain_iff`), and what a template matches are the
texts of its fillings.
-/

namespace PathTemplate

open Regex

namespace Piece

/-! ## Words for a piece -/

/-- The word for a piece under a choice for its placeholder. `kept` says whether a separator that
may be missing is there. -/
def word (o : Options) (kept : Bool) (choice : Option String) : Piece → List Char
  | nothing => []
  | text chars => chars
  | separator tolerated => if tolerated && !kept then [] else [o.separator]
  | unit shape _ _ _ _ => choice.elim [] fun s => Filling.unit o s.toList shape

/-- Whether a piece can have the choice. -/
def Takes (o : Options) (choice : Option String) : Piece → Prop
  | unit _ _ optional _ _ => o.Accepts optional choice
  | _ => True

/-- The progress past the word of a group. -/
def pastGroup (name : Option String) (n : Nat) (w : List Char) (p : Progress) : Progress :=
  if name.isSome then p.captured (n + 1) w else p.past w

/-- The progress past the word of a placeholder and its separator. -/
def pastUnit (o : Options) (name : Option String) (n : Nat) (w : List Char) (p : Progress) :
    Shape → Progress
  | .foldLeft => pastGroup name n w (p.past [o.separator])
  | .foldRight => (pastGroup name n w p).past [o.separator]
  | .bare => pastGroup name n w p

/-- The progress past the word of a piece. -/
def past (o : Options) (kept : Bool) (choice : Option String) (p : Progress) : Piece → Progress
  | unit shape name _ _ n => choice.elim p fun s => pastUnit o name n s.toList p shape
  | piece => p.past (piece.word o kept choice)

variable {o : Options} {f : Flags} {text : Array Char} {p q : Progress}

theorem place_pastGroup (name : Option String) (n : Nat) (w : List Char) (p : Progress) :
    (pastGroup name n w p).place = p.place + w.length := by
  cases name <;> rfl

theorem place_past (kept : Bool) (choice : Option String) (p : Progress) (x : Piece) :
    (x.past o kept choice p).place = p.place + (x.word o kept choice).length := by
  cases x with
  | unit shape name optional y n =>
    cases choice with
    | none => rfl
    | some s =>
      cases shape <;>
        simp [past, pastUnit, word, Filling.unit, place_pastGroup, Nat.add_assoc, Nat.add_comm 1]
  | _ => rfl

/-- Without a group of its own that takes part, a piece leaves the groups as they were. -/
theorem group?_past_of_ne {x : Piece} {k : Nat}
    (h : ∀ shape name optional y n, x = unit shape (some name) optional y n → k ≠ n + 1)
    (kept : Bool) (choice : Option String) (p : Progress) :
    (x.past o kept choice p).group? k = p.group? k := by
  cases x with
  | unit shape name optional y n =>
    cases choice with
    | none => rfl
    | some s =>
      cases name with
      | none => cases shape <;> rfl
      | some name =>
        have hk := h _ _ _ _ _ rfl
        cases shape <;> exact Progress.group?_captured_of_ne _ hk _
  | _ => rfl

/-- The group of a placeholder has the text that was chosen for it. -/
theorem groupText?_past_unit {shape : Shape} {name : String} {optional : Bool} {y : Fragment}
    {n : Nat} {kept : Bool} {choice : Option String} (hp : p.group? (n + 1) = none)
    (h : At text p.place ((unit shape (some name) optional y n).word o kept choice)) :
    ((unit shape (some name) optional y n).past o kept choice p).groupText? text (n + 1) =
      choice := by
  have key : ∀ (p : Progress) (s : String), At text p.place s.toList →
      (p.captured (n + 1) s.toList).groupText? text (n + 1) = some s := by
    intro p s hs
    rw [Progress.groupText?, Progress.group?_captured_self, Option.map_some]
    dsimp only
    rw [toList_extract_of_at hs, String.ofList_toList]
  cases choice with
  | none =>
    -- Left out, the group keeps what it had before, which is nothing.
    show (p.group? (n + 1)).map _ = none
    rw [hp]
    rfl
  | some s =>
    cases shape with
    | foldLeft => exact key _ s (at_cons.1 h).2
    | foldRight => exact key _ s (at_append.1 h).1
    | bare => exact key _ s h

/-! ## Each piece has its words -/

theorem matches_charTree_iff (hf : f.caseless = false) {c : Char} :
    (charTree f c).Matches text p q ↔ At text p.place [c] ∧ q = p.past [c] := by
  simp [charTree, Flags.fold, hf, Tree.matches_set_iff]

theorem matches_standardTree_iff (hf : f.caseless = false) :
    (standardTree f o).Matches text p q ↔
      ∃ w, w ≠ [] ∧ o.separator ∉ w ∧ At text p.place w ∧ q = p.past w := by
  have hw : ∀ w : List Char,
      (∀ c ∈ w, (CharSet.compl (f.fold (.single o.separator))).contains c = true) ↔
        o.separator ∉ w := by
    intro w
    simp [Flags.fold, hf, List.forall_mem_ne']
  simp only [standardTree, Tree.matches_rep_set_iff, hw]

theorem matches_groupTree_iff (hf : f.caseless = false) {name : Option String} {n : Nat} :
    (groupTree f o name n).Matches text p q ↔
      ∃ w, w ≠ [] ∧ o.separator ∉ w ∧ At text p.place w ∧ q = pastGroup name n w p := by
  cases name with
  | none => exact matches_standardTree_iff hf
  | some name =>
    simp only [groupTree, Tree.Matches, matches_standardTree_iff hf]
    constructor
    · rintro ⟨_, ⟨w, hw, hs, hp, rfl⟩, rfl⟩
      exact ⟨w, hw, hs, hp, rfl⟩
    · rintro ⟨w, hw, hs, hp, rfl⟩
      exact ⟨_, ⟨w, hw, hs, hp, rfl⟩, rfl⟩

theorem matches_unitTree_iff (hf : f.caseless = false) {name : Option String} {n : Nat}
    {shape : Shape} :
    (unitTree f o (groupTree f o name n) shape).Matches text p q ↔
      ∃ w, w ≠ [] ∧ o.separator ∉ w ∧ At text p.place (Filling.unit o w shape) ∧
        q = pastUnit o name n w p shape := by
  cases shape with
  | foldLeft =>
    simp only [unitTree, Tree.Matches, matches_charTree_iff hf, matches_groupTree_iff hf]
    constructor
    · rintro ⟨_, ⟨hc, rfl⟩, w, hw, hs, hp, rfl⟩
      exact ⟨w, hw, hs, at_cons.2 ⟨hc, hp⟩, rfl⟩
    · rintro ⟨w, hw, hs, hp, rfl⟩
      obtain ⟨hc, hp⟩ := at_cons.1 hp
      exact ⟨_, ⟨hc, rfl⟩, w, hw, hs, hp, rfl⟩
  | foldRight =>
    simp only [unitTree, Tree.Matches, matches_charTree_iff hf, matches_groupTree_iff hf]
    constructor
    · rintro ⟨_, ⟨w, hw, hs, hp, rfl⟩, hc, rfl⟩
      rw [place_pastGroup] at hc
      exact ⟨w, hw, hs, at_append.2 ⟨hp, hc⟩, rfl⟩
    · rintro ⟨w, hw, hs, hp, rfl⟩
      obtain ⟨hp, hc⟩ := at_append.1 hp
      exact ⟨_, ⟨w, hw, hs, hp, rfl⟩, by rwa [place_pastGroup], rfl⟩
  | bare => exact matches_groupTree_iff hf

theorem matches_maybe_iff {optional : Bool} {r : Tree} :
    (maybe f optional r).Matches text p q ↔ (optional = true ∧ q = p) ∨ r.Matches text p q := by
  cases optional with
  | false => simp [maybe]
  | true => simp [maybe, Tree.matches_opt_iff]

/-- A piece goes on from a place by the words that it has for its choices. -/
theorem chain_trees_iff (hf : f.caseless = false) {x : Piece} :
    Tree.Chain text (x.trees f o) p q ↔ ∃ kept choice, x.Takes o choice ∧
      At text p.place (x.word o kept choice) ∧ q = x.past o kept choice p := by
  cases x with
  | nothing => simp [trees, treesBy, Tree.Chain, Takes, word, past, at_nil]
  | text chars =>
    simp only [trees, treesBy, Takes, word, past, exists_const, true_and]
    induction chars generalizing p with
    | nil => simp [Tree.Chain, at_nil]
    | cons c chars ih =>
      simp only [List.map_cons, Tree.Chain, matches_charTree_iff hf, ih]
      constructor
      · rintro ⟨_, ⟨hc, rfl⟩, hp, rfl⟩
        exact ⟨at_cons.2 ⟨hc, hp⟩, by simp⟩
      · rintro ⟨hp, rfl⟩
        obtain ⟨hc, hp⟩ := at_cons.1 hp
        exact ⟨_, ⟨hc, rfl⟩, hp, by simp⟩
  | separator tolerated =>
    rw [trees, treesBy, Tree.chain_singleton, matches_maybe_iff, matches_charTree_iff hf]
    cases tolerated <;> simp [Takes, word, past, at_nil]
  | unit shape name optional y n =>
    rw [trees, treesBy, Tree.chain_singleton, matches_maybe_iff, matches_unitTree_iff hf]
    constructor
    · rintro (⟨ho, rfl⟩ | ⟨w, hw, hs, hp, rfl⟩)
      · exact ⟨true, none, ho, at_nil _, rfl⟩
      · refine ⟨true, some (String.ofList w), ⟨?_, ?_⟩, ?_, ?_⟩
        · simpa using hw
        · simpa using hs
        · simpa [word] using hp
        · simp [past]
    · rintro ⟨_, _ | s, hc, hp, rfl⟩
      · exact .inl ⟨hc, rfl⟩
      · exact .inr ⟨s.toList, by simpa using hc.1, hc.2, hp, rfl⟩

/-! ## Pieces in a row -/

/-- The word for pieces in a row. -/
def words (o : Options) (kept : Bool) (g : Filling) : List Piece → List Char
  | [] => []
  | x :: more => x.word o kept (g 0) ++ words o kept g.next more

/-- Whether each of the pieces can have its choice. -/
def TakesAll (o : Options) (g : Filling) : List Piece → Prop
  | [] => True
  | x :: more => x.Takes o (g 0) ∧ TakesAll o g.next more

/-- The progress past the word for pieces in a row. -/
def pastAll (o : Options) (kept : Bool) (g : Filling) (p : Progress) : List Piece → Progress
  | [] => p
  | x :: more => pastAll o kept g.next (x.past o kept (g 0) p) more

/-- Whether only the last piece is a separator that may be missing. -/
def EndsTolerant : List Piece → Prop
  | [] => True
  | x :: more => (x = separator true → more = []) ∧ EndsTolerant more

theorem place_pastAll (kept : Bool) (ps : List Piece) : ∀ (g : Filling) (p : Progress),
    (pastAll o kept g p ps).place = p.place + (words o kept g ps).length := by
  induction ps with
  | nil => intro g p; rfl
  | cons x ps ih =>
    intro g p
    rw [pastAll, ih, place_past, words, List.length_append, Nat.add_assoc]

theorem word_kept {x : Piece} (h : x ≠ separator true) (kept kept' : Bool)
    (choice : Option String) : x.word o kept choice = x.word o kept' choice := by
  cases x with
  | separator tolerated =>
    cases tolerated with
    | false => rfl
    | true => exact absurd rfl h
  | _ => rfl

theorem past_kept {x : Piece} (h : x ≠ separator true) (kept kept' : Bool)
    (choice : Option String) : x.past o kept choice p = x.past o kept' choice p := by
  cases x with
  | separator tolerated => exact congrArg p.past (word_kept h kept kept' choice)
  | _ => rfl

/-- A walk through the pieces is a choice for each of them. -/
theorem chain_iff (hf : f.caseless = false) {ps : List Piece} (hs : EndsTolerant ps) :
    Tree.Chain text (ps.flatMap (trees f o)) p q ↔ ∃ kept g, TakesAll o g ps ∧
      At text p.place (words o kept g ps) ∧ q = pastAll o kept g p ps := by
  induction ps generalizing p with
  | nil =>
    simp only [List.flatMap_nil, Tree.Chain, TakesAll, words, at_nil, pastAll, true_and]
    constructor
    · exact fun h => ⟨true, fun _ => none, h⟩
    · rintro ⟨_, _, h⟩
      exact h
  | cons x ps ih =>
    rw [List.flatMap_cons, Tree.chain_append]
    simp only [chain_trees_iff hf, ih hs.2]
    constructor
    · rintro ⟨_, ⟨kept₁, choice, hc, hw, rfl⟩, kept₂, g, hg, ht, rfl⟩
      rw [place_past] at ht
      -- Only the last piece asks whether it is kept, and only if no piece comes after it.
      by_cases hx : x = separator true
      · obtain rfl := hs.1 hx
        exact ⟨kept₁, .cons choice g, ⟨hc, trivial⟩, at_append.2 ⟨hw, at_nil _⟩, rfl⟩
      · rw [word_kept hx kept₁ kept₂] at hw ht
        rw [past_kept hx kept₁ kept₂]
        exact ⟨kept₂, .cons choice g, ⟨hc, hg⟩, at_append.2 ⟨hw, ht⟩, rfl⟩
    · rintro ⟨kept, g, ⟨hc, hg⟩, hw, rfl⟩
      obtain ⟨hw, ht⟩ := at_append.1 hw
      exact ⟨_, ⟨kept, g 0, hc, hw, rfl⟩, kept, g.next, hg, by rwa [place_past], rfl⟩

/-! ## The pieces of tokens -/

/-- A separator that may be missing is written for a separator at the end. -/
theorem getLast?_of_mem_layout {x : String → Fragment} (tokens : List Token) : ∀ {before bound n},
    separator true ∈ layout o x before bound n tokens → tokens.getLast? = some .separator := by
  induction tokens with
  | nil => intro _ _ _ h; cases h
  | cons t tokens ih =>
    intro before bound n h
    have key : ∀ {before bound n}, separator true ∈ layout o x before bound n tokens →
        (t :: tokens).getLast? = some .separator := by
      intro before bound n h
      rw [List.getLast?_cons, ih h]
      rfl
    cases t with
    | literal s =>
      rcases List.mem_cons.1 h with h | h
      · cases h
      · exact key h
    | separator =>
      rcases List.mem_cons.1 h with h | h
      · split at h
        · cases h
        · have he := (Bool.and_eq_true_iff.1 (Piece.separator.inj h.symm)).1
          rw [List.isEmpty_iff.1 he]
          rfl
      · exact key h
    | placeholder name optional =>
      rcases List.mem_cons.1 h with h | h
      · cases h
      · exact key h

theorem endsTolerant_layout {x : String → Fragment} (tokens : List Token) : ∀ before bound n,
    EndsTolerant (layout o x before bound n tokens) := by
  induction tokens with
  | nil => intro _ _ _; trivial
  | cons t tokens ih =>
    intro before bound n
    cases t with
    | literal s => exact ⟨nofun, ih _ _ _⟩
    | separator =>
      refine ⟨fun h => ?_, ih _ _ _⟩
      split at h
      · cases h
      · have he := (Bool.and_eq_true_iff.1 (Piece.separator.inj h)).1
        rw [List.isEmpty_iff.1 he]
        rfl
    | placeholder name optional => exact ⟨nofun, ih _ _ _⟩

theorem endsTolerant_concat {ps : List Piece} (h : separator true ∉ ps) (x : Piece) :
    EndsTolerant (ps ++ [x]) := by
  induction ps with
  | nil => exact ⟨fun _ => rfl, trivial⟩
  | cons y ps ih =>
    rw [List.mem_cons, not_or] at h
    obtain ⟨hy, hp⟩ := h
    exact ⟨fun he => absurd he.symm hy, ih hp⟩

theorem endsTolerant_ofTokens {x : String → Fragment} (tokens : List Token) :
    EndsTolerant (ofTokens o x tokens) := by
  rw [ofTokens]
  split
  · next h =>
    refine endsTolerant_concat (fun hm => ?_) _
    rw [getLast?_of_mem_layout tokens hm] at h
    simp [Token.isSeparator] at h
  · rw [List.append_nil]
    exact endsTolerant_layout tokens _ _ _

theorem takesAll_layout_iff {x : String → Fragment} (tokens : List Token) :
    ∀ (g : Filling) before bound n,
      TakesAll o g (layout o x before bound n tokens) ↔ g.Fits o tokens := by
  induction tokens with
  | nil => exact fun g _ _ _ => iff_of_true trivial g.fits_nil
  | cons t tokens ih =>
    intro g before bound n
    rw [Filling.fits_cons]
    cases t with
    | literal s => exact and_congr Iff.rfl (ih _ _ _ _)
    | separator =>
      refine and_congr ?_ (ih _ _ _ _)
      split <;> exact Iff.rfl
    | placeholder name optional => exact and_congr Iff.rfl (ih _ _ _ _)

/-- The words for the pieces of tokens are the text of the tokens, but for the separator at the end
if that is not kept. -/
theorem textFrom_eq_words {x : String → Fragment} (kept : Bool) (tokens : List Token) :
    ∀ (g : Filling) before bound n, g.textFrom o before tokens =
      words o kept g (layout o x before bound n tokens) ++
        if o.allowTrailingSeparator && !kept && Filling.endsAlone o.capture before tokens then
          [o.separator]
        else [] := by
  induction tokens with
  | nil => intro g before bound n; simp [Filling.textFrom, layout, words, Filling.endsAlone]
  | cons t tokens ih =>
    intro g before bound n
    cases t with
    | literal s =>
      rw [Filling.textFrom, layout, words, List.append_assoc, ih g.next _ bound n]
      rfl
    | placeholder name optional =>
      rw [Filling.textFrom, layout, words, List.append_assoc, ih g.next]
      rfl
    | separator =>
      rw [Filling.textFrom, layout, words, List.append_assoc]
      cases tokens with
      | nil =>
        cases hf : Source.isFolded o.capture before [] <;> cases o.allowTrailingSeparator <;>
          cases kept <;> simp [Filling.textFrom, word, layout, words, Filling.endsAlone, hf]
      | cons u tokens =>
        rw [ih g.next _ bound n]
        -- Only the last separator of all may be missing.
        have hw : (if Source.isFolded o.capture before (u :: tokens) = true then nothing
            else separator ((u :: tokens).isEmpty && o.allowTrailingSeparator)).word o kept (g 0) =
              if Source.isFolded o.capture before (u :: tokens) = true then []
              else [o.separator] := by
          split <;> rfl
        rw [hw]
        rfl

/-! ## The separator after the last piece -/

theorem words_concat (kept : Bool) (ps : List Piece) : ∀ g : Filling,
    words o kept g (ps ++ [separator true]) =
      words o kept g ps ++ if kept then [o.separator] else [] := by
  induction ps with
  | nil => intro g; cases kept <;> rfl
  | cons x ps ih =>
    intro g
    rw [List.cons_append, words, words, ih, List.append_assoc]

theorem takesAll_concat_iff {ps : List Piece} : ∀ {g : Filling},
    TakesAll o g (ps ++ [separator true]) ↔ TakesAll o g ps := by
  induction ps with
  | nil => exact iff_of_true ⟨trivial, trivial⟩ trivial
  | cons x ps ih => exact and_congr Iff.rfl ih

theorem group?_pastAll_concat (kept : Bool) (k : Nat) (ps : List Piece) :
    ∀ (g : Filling) (p : Progress), (pastAll o kept g p (ps ++ [separator true])).group? k =
      (pastAll o kept g p ps).group? k := by
  induction ps with
  | nil => intro g p; rfl
  | cons x ps ih => intro g p; exact ih _ _

end Piece

/-! ## Texts of fillings -/

namespace Filling

variable {o : Options} {f : Filling} {tokens : List Token}

theorem takesAll_iff : Piece.TakesAll o f (Source.standardPieces o tokens) ↔ f.Fits o tokens := by
  rw [Source.standardPieces, Piece.ofTokens]
  split
  · exact Piece.takesAll_concat_iff.trans (Piece.takesAll_layout_iff tokens f _ _ _)
  · rw [List.append_nil]
    exact Piece.takesAll_layout_iff tokens f _ _ _

/-- The pieces of a whole template have a word for the separator that may follow it. -/
theorem words_standardPieces (kept : Bool) (f : Filling) (tokens : List Token) :
    Piece.words o kept f (Source.standardPieces o tokens) =
      Piece.words o kept f (Piece.layout o (fun _ => Fragment.standard o) [] [] 0 tokens) ++
        if kept = true ∧ o.allowTrailingSeparator = true ∧ tokens.getLast? ≠ some .separator then
          [o.separator]
        else [] := by
  have hl : (!tokens.getLast?.any Token.isSeparator) = true ↔
      tokens.getLast? ≠ some .separator := by
    rw [Bool.not_eq_true', Token.any_isSeparator_eq_false_iff]
  rw [Source.standardPieces, Piece.ofTokens]
  by_cases h : o.allowTrailingSeparator = true ∧ tokens.getLast? ≠ some .separator
  · rw [if_pos (Bool.and_eq_true_iff.2 ⟨h.1, hl.2 h.2⟩), Piece.words_concat]
    simp only [h, and_true, ne_eq, not_false_eq_true]
  · rw [if_neg fun hb => h ((Bool.and_eq_true_iff.1 hb).imp_right hl.1), if_neg fun hb => h hb.2,
      List.append_nil, List.append_nil]

/-- The words for the pieces of a template are the texts that the filling stands for. -/
theorem yields_iff {c : String} : f.Yields o tokens c ↔
    ∃ kept, Piece.words o kept f (Source.standardPieces o tokens) = c.toList := by
  have ht (kept : Bool) : (f.text o tokens).toList = _ :=
    (toList_text tokens f).trans (Piece.textFrom_eq_words (o := o)
      (x := fun _ => Fragment.standard o) kept tokens f [] [] 0)
  have hk := ht true
  simp only [Bool.not_true, Bool.and_false, Bool.false_and, Bool.false_eq_true, if_false,
    List.append_nil] at hk
  have he := endsAlone_iff o.capture tokens []
  simp only [List.reverse_nil, List.nil_append, List.length_nil, Nat.zero_add] at he
  simp only [words_standardPieces]
  constructor
  · rintro (_ | ⟨ha, hl⟩ | ⟨ha, hl, ho, hc⟩)
    · -- A separator at the end is there if it is kept; one that may follow is there if it is not.
      by_cases hl : tokens.getLast? = some .separator
      · refine ⟨true, ?_⟩
        rw [if_neg fun h => h.2.2 hl, List.append_nil, hk]
      · refine ⟨false, ?_⟩
        have hn : endsAlone o.capture [] tokens = false := by
          rw [← Bool.not_eq_true, he]
          exact fun h => hl h.1
        simp [ht false, hn]
    · refine ⟨true, ?_⟩
      rw [if_pos ⟨rfl, ha, hl⟩, String.toList_append, String.toList_singleton, hk]
    · refine ⟨false, ?_⟩
      have hs := ht false
      rw [hc, ha, he.2 ⟨hl, ho⟩, String.toList_append, String.toList_singleton] at hs
      rw [if_neg nofun, List.append_nil]
      exact (List.append_cancel_right hs).symm
  · rintro ⟨kept, hw⟩
    cases kept with
    | true =>
      rw [← hk] at hw
      by_cases h : o.allowTrailingSeparator = true ∧ tokens.getLast? ≠ some .separator
      · rw [if_pos ⟨rfl, h⟩, ← String.toList_singleton, ← String.toList_append,
          String.toList_inj] at hw
        exact hw ▸ .extra h.1 h.2
      · rw [if_neg fun hb => h hb.2, List.append_nil, String.toList_inj] at hw
        exact hw ▸ .exact
    | false =>
      have hs := ht false
      simp only [Bool.false_eq_true, false_and, if_false, List.append_nil] at hw
      rw [hw, Bool.not_false, Bool.and_true] at hs
      by_cases h : o.allowTrailingSeparator && endsAlone o.capture [] tokens
      · obtain ⟨ha, hn⟩ := Bool.and_eq_true_iff.1 h
        obtain ⟨hl, ho⟩ := he.1 hn
        rw [if_pos h, ← String.toList_singleton, ← String.toList_append, String.toList_inj] at hs
        exact .short ha hl ho hs
      · rw [if_neg h, List.append_nil, String.toList_inj] at hs
        exact hs ▸ .exact

end Filling

/-! ## What the tree of a template matches -/

namespace Source

variable {o : Options} {tokens : List Token} {text : Array Char} {p q : Progress}

theorem matches_framed_iff_chain {ts : List Tree} : (framed o ts).Matches text p q ↔
    Tree.Chain text (bounded o ts) p q := by
  rw [framed, Tree.matches_ofParts_iff]
  split
  · exact Iff.rfl
  · simp [Tree.Chain, Tree.Matches]

/-- Where the ends are those of the text, parts between them match a text from its first character
to its last. -/
theorem matches_framed_iff (hm : o.regexFlags.multiLine = false) (hp : p.place ≤ text.size)
    {ts : List Tree} : (framed o ts).Matches text p q ↔
      p.place = 0 ∧ Tree.Chain text ts p q ∧ text.size ≤ q.place := by
  have hs : o.regexFlags.look .lineStart = .textStart := by simp [Flags.look, hm]
  have he : o.regexFlags.look .lineEnd = .textEnd := by simp [Flags.look, hm]
  rw [matches_framed_iff_chain, bounded, hs, he, Tree.Chain]
  simp only [Tree.Matches, Progress.meets_textStart_iff hp, Tree.chain_append,
    Tree.chain_singleton, Progress.meets_textEnd_iff]
  constructor
  · rintro ⟨_, ⟨h₀, rfl⟩, _, hq, hn, rfl⟩
    exact ⟨h₀, hq, hn⟩
  · rintro ⟨h₀, hq, hn⟩
    exact ⟨p, ⟨h₀, rfl⟩, q, hq, hn, rfl⟩

theorem matches_tree_iff_chain : (tree o tokens).Matches text p q ↔
    Tree.Chain text (bounded o (core o tokens)) p q :=
  matches_framed_iff_chain

/-- Where case counts and the ends are those of the text, the tree of a template matches a text from
its first character to its last, by a filling. -/
theorem matches_tree_iff (hi : o.regexFlags.caseless = false)
    (hm : o.regexFlags.multiLine = false) (hp : p.place ≤ text.size) :
    (tree o tokens).Matches text p q ↔ p.place = 0 ∧ ∃ kept g, Filling.Fits o tokens g ∧
      Piece.words o kept g (standardPieces o tokens) = text.toList ∧
        q = Piece.pastAll o kept g p (standardPieces o tokens) := by
  have he : Piece.EndsTolerant (standardPieces o tokens) := Piece.endsTolerant_ofTokens tokens
  rw [tree, matches_framed_iff hm hp, core, Piece.chain_iff hi he]
  constructor
  · rintro ⟨h₀, ⟨kept, g, hg, hw, rfl⟩, hn⟩
    rw [Piece.place_pastAll, h₀, Nat.zero_add] at hn
    rw [h₀] at hw
    exact ⟨h₀, kept, g, Filling.takesAll_iff.1 hg, eq_toList_of_at hw hn, rfl⟩
  · rintro ⟨h₀, kept, g, hg, hw, rfl⟩
    refine ⟨h₀, ⟨kept, g, Filling.takesAll_iff.2 hg, ?_, rfl⟩, ?_⟩
    · rw [h₀, hw]
      exact at_toList text
    · rw [Piece.place_pastAll, hw, Array.length_toList]
      exact Nat.le_add_left _ _

end Source

/-! ## The language -/

/-- Without the flags for case and for lines, case counts and the ends are those of the text. -/
theorem Options.caseless_and_multiLine_of_flags {o : Options}
    (hs : ∀ c ∈ o.flags.toList, c ∈ ['s', 'u', 'U']) :
    o.regexFlags.caseless = false ∧ o.regexFlags.multiLine = false := by
  constructor
  · rw [← Bool.not_eq_true, o.caseless_regexFlags_iff]
    exact fun h => absurd (hs _ h) (by decide)
  · rw [← Bool.not_eq_true, o.multiLine_regexFlags_iff]
    exact fun h => absurd (hs _ h) (by decide)

namespace Regex

variable {o : Options} {tokens : List Token} {r : Regex}

/-- What the search finds in a text is a walk by a filling that stands for the text. -/
theorem find?_eq_some_of_tree (hr : r.tree = Source.tree o tokens)
    (hi : o.regexFlags.caseless = false) (hm : o.regexFlags.multiLine = false) {c : String}
    {m : Match} (h : r.find? c.toList.toArray = some m) :
    ∃ kept f, Filling.Fits o tokens f ∧ Filling.Yields o tokens f c ∧
      Piece.words o kept f (Source.standardPieces o tokens) = c.toList ∧
        m.stop = Piece.pastAll o kept f ⟨0, []⟩ (Source.standardPieces o tokens) := by
  have ht := matches_of_find? h
  rw [hr, Source.matches_tree_iff hi hm (start_le_of_find? h)] at ht
  obtain ⟨h₀, kept, f, hf, hw, hq⟩ := ht
  rw [show m.start = 0 from h₀] at hq
  exact ⟨kept, f, hf, Filling.yields_iff.2 ⟨kept, hw⟩, hw, hq⟩

/-- A text that matches is one that a filling stands for. -/
theorem exists_yields_of_isMatch (hr : r.tree = Source.tree o tokens)
    (hi : o.regexFlags.caseless = false) (hm : o.regexFlags.multiLine = false) {c : String}
    (h : r.isMatch c = true) : ∃ f, Filling.Fits o tokens f ∧ Filling.Yields o tokens f c := by
  obtain ⟨m, hf⟩ := Option.isSome_iff_exists.1 h
  obtain ⟨_, f, hf, hy, -, -⟩ := find?_eq_some_of_tree hr hi hm hf
  exact ⟨f, hf, hy⟩

theorem isMatch_of_yields (hr : r.tree = Source.tree o tokens)
    (hi : o.regexFlags.caseless = false) (hm : o.regexFlags.multiLine = false) {c : String}
    {f : Filling} (hf : f.Fits o tokens) (h : f.Yields o tokens c) : r.isMatch c = true := by
  obtain ⟨kept, hw⟩ := Filling.yields_iff.1 h
  have ht := (Source.matches_tree_iff (p := ⟨0, []⟩) hi hm (Nat.zero_le c.toList.toArray.size)).2
    ⟨rfl, kept, f, hf, hw, rfl⟩
  exact isSome_find?_iff.2 ⟨0, _, Nat.zero_le _, hr ▸ ht⟩

/-- Where case counts and lines do not, the regular expression of a template can be compiled, if
only its size has no bound, and it matches exactly the texts that the fillings of the template stand
for. -/
theorem isMatch_iff_yields (ho : o.fault? = none) (hd : o.defaultExpression = none)
    (hs : ∀ c ∈ o.flags.toList, c ∈ ['s', 'u', 'U'])
    (hn : ∀ t ∈ tokens, ∀ name ∈ t.name?, Token.validName name = true) :
    (∃ r, compile? { weight := none } (Source.ofTokens o [] tokens) = some r) ∧
      ∀ limits r, compile? limits (Source.ofTokens o [] tokens) = some r → ∀ c,
        r.isMatch c = true ↔ ∃ f, Filling.Fits o tokens f ∧ Filling.Yields o tokens f c := by
  obtain ⟨hi, hm⟩ := Options.caseless_and_multiLine_of_flags hs
  refine ⟨Source.exists_compile? ho hd hn, fun limits r hc c => ?_⟩
  have hr := Source.tree_of_compile? ho hd hn hc
  constructor
  · intro h
    obtain ⟨m, hf⟩ := Option.isSome_iff_exists.1 h
    obtain ⟨_, f, hf, hy, -, -⟩ := find?_eq_some_of_tree hr hi hm hf
    exact ⟨f, hf, hy⟩
  · rintro ⟨f, hf, hy⟩
    exact isMatch_of_yields hr hi hm hf hy

/-- In `a/{b?}` the separator is left out together with the placeholder. -/
theorem isMatch_without_optional_tail :
    ∃ r, compile? { weight := none }
        (Source.ofTokens { flags := "U" } [] [.literal "a", .separator, .placeholder "b" true]) =
          some r ∧ r.isMatch "a" = true := by
  have hn : ∀ t ∈ [Token.literal "a", .separator, .placeholder "b" true],
      ∀ name ∈ t.name?, Token.validName name = true := by decide
  obtain ⟨⟨r, hr⟩, h⟩ := isMatch_iff_yields (o := { flags := "U" }) (by decide) rfl (by simp) hn
  refine ⟨r, hr, (h _ r hr "a").2 ⟨fun _ => none, ?_, ?_⟩⟩
  · simp [Filling.fits_cons, Filling.fits_nil, Filling.next, Token.Allows, Options.Accepts]
  · have ht : Filling.text { flags := "U" } [.literal "a", .separator, .placeholder "b" true]
        (fun _ => none) = "a" := by decide
    exact ht ▸ .exact

end Regex

end PathTemplate
