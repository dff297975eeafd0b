import PathTemplate.Proofs.Compiling
/-!
# Mirrored templates

A template read backwards under the opposite orientation stands for the same texts, read backwards.
What carries this is that a separator belongs to the placeholder after it by one orientation exactly
if it belongs to the one before it by the other, once the tokens around it are exchanged
(`Source.isFolded_mirrored`). A filling is mirrored with the template, position by position.

Nothing of this holds for the separator that is tolerated at the end, which has no counterpart at
the start.
-/

namespace PathTemplate

open Regex

/-! ## Mirror images -/

/-- A text read backwards. -/
def Text.reversed (text : String) : String :=
  String.ofList text.toList.reverse

/-- The other orientation. -/
def Orientation.opposite : Orientation → Orientation
  | left => right
  | right => left

/-- The options with the other orientation. -/
def Options.mirrored (o : Options) : Options :=
  { o with capture := o.capture.opposite }

namespace Token

/-- The token read backwards. -/
def mirrored : Token → Token
  | literal text => literal (Text.reversed text)
  | token => token

/-- The tokens in reverse order, each read backwards. -/
def mirror (tokens : List Token) : List Token :=
  (tokens.map mirrored).reverse

end Token

/-- The filling of a template with so many tokens, for its mirror image. -/
def Filling.mirrored (length : Nat) (f : Filling) : Filling :=
  fun i => (f (length - 1 - i)).map Text.reversed

namespace Text

theorem toList_reversed (text : String) : (reversed text).toList = text.toList.reverse :=
  String.toList_ofList

theorem reversed_reversed (text : String) : reversed (reversed text) = text := by
  rw [reversed, toList_reversed, List.reverse_reverse, String.ofList_toList]

end Text

namespace Options

/-- What can be written for a placeholder can be written backwards. -/
theorem accepts_mirrored {o : Options} {optional : Bool} {choice : Option String} :
    o.mirrored.Accepts optional (choice.map Text.reversed) ↔ o.Accepts optional choice := by
  cases choice with
  | none => exact Iff.rfl
  | some s =>
    have h : s.toList.reverse = [] ↔ s.toList = [] := List.reverse_eq_nil_iff
    rw [Option.map_some, Accepts, Accepts, Ne, Ne, ← String.toList_eq_nil_iff,
      ← String.toList_eq_nil_iff, Text.toList_reversed, h, List.mem_reverse]
    rfl

end Options

namespace Token

theorem isSeparator_mirrored (t : Token) : t.mirrored.isSeparator = t.isSeparator := by
  cases t <;> rfl

theorem name?_mirrored (t : Token) : t.mirrored.name? = t.name? := by
  cases t <;> rfl

theorem mirrored_mirrored (t : Token) : t.mirrored.mirrored = t := by
  cases t with
  | literal text => rw [mirrored, mirrored, Text.reversed_reversed]
  | _ => rfl

theorem mirror_mirror (tokens : List Token) : mirror (mirror tokens) = tokens := by
  rw [mirror, mirror, List.map_reverse, List.reverse_reverse, List.map_map]
  exact List.map_id'' mirrored_mirrored tokens

theorem length_mirror (tokens : List Token) : (mirror tokens).length = tokens.length := by
  rw [mirror, List.length_reverse, List.length_map]

theorem mirror_zip (before after : List Token) (t : Token) :
    mirror (before.reverse ++ t :: after) =
      (after.map mirrored).reverse ++ t.mirrored :: before.map mirrored := by
  simp [mirror]

theorem mapIdx_mirror {α : Type} (f : Nat → Token → α) (tokens : List Token) :
    (mirror tokens).mapIdx f =
      (tokens.mapIdx fun i t => f (tokens.length - 1 - i) t.mirrored).reverse := by
  rw [mirror, List.mapIdx_reverse, List.length_map]
  refine congrArg List.reverse (List.ext_getElem? fun i => ?_)
  simp only [List.getElem?_mapIdx, List.getElem?_map, Option.map_map]
  rfl

theorem validName_of_mem_mirror {tokens : List Token}
    (hn : ∀ t ∈ tokens, ∀ name ∈ t.name?, validName name = true) :
    ∀ t ∈ mirror tokens, ∀ name ∈ t.name?, validName name = true := by
  intro t ht
  obtain ⟨u, hu, rfl⟩ := List.mem_map.1 (List.mem_reverse.1 ht)
  rw [name?_mirrored]
  exact hn u hu

/-- A position, as the place between the tokens before it, nearest first, and those after it. -/
theorem exists_zip {tokens : List Token} {i : Nat} {t : Token} (h : tokens[i]? = some t) :
    ∃ before after : List Token, tokens = before.reverse ++ t :: after ∧ before.length = i := by
  obtain ⟨hlt, rfl⟩ := List.getElem?_eq_some_iff.1 h
  refine ⟨(tokens.take i).reverse, tokens.drop (i + 1), ?_, ?_⟩
  · rw [List.reverse_reverse, List.getElem_cons_drop, List.take_append_drop]
  · rw [List.length_reverse, List.length_take_of_le (Nat.le_of_lt hlt)]

end Token

/-! ## Separators and their placeholders -/

namespace Source

theorem isBoundary_mirrored (tokens : List Token) :
    isBoundary (tokens.map Token.mirrored) = isBoundary tokens := by
  cases tokens with
  | nil => rfl
  | cons t tokens => exact t.isSeparator_mirrored

/-- A separator belongs to the placeholder on one side of it by an orientation exactly if it belongs
to it by the other one, when both sides are exchanged. -/
theorem isFolded_mirrored (capture : Orientation) (before after : List Token) :
    isFolded capture.opposite (after.map Token.mirrored) (before.map Token.mirrored) =
      isFolded capture before after := by
  cases capture with
  | left =>
    cases after with
    | nil => rfl
    | cons t after =>
      cases t with
      | placeholder name optional =>
        rw [isFolded_left, ← isBoundary_mirrored after]
        exact isFolded_right _ _ name optional
      | _ => rfl
  | right =>
    cases before with
    | nil => rfl
    | cons t before =>
      cases t with
      | placeholder name optional =>
        rw [isFolded_right, ← isBoundary_mirrored before]
        exact isFolded_left _ _ name optional
      | _ => rfl

/-- The placeholder that a separator belongs to is the same one in the mirror image. -/
theorem neighbour_opposite {capture : Orientation} {before after : List Token}
    (h : isFolded capture before after = true) :
    before.length + 1 + after.length - 1 - capture.opposite.neighbour after.length =
      capture.neighbour before.length := by
  cases capture with
  | left =>
    cases after with
    | nil => cases h
    | cons t after =>
      simp only [Orientation.opposite, Orientation.neighbour, List.length_cons]
      omega
  | right =>
    cases before with
    | nil => cases h
    | cons t before =>
      simp only [Orientation.opposite, Orientation.neighbour, List.length_cons]
      omega

end Source

/-! ## Fillings -/

namespace Filling

variable {o : Options} {tokens : List Token}

/-- What is written for a token in the mirror image is what is written for it, read backwards. -/
theorem textAt_mirrored (f : Filling) (before after : List Token) (t : Token) :
    (textAt o.mirrored (Token.mirror (before.reverse ++ t :: after))
        (f.mirrored (before.length + 1 + after.length)) after.length t.mirrored).toList =
      (textAt o (before.reverse ++ t :: after) f before.length t).toList.reverse := by
  have hl : (after.map Token.mirrored).length = after.length := List.length_map _
  have hi : before.length + 1 + after.length - 1 - after.length = before.length := by omega
  rw [Token.mirror_zip, ← hl]
  cases t with
  | literal text =>
    rw [textAt_literal]
    exact (textAt_literal _ _ _ _).trans (Text.toList_reversed text)
  | placeholder name optional =>
    rw [textAt_placeholder]
    refine (textAt_placeholder _ _ _ _ _).trans ?_
    rw [hl, mirrored, hi]
    cases f before.length with
    | none => rfl
    | some s => exact Text.toList_reversed s
  | separator =>
    rw [textAt_separator]
    refine (textAt_separator _ _ _).trans ?_
    have hc : o.mirrored.capture = o.capture.opposite := rfl
    rw [hl, hc, Source.isFolded_mirrored]
    cases hf : Source.isFolded o.capture before after with
    | false => rfl
    | true =>
      rw [mirrored, Source.neighbour_opposite hf]
      cases f (o.capture.neighbour before.length) <;> rfl

theorem join_reversed (pieces : List String) :
    String.join (pieces.map Text.reversed).reverse = Text.reversed (String.join pieces) := by
  rw [← String.toList_inj, Text.toList_reversed, String.toList_join, String.toList_join,
    List.reverse_flatMap, ← List.map_reverse, List.flatMap_map]
  exact congrArg (List.flatMap · _) (funext Text.toList_reversed)

/-- The mirror image of a template stands for the mirror image of its text. -/
theorem text_mirror (f : Filling) (tokens : List Token) :
    (f.mirrored tokens.length).text o.mirrored (Token.mirror tokens) =
      Text.reversed (f.text o tokens) := by
  rw [text, text, ← join_reversed, Token.mapIdx_mirror]
  refine congrArg (fun pieces => String.join pieces.reverse) (List.ext_getElem? fun i => ?_)
  simp only [List.getElem?_map, List.getElem?_mapIdx, Option.map_map]
  cases hi : tokens[i]? with
  | none => rfl
  | some t =>
    obtain ⟨before, after, rfl, rfl⟩ := Token.exists_zip hi
    have hl : (before.reverse ++ t :: after).length = before.length + 1 + after.length := by
      simp only [List.length_append, List.length_reverse, List.length_cons]
      omega
    have ha : (before.reverse ++ t :: after).length - 1 - before.length = after.length := by
      omega
    have ht := textAt_mirrored (o := o) f before after t
    rw [← hl, ← Text.toList_reversed, String.toList_inj] at ht
    exact congrArg some ((congrArg (textAt _ _ _ · _) ha).trans ht)

/-- Choices that the placeholders can have are choices that they can have in the mirror image. -/
theorem fits_mirror {f : Filling} (hf : f.Fits o tokens) :
    (f.mirrored tokens.length).Fits o.mirrored (Token.mirror tokens) := by
  intro j u hu
  have hj : j < tokens.length := by
    rw [← Token.length_mirror]
    exact (List.getElem?_eq_some_iff.1 hu).1
  rw [Token.mirror, List.getElem?_reverse (by simpa using hj), List.getElem?_map,
    List.length_map] at hu
  obtain ⟨t, ht, rfl⟩ := Option.map_eq_some_iff.1 hu
  have ha := hf _ t ht
  cases t with
  | placeholder name optional => exact Options.accepts_mirrored.2 ha
  | _ => trivial

/-- Without a tolerated separator at the end, a filling stands for its text only. -/
theorem yields_iff_eq_text (ha : o.allowTrailingSeparator = false) {f : Filling} {c : String} :
    f.Yields o tokens c ↔ c = f.text o tokens := by
  constructor
  · rintro (_ | ⟨ht, -⟩ | ⟨ht, -, -, -⟩)
    · rfl
    · rw [ha] at ht
      cases ht
    · rw [ha] at ht
      cases ht
  · rintro rfl
    exact .exact

/-- Where a template stands for a text, its mirror image does for the text read backwards. -/
theorem exists_yields_mirror (ha : o.allowTrailingSeparator = false) {c : String}
    (h : ∃ f : Filling, f.Fits o tokens ∧ f.Yields o tokens c) :
    ∃ f : Filling, f.Fits o.mirrored (Token.mirror tokens) ∧
      f.Yields o.mirrored (Token.mirror tokens) (Text.reversed c) := by
  obtain ⟨f, hf, hy⟩ := h
  refine ⟨f.mirrored tokens.length, fits_mirror hf, (yields_iff_eq_text (o := o.mirrored) ha).2 ?_⟩
  rw [text_mirror, (yields_iff_eq_text ha).1 hy]

end Filling

namespace Regex

variable {o : Options} {tokens : List Token}

/-- A template by the left orientation and its mirror image by the right one can both be compiled,
if only their size has no bound, and the one accepts what the other accepts backwards. -/
theorem isMatch_left_iff_right (ho : o.fault? = none) (hd : o.defaultExpression = none)
    (ha : o.allowTrailingSeparator = false) (hs : ∀ c ∈ o.flags.toList, c ∈ ['s', 'u', 'U'])
    (hn : ∀ t ∈ tokens, ∀ name ∈ t.name?, Token.validName name = true) :
    let left := Source.ofTokens { o with capture := .left } [] tokens
    let right := Source.ofTokens { o with capture := .right } [] (Token.mirror tokens)
    (∃ r, compile? { weight := none } left = some r) ∧
      (∃ r, compile? { weight := none } right = some r) ∧
      ∀ limits limits' r r', compile? limits left = some r → compile? limits' right = some r' →
        ∀ c, r.isMatch c = true ↔ r'.isMatch (Text.reversed c) = true := by
  have hn' := Token.validName_of_mem_mirror hn
  obtain ⟨hc, hl⟩ := isMatch_iff_yields (o := { o with capture := .left }) ho hd hs hn
  obtain ⟨hc', hr⟩ := isMatch_iff_yields (o := { o with capture := .right }) ho hd hs hn'
  refine ⟨hc, hc', fun limits limits' r r' h h' c => ?_⟩
  rw [hl limits r h c, hr limits' r' h' (Text.reversed c)]
  constructor
  · exact Filling.exists_yields_mirror (o := { o with capture := .left }) ha
  · intro h
    have hm := Filling.exists_yields_mirror (o := { o with capture := .right }) ha h
    rwa [Token.mirror_mirror, Text.reversed_reversed] at hm

/-- In `ab/{x?}` the placeholder takes the separator before it along, in `{x?}/ba` the one after
it. -/
theorem isMatch_left_iff_right_tail :
    ∃ r r', compile? { weight := none } (Source.ofTokens
        { capture := .left, allowTrailingSeparator := false, flags := "U" } []
        [.literal "ab", .separator, .placeholder "x" true]) = some r ∧
      compile? { weight := none } (Source.ofTokens
        { capture := .right, allowTrailingSeparator := false, flags := "U" } []
        [.placeholder "x" true, .separator, .literal "ba"]) = some r' ∧
      r.isMatch "ab" = true ∧ r.isMatch "ab/" = false ∧ r.isMatch "ab/yz" = true ∧
      ∀ c, r.isMatch c = true ↔ r'.isMatch (Text.reversed c) = true := by
  have ho : ({ allowTrailingSeparator := false, flags := "U" } : Options).fault? = none := by decide
  have hn : ∀ t ∈ [Token.literal "ab", .separator, .placeholder "x" true],
      ∀ name ∈ t.name?, Token.validName name = true := by decide
  have hr : compile? { weight := none } _ = some _ :=
    Source.compile?_eq_some
      (o := { capture := .left, allowTrailingSeparator := false, flags := "U" })
      ho rfl hn (by decide) rfl
  have hr' : compile? { weight := none } _ = some _ :=
    Source.compile?_eq_some
      (o := { capture := .right, allowTrailingSeparator := false, flags := "U" })
      ho rfl (Token.validName_of_mem_mirror hn) (by decide) rfl
  have hm := (isMatch_left_iff_right ho rfl rfl (by simp) hn).2.2 _ _ _ _ hr hr'
  exact ⟨_, _, hr, hr', by decide +kernel, by decide +kernel, by decide +kernel, hm⟩

end Regex

end PathTemplate
