import PathTemplate.Source
/-!
# Fillings

What the texts of a template are, said without regular expressions. A filling gives a text to each
placeholder or leaves it out, and the tokens are spelled out in order. Only one rule looks at more
than one token: the separator that belongs to an optional placeholder which fills a segment is left
out together with it.

Positions are those of the tokens in the whole template. `toList_text` says the same text from left
to right, each placeholder together with its separator.
-/

namespace PathTemplate

/-- A choice for each position of a template: what the placeholder there stands for, or nothing if
it is left out. -/
abbrev Filling :=
  Nat → Option String

/-- Whether a placeholder can have the choice: some text without separators, or nothing at all if it
is optional. -/
def Options.Accepts (o : Options) (optional : Bool) : Option String → Prop
  | some s => s ≠ "" ∧ o.separator ∉ s.toList
  | none => optional = true

namespace Token

/-- Whether a placeholder may be left out. -/
def isOptional : Token → Bool
  | placeholder _ optional => optional
  | _ => false

/-- Whether the token at a position is bounded on both sides by separators or by the ends of the
template. -/
def isSegment (tokens : List Token) (i : Nat) : Bool :=
  (i == 0 || tokens[i - 1]?.any isSeparator) && tokens[i + 1]?.all isSeparator

/-- Whether an optional placeholder that fills a segment stands at a position. -/
def isOptionalSegment (tokens : List Token) (i : Nat) : Bool :=
  tokens[i]?.any isOptional && isSegment tokens i

/-- The position of the optional placeholder that a separator belongs to: the one right after it, or
right before it, by the orientation. -/
def owner? (capture : Orientation) (tokens : List Token) (i : Nat) : Option Nat :=
  match capture, i with
  | .left, i => if isOptionalSegment tokens (i + 1) then some (i + 1) else none
  | .right, 0 => none
  | .right, i + 1 => if isOptionalSegment tokens i then some i else none

/-- What a token stands for, given the choice for a placeholder. -/
def spelling (o : Options) (choice : Option String) : Token → String
  | literal text => text
  | separator => String.singleton o.separator
  | placeholder _ _ => choice.getD ""

/-- Whether a token can have the choice. Only placeholders are asked for one. -/
def Allows (o : Options) (choice : Option String) : Token → Prop
  | placeholder _ optional => o.Accepts optional choice
  | _ => True

end Token

namespace Filling

/-- Whether the separator at a position belongs to a placeholder that is left out. -/
def isAbsorbed (o : Options) (tokens : List Token) (f : Filling) (i : Nat) : Bool :=
  (Token.owner? o.capture tokens i).any fun j => (f j).isNone

/-- What is written for the token at a position. -/
def textAt (o : Options) (tokens : List Token) (f : Filling) (i : Nat) (token : Token) : String :=
  if token.isSeparator && f.isAbsorbed o tokens i then "" else token.spelling o (f i)

/-- The text of a template under a filling. -/
def text (o : Options) (tokens : List Token) (f : Filling) : String :=
  String.join (tokens.mapIdx (textAt o tokens f))

/-- Each placeholder has a choice that it can have. -/
def Fits (o : Options) (tokens : List Token) (f : Filling) : Prop :=
  ∀ i (token : Token), tokens[i]? = some token → token.Allows o (f i)

/-- The texts that a filling stands for. Where it is allowed, one separator may follow a template
that does not end with one, and a separator at the end may be missing if it belongs to no
placeholder. -/
inductive Yields (o : Options) (tokens : List Token) (f : Filling) : String → Prop
  | exact : Yields o tokens f (f.text o tokens)
  | extra (ha : o.allowTrailingSeparator = true) (hl : tokens.getLast? ≠ some .separator) :
    Yields o tokens f (f.text o tokens ++ String.singleton o.separator)
  | short {c : String} (ha : o.allowTrailingSeparator = true)
    (hl : tokens.getLast? = some .separator)
    (ho : Token.owner? o.capture tokens (tokens.length - 1) = none)
    (hc : f.text o tokens = c ++ String.singleton o.separator) : Yields o tokens f c

/-- The choices from the second position on. -/
def next (f : Filling) : Filling :=
  fun i => f (i + 1)

/-- A choice for the first position, before those for the others. -/
def cons (choice : Option String) (f : Filling) : Filling
  | 0 => choice
  | i + 1 => f i

/-- The text of a placeholder together with the separator that is written with it. -/
def unit (o : Options) (s : List Char) : Shape → List Char
  | .foldLeft => o.separator :: s
  | .foldRight => s ++ [o.separator]
  | .bare => s

/-- The text of the tokens that come after `before`, given nearest first, each placeholder with the
separator that is written with it. -/
def textFrom (o : Options) (f : Filling) (before : List Token) : List Token → List Char
  | [] => []
  | .literal text :: after => text.toList ++ textFrom o f.next (.literal text :: before) after
  | .separator :: after =>
    (if Source.isFolded o.capture before after then [] else [o.separator]) ++
      textFrom o f.next (.separator :: before) after
  | .placeholder name optional :: after =>
    ((f 0).elim [] fun s => unit o s.toList (Source.shapeAt o.capture before optional after)) ++
      textFrom o f.next (.placeholder name optional :: before) after

end Filling

/-! ## Shapes by neighbours -/

namespace Source

theorem isBoundary_of_startsWithSeparator {tokens : List Token}
    (h : startsWithSeparator tokens = true) : isBoundary tokens = true := by
  cases tokens with
  | nil => cases h
  | cons t tokens => exact h

theorem shapeAt_left (before after : List Token) (optional : Bool) :
    shapeAt .left before optional after =
      if optional && startsWithSeparator before && isBoundary after then .foldLeft else .bare := by
  cases hs : startsWithSeparator before
  · simp [shapeAt, Shape.select, hs]
  · have hb := isBoundary_of_startsWithSeparator hs
    cases optional <;> cases ha : isBoundary after <;> simp [shapeAt, Shape.select, hs, hb, ha]

theorem shapeAt_right (before after : List Token) (optional : Bool) :
    shapeAt .right before optional after =
      if optional && isBoundary before && startsWithSeparator after then .foldRight else .bare := by
  cases hs : startsWithSeparator after
  · simp [shapeAt, Shape.select, hs]
  · have hb := isBoundary_of_startsWithSeparator hs
    cases optional <;> cases ha : isBoundary before <;> simp [shapeAt, Shape.select, hs, hb, ha]

theorem isFolded_left (before after : List Token) (name : String) (optional : Bool) :
    isFolded .left before (.placeholder name optional :: after) =
      (optional && isBoundary after) := by
  have h : startsWithSeparator (.separator :: before) = true := rfl
  rw [isFolded, shapeAt_left, h]
  cases optional <;> cases isBoundary after <;> rfl

theorem isFolded_right (before after : List Token) (name : String) (optional : Bool) :
    isFolded .right (.placeholder name optional :: before) after =
      (optional && isBoundary before) := by
  have h : startsWithSeparator (.separator :: after) = true := rfl
  rw [isFolded, shapeAt_right, h]
  cases optional <;> cases isBoundary before <;> rfl

end Source

/-! ## Positions and neighbours -/

/-- The position next to another one, on the side of the orientation's placeholders. -/
def Orientation.neighbour : Orientation → Nat → Nat
  | left, i => i + 1
  | right, i => i - 1

namespace Token

theorem any_isSeparator_iff {t : Option Token} : t.any isSeparator = true ↔ t = some .separator := by
  cases t with
  | none => simp
  | some t => cases t <;> simp [isSeparator]

theorem any_isSeparator_eq_false_iff {t : Option Token} :
    t.any isSeparator = false ↔ t ≠ some .separator := by
  rw [← Bool.not_eq_true, any_isSeparator_iff]

theorem getElem?_zip (before after : List Token) (token : Token) :
    (before.reverse ++ token :: after)[before.length]? = some token := by
  rw [List.getElem?_append_right (by simp)]
  simp

theorem isSegment_zip (before after : List Token) (token : Token) :
    isSegment (before.reverse ++ token :: after) before.length =
      (Source.isBoundary before && Source.isBoundary after) := by
  have h₁ : (before.reverse ++ token :: after)[before.length + 1]? = after[0]? := by
    rw [List.getElem?_append_right (by simp)]
    simp
  have h₂ : (before.length == 0 ||
      ((before.reverse ++ token :: after)[before.length - 1]?).any isSeparator) =
        Source.isBoundary before := by
    cases before with
    | nil => rfl
    | cons t before => simp [Source.isBoundary]
  have h₃ : after[0]?.all isSeparator = Source.isBoundary after := by
    cases after <;> rfl
  rw [isSegment, h₁, h₂, h₃]

theorem isOptionalSegment_zip (before after : List Token) (token : Token) :
    isOptionalSegment (before.reverse ++ token :: after) before.length =
      (token.isOptional && (Source.isBoundary before && Source.isBoundary after)) := by
  rw [isOptionalSegment, getElem?_zip, isSegment_zip]
  rfl

theorem exists_of_isOptionalSegment {tokens : List Token} {i : Nat}
    (h : isOptionalSegment tokens i = true) :
    (∃ name, tokens[i]? = some (.placeholder name true)) ∧ isSegment tokens i = true := by
  rw [isOptionalSegment, Bool.and_eq_true, Option.any_eq_true] at h
  obtain ⟨⟨t, ht, ho⟩, hs⟩ := h
  cases t with
  | placeholder name optional =>
    cases ho
    exact ⟨⟨name, ht⟩, hs⟩
  | _ => cases ho

/-- The owner of a separator is an optional placeholder next to it, on the side of the
orientation. -/
theorem owner?_eq_some {capture : Orientation} {tokens : List Token} {k i : Nat}
    (h : owner? capture tokens k = some i) : isOptionalSegment tokens i = true ∧
      (capture = .left ∧ i = k + 1 ∨ capture = .right ∧ k = i + 1) := by
  cases capture with
  | left =>
    obtain ⟨hs, ⟨⟩⟩ := Option.ite_none_right_eq_some.1 h
    exact ⟨hs, .inl ⟨rfl, rfl⟩⟩
  | right =>
    cases k with
    | zero => cases h
    | succ k =>
      obtain ⟨hs, ⟨⟩⟩ := Option.ite_none_right_eq_some.1 h
      exact ⟨hs, .inr ⟨rfl, rfl⟩⟩

/-- The owner of a separator is the neighbour that it is written with. -/
theorem owner?_zip (capture : Orientation) (before after : List Token) :
    owner? capture (before.reverse ++ .separator :: after) before.length =
      if Source.isFolded capture before after then
        some (capture.neighbour before.length)
      else none := by
  cases capture with
  | left =>
    cases after with
    | nil =>
      have h : (before.reverse ++ [separator])[before.length + 1]? = none := by simp
      simp only [owner?, isOptionalSegment, h, Source.isFolded]
      rfl
    | cons t after =>
      have h := isOptionalSegment_zip (.separator :: before) after t
      simp only [List.reverse_cons, List.append_assoc, List.singleton_append,
        List.length_cons] at h
      rw [owner?, h]
      cases t with
      | placeholder name optional => rw [Source.isFolded_left]; rfl
      | _ => rfl
  | right =>
    cases before with
    | nil => rfl
    | cons t before =>
      have h := isOptionalSegment_zip before (.separator :: after) t
      rw [List.reverse_cons, List.append_assoc, List.singleton_append, List.length_cons, owner?, h]
      cases t with
      | placeholder name optional =>
        have hb : Source.isBoundary (.separator :: after) = true := rfl
        rw [Source.isFolded_right, hb, Bool.and_true]
        rfl
      | _ => rfl

end Token

/-! ## The text from left to right -/

namespace Filling

variable {o : Options}

/-- The text of the tokens after `before`, position by position. -/
def indexed (o : Options) (f : Filling) (before after : List Token) : List Char :=
  (after.mapIdx fun i t => textAt o (before.reverse ++ after) f (before.length + i) t).flatMap
    String.toList

theorem indexed_cons (f : Filling) (before after : List Token) (t : Token) :
    indexed o f before (t :: after) =
      (textAt o (before.reverse ++ t :: after) f before.length t).toList ++
        indexed o f (t :: before) after := by
  simp only [indexed, List.mapIdx_cons, List.flatMap_cons, List.reverse_cons, List.append_assoc,
    List.singleton_append, List.length_cons, Nat.add_zero, Nat.add_assoc, Nat.add_comm 1]

theorem toList_text_eq_indexed (tokens : List Token) (f : Filling) :
    (f.text o tokens).toList = indexed o f [] tokens := by
  simp only [text, indexed, String.toList_join, List.length_nil, Nat.zero_add, List.reverse_nil,
    List.nil_append]

theorem textAt_literal (f : Filling) (before after : List Token) (text : String) :
    (textAt o (before.reverse ++ .literal text :: after) f before.length
      (.literal text)).toList = text.toList := by
  simp [textAt, Token.isSeparator, Token.spelling]

theorem textAt_placeholder (f : Filling) (before after : List Token) (name : String)
    (optional : Bool) :
    (textAt o (before.reverse ++ .placeholder name optional :: after) f before.length
      (.placeholder name optional)).toList = (f before.length).elim [] String.toList := by
  cases h : f before.length <;> simp [textAt, Token.isSeparator, Token.spelling, h]

/-- A separator is missing exactly if it is written with a placeholder that is left out. -/
theorem textAt_separator (f : Filling) (before after : List Token) :
    (textAt o (before.reverse ++ .separator :: after) f before.length .separator).toList =
      if Source.isFolded o.capture before after && (f (o.capture.neighbour before.length)).isNone
      then [] else [o.separator] := by
  rw [textAt, isAbsorbed, Token.owner?_zip]
  cases Source.isFolded o.capture before after
  · simp [Token.isSeparator, Token.spelling]
  · cases h : f (o.capture.neighbour before.length) <;>
      simp [Token.isSeparator, Token.spelling, h]

/-- The separator at the end of `before`, if it is written with the placeholder after it and that
placeholder is not left out. -/
def ahead (o : Options) (f : Filling) (before after : List Token) : List Char :=
  match before with
  | .separator :: earlier =>
    if Source.isFolded .left earlier after && (f before.length).isSome then [o.separator] else []
  | _ => []

/-- The separator at the start of `after`, if it is written with the placeholder before it and that
placeholder is not left out. -/
def behind (o : Options) (f : Filling) (before after : List Token) : List Char :=
  match after with
  | .separator :: later =>
    if Source.isFolded .right before later && (f (before.length - 1)).isSome then [o.separator]
    else []
  | _ => []

/-- The choices from a position on. -/
def drop (f : Filling) (n : Nat) : Filling :=
  fun i => f (n + i)

theorem next_drop (f : Filling) (n : Nat) : (f.drop n).next = f.drop (n + 1) := by
  funext i
  simp only [drop, next, Nat.add_assoc, Nat.add_comm 1]

theorem ahead_placeholder (f : Filling) (before after : List Token) (name : String)
    (optional : Bool) :
    ahead o f before (.placeholder name optional :: after) =
      if (optional && Source.startsWithSeparator before && Source.isBoundary after) &&
        (f before.length).isSome then [o.separator] else [] := by
  cases before with
  | nil => simp [ahead, Source.startsWithSeparator]
  | cons t before =>
    cases t with
    | separator =>
      simp [ahead, Source.isFolded_left, Source.startsWithSeparator, Token.isSeparator]
    | _ => simp [ahead, Source.startsWithSeparator, Token.isSeparator]

theorem ahead_nil (f : Filling) (before : List Token) : ahead o f before [] = [] := by
  cases before with
  | nil => rfl
  | cons t before => cases t <;> rfl

theorem ahead_of_not_placeholder (f : Filling) (before after : List Token) {t : Token}
    (h : t.name? = none) : ahead o f before (t :: after) = [] := by
  cases before with
  | nil => rfl
  | cons u before => cases u <;> cases t <;> first | rfl | cases h

theorem behind_placeholder (f : Filling) (before after : List Token) (name : String)
    (optional : Bool) :
    behind o f (.placeholder name optional :: before) after =
      if (optional && Source.isBoundary before && Source.startsWithSeparator after) &&
        (f before.length).isSome then [o.separator] else [] := by
  cases after with
  | nil => simp [behind, Source.startsWithSeparator]
  | cons t after =>
    cases t with
    | separator =>
      simp [behind, Source.isFolded_right, Source.startsWithSeparator, Token.isSeparator]
    | _ => simp [behind, Source.startsWithSeparator, Token.isSeparator]

theorem behind_of_not_placeholder (f : Filling) (before after : List Token) {t : Token}
    (h : t.name? = none) : behind o f (t :: before) after = [] := by
  cases after with
  | nil => rfl
  | cons u after => cases u <;> cases t <;> first | rfl | cases h

/-- By the left orientation a separator comes before its placeholder, so that the text with both
together runs ahead by it. -/
theorem textFrom_left (hc : o.capture = .left) (f : Filling) (after : List Token) :
    ∀ before, textFrom o (f.drop before.length) before after =
      ahead o f before after ++ indexed o f before after := by
  induction after with
  | nil => intro before; rw [ahead_nil]; rfl
  | cons t after ih =>
    intro before
    have ih := ih (t :: before)
    rw [List.length_cons] at ih
    rw [indexed_cons]
    cases t with
    | literal text =>
      rw [textFrom, textAt_literal, next_drop, ih, ahead_of_not_placeholder _ _ _ rfl]
      rfl
    | separator =>
      -- If it is written with the next placeholder, the text from there on begins with it.
      rw [textFrom, textAt_separator, next_drop, ih, ahead_of_not_placeholder _ _ _ rfl, hc, ahead]
      cases Source.isFolded .left before after <;>
        cases h : f (before.length + 1) <;> simp [h, Orientation.neighbour]
    | placeholder name optional =>
      have hf : f.drop before.length 0 = f before.length := rfl
      rw [textFrom, textAt_placeholder, next_drop, ih, ahead_placeholder, hc, Source.shapeAt_left,
        hf]
      cases optional && Source.startsWithSeparator before && Source.isBoundary after <;>
        cases f before.length <;> simp [unit, ahead]

/-- By the right orientation a separator comes after its placeholder, so that the text with both
together has taken it when it comes. -/
theorem textFrom_right (hc : o.capture = .right) (f : Filling) (after : List Token) :
    ∀ before, behind o f before after ++ textFrom o (f.drop before.length) before after =
      indexed o f before after := by
  induction after with
  | nil => intro before; rfl
  | cons t after ih =>
    intro before
    have ih := ih (t :: before)
    rw [List.length_cons] at ih
    rw [indexed_cons, ← ih]
    cases t with
    | literal text =>
      rw [textFrom, textAt_literal, next_drop, behind_of_not_placeholder _ _ _ rfl]
      rfl
    | separator =>
      rw [textFrom, textAt_separator, next_drop, behind_of_not_placeholder _ _ _ rfl, hc, behind]
      cases Source.isFolded .right before after <;>
        cases h : f (before.length - 1) <;> simp [h, Orientation.neighbour]
    | placeholder name optional =>
      have hf : f.drop before.length 0 = f before.length := rfl
      rw [textFrom, textAt_placeholder, next_drop, behind_placeholder, hc, Source.shapeAt_right, hf]
      cases optional && Source.isBoundary before && Source.startsWithSeparator after <;>
        cases f before.length <;> simp [unit, behind]

theorem drop_zero (f : Filling) : f.drop 0 = f := by
  funext i
  rw [drop, Nat.zero_add]

/-- The text of a template, read with each separator at its placeholder. -/
theorem toList_text (tokens : List Token) (f : Filling) :
    (f.text o tokens).toList = textFrom o f [] tokens := by
  rw [toList_text_eq_indexed]
  cases hc : o.capture with
  | left =>
    have h := textFrom_left hc f tokens []
    rw [List.length_nil, drop_zero] at h
    rw [h]
    rfl
  | right =>
    have h := textFrom_right hc f tokens []
    rw [List.length_nil, drop_zero] at h
    rw [← h]
    cases tokens with
    | nil => rfl
    | cons t tokens => cases t <;> rfl

/-! ## Choices that can be had -/

theorem fits_nil (f : Filling) : f.Fits o [] := by
  intro i token h
  cases h

theorem fits_cons {f : Filling} {t : Token} {tokens : List Token} :
    f.Fits o (t :: tokens) ↔ t.Allows o (f 0) ∧ f.next.Fits o tokens := by
  constructor
  · intro h
    exact ⟨h 0 t rfl, fun i => h (i + 1)⟩
  · rintro ⟨h₀, h⟩ (_ | i) token ht
    · exact Option.some.inj ht ▸ h₀
    · exact h i token ht

/-! ## The last separator -/

/-- Whether the tokens after `before` end with a separator that is written on its own. -/
def endsAlone (capture : Orientation) (before : List Token) : List Token → Bool
  | [] => false
  | [.separator] => !Source.isFolded capture before []
  | t :: after => endsAlone capture (t :: before) after

theorem endsAlone_iff (capture : Orientation) (after : List Token) : ∀ before,
    endsAlone capture before after = true ↔ after.getLast? = some .separator ∧
      Token.owner? capture (before.reverse ++ after) (before.length + after.length - 1) = none := by
  induction after with
  | nil => simp [endsAlone]
  | cons t after ih =>
    intro before
    cases after with
    | nil =>
      cases t with
      | separator =>
        have h := Token.owner?_zip capture before []
        simp only [endsAlone, List.getLast?_singleton, true_and, List.length_singleton,
          Nat.add_sub_cancel, h]
        cases Source.isFolded capture before [] <;> simp
      | _ => simp [endsAlone]
    | cons u after =>
      have h : endsAlone capture before (t :: u :: after) =
          endsAlone capture (t :: before) (u :: after) := by
        cases t <;> rfl
      rw [h, ih (t :: before)]
      simp only [List.getLast?_cons_cons, List.reverse_cons, List.append_assoc,
        List.singleton_append, List.length_cons]
      have hl : before.length + 1 + (after.length + 1) - 1 =
          before.length + (after.length + 1 + 1) - 1 := by omega
      rw [hl]

end Filling

end PathTemplate
