import Mathlib.Data.List.ReduceOption
import Mathlib.Logic.ExistsUnique
import PathTemplate.Proofs.Filling
/-!
# Tokens that are written together

A separator is written with the placeholder that it belongs to, and not where it stands. Two
decisions have to agree on this: the placeholder looks for a separator beside it, and the separator
looks for a placeholder beside it that does so. Both are taken by position here, each with its own
bounds (`writtenAt`), and no separator is lost or written twice by them (`existsUnique_writes_iff`).

Nothing of this needs positions. The tokens fall into bundles, found in one pass from left to right,
and the source is the bundles written in order (`ofTokens_by_bundles`).
-/

namespace PathTemplate

/-! ## Bundles -/

/-- Tokens that are written together. -/
inductive Bundle where
  /-- A token by itself. -/
  | single (token : Token)
  /-- An optional placeholder that fills a segment, with the separator on one side of it: before it
  by the left orientation, after it by the right one. -/
  | folded (side : Orientation) (name : String)
  deriving DecidableEq, Repr

namespace Bundle

/-- The tokens in a bundle. -/
def tokens : Bundle → List Token
  | single token => [token]
  | folded .left name => [.separator, .placeholder name true]
  | folded .right name => [.placeholder name true, .separator]

/-- The tokens in bundles. `bounded` says whether the start of the template or a separator stands
before them. -/
def ofTokens (capture : Orientation) : Bool → List Token → List Bundle
  | _, [] => []
  | _, .separator :: .placeholder name true :: after =>
    if capture = .left ∧ after.head?.all Token.isSeparator then
      folded .left name :: ofTokens capture false after
    else single .separator :: ofTokens capture true (.placeholder name true :: after)
  | bounded, .placeholder name true :: .separator :: after =>
    if capture = .right ∧ bounded then folded .right name :: ofTokens capture true after
    else single (.placeholder name true) :: ofTokens capture false (.separator :: after)
  | _, token :: after => single token :: ofTokens capture token.isSeparator after

/-- What is written for a bundle, if `bound` are the names before it. A separator by itself may be
missing in the `last` one, where that is tolerated. -/
def source (o : Options) (overrides : Overrides) (bound : List String) (last : Bool) :
    Bundle → String
  | single (.literal text) => Regex.escape text
  | single .separator =>
    if last && o.allowTrailingSeparator then o.escapedSeparator ++ "?" else o.escapedSeparator
  | single (.placeholder name optional) =>
    Source.group o overrides bound name ++ if optional then "?" else ""
  | folded .left name => "(?:" ++ o.escapedSeparator ++ Source.group o overrides bound name ++ ")?"
  | folded .right name => "(?:" ++ Source.group o overrides bound name ++ o.escapedSeparator ++ ")?"

/-- What is written for each of the bundles, if `bound` are the names before them. -/
def sources (o : Options) (overrides : Overrides) (bound : List String) : List Bundle → List String
  | [] => []
  | bundle :: more =>
    bundle.source o overrides bound more.isEmpty ::
      sources o overrides ((bundle.tokens.filterMap Token.name?).foldl Token.addName bound) more

/-- Each token is in one bundle, and they keep their order. -/
theorem flatMap_tokens_ofTokens (capture : Orientation) (bounded : Bool) (tokens : List Token) :
    (ofTokens capture bounded tokens).flatMap Bundle.tokens = tokens := by
  fun_induction ofTokens capture bounded tokens <;> simp_all [Bundle.tokens]

theorem isEmpty_ofTokens (capture : Orientation) (bounded : Bool) (tokens : List Token) :
    (ofTokens capture bounded tokens).isEmpty = tokens.isEmpty := by
  fun_cases ofTokens capture bounded tokens <;> simp

/-- In `{a?}/{b?}//{c?}` each of the first two placeholders takes the separator after it along, and
the last one has none to take. -/
example : ofTokens .right true [.placeholder "a" true, .separator, .placeholder "b" true,
      .separator, .separator, .placeholder "c" true] =
    [folded .right "a", folded .right "b", single .separator, single (.placeholder "c" true)] := by
  decide

end Bundle

/-! ## The source by positions -/

namespace Source

/-- The layout of the placeholder at each position, by the tokens at the positions around it. -/
def shapes (capture : Orientation) (tokens : List Token) : List (Option Shape) :=
  tokens.mapIdx fun i token =>
    match token with
    | .placeholder _ optional =>
      let neighbour := match capture with
        | .left => i != 0 && tokens[i - 1]?.any Token.isSeparator
        | .right => tokens[i + 1]?.any Token.isSeparator
      some (Shape.select capture optional neighbour (Token.isSegment tokens i))
    | _ => none

/-- Whether the separator at a position is left to the placeholder beside it. -/
def isLeftOut (capture : Orientation) (tokens : List Token) (i : Nat) : Bool :=
  match capture with
  | .left => (shapes capture tokens)[i + 1]? = some (some .foldLeft)
  | .right => i ≠ 0 ∧ (shapes capture tokens)[i - 1]? = some (some .foldRight)

/-- What is written for the token at a position, unless it is a separator that is left out. -/
def writtenAt (o : Options) (overrides : Overrides) (tokens : List Token) (i : Nat) :
    Token → Option String
  | .literal text => some (Regex.escape text)
  | .separator =>
    if isLeftOut o.capture tokens i then none
    else some (if i + 1 = tokens.length ∧ o.allowTrailingSeparator then o.escapedSeparator ++ "?"
      else o.escapedSeparator)
  | .placeholder name optional =>
    let group := group o overrides (Token.names (tokens.take i)) name
    let unit := match (shapes o.capture tokens)[i]? with
      | some (some .foldLeft) => "(?:" ++ o.escapedSeparator ++ group ++ ")"
      | some (some .foldRight) => "(?:" ++ group ++ o.escapedSeparator ++ ")"
      | _ => group
    some (unit ++ if optional then "?" else "")

/-- What is written for the tokens, position by position. -/
def written (o : Options) (overrides : Overrides) (tokens : List Token) : List (Option String) :=
  tokens.mapIdx (writtenAt o overrides tokens)

/-- The position `j` writes the separator of a position: its own one, or together with its
placeholder the one right before it or right after it. -/
inductive Writes (capture : Orientation) (tokens : List Token) (j : Nat) : Nat → Prop
  | alone (ht : tokens[j]? = some .separator) (h : isLeftOut capture tokens j = false) :
    Writes capture tokens j j
  | before {i : Nat} (h : (shapes capture tokens)[j]? = some (some .foldLeft)) (hj : j = i + 1) :
    Writes capture tokens j i
  | after (h : (shapes capture tokens)[j]? = some (some .foldRight)) :
    Writes capture tokens j (j + 1)

/-! ### Separators and the positions that write them -/

variable {capture : Orientation} {tokens : List Token} {i j : Nat}

/-- A placeholder with a layout other than the bare one stands beside a separator. -/
theorem cases_of_shapes {shape : Shape} (h : (shapes capture tokens)[j]? = some (some shape))
    (hs : shape ≠ .bare) :
    (capture = .left ∧ shape = .foldLeft ∧ ∃ i, j = i + 1 ∧ tokens[i]? = some .separator) ∨
      (capture = .right ∧ shape = .foldRight ∧ tokens[j + 1]? = some .separator) := by
  rw [shapes, List.getElem?_mapIdx, Option.map_eq_some_iff] at h
  obtain ⟨t, -, ht⟩ := h
  cases t with
  | placeholder name optional =>
    obtain rfl := Option.some.inj ht
    rw [Ne, Shape.select_eq_bare_iff, Bool.not_eq_false] at hs
    obtain ⟨⟨-, hn⟩, -⟩ := by simpa only [Bool.and_eq_true] using hs
    cases capture with
    | left =>
      obtain ⟨hj, hn⟩ := Bool.and_eq_true_iff.1 hn
      obtain ⟨i, rfl⟩ := Nat.exists_eq_succ_of_ne_zero (bne_iff_ne.1 hj)
      exact .inl ⟨rfl, by simp only [Shape.select, hs], i, rfl, Token.any_isSeparator_iff.1 hn⟩
    | right => exact .inr ⟨rfl, by simp only [Shape.select, hs], Token.any_isSeparator_iff.1 hn⟩
  | _ => cases ht

theorem left_of_shapes (h : (shapes capture tokens)[j]? = some (some .foldLeft)) :
    capture = .left ∧ ∃ i, j = i + 1 ∧ tokens[i]? = some .separator := by
  rcases cases_of_shapes h (by decide) with ⟨hc, -, hi⟩ | ⟨-, hs, -⟩
  · exact ⟨hc, hi⟩
  · cases hs

theorem right_of_shapes (h : (shapes capture tokens)[j]? = some (some .foldRight)) :
    capture = .right ∧ tokens[j + 1]? = some .separator := by
  rcases cases_of_shapes h (by decide) with ⟨-, hs, -⟩ | ⟨hc, -, hi⟩
  · cases hs
  · exact ⟨hc, hi⟩

/-- A separator that is left out is written by a position beside it. -/
theorem exists_writes_of_isLeftOut (h : isLeftOut capture tokens i = true) :
    ∃ j, Writes capture tokens j i := by
  cases capture with
  | left => exact ⟨i + 1, .before (of_decide_eq_true h) rfl⟩
  | right =>
    obtain ⟨hi, h⟩ := of_decide_eq_true h
    obtain ⟨k, rfl⟩ := Nat.exists_eq_succ_of_ne_zero hi
    exact ⟨k, .after h⟩

namespace Writes

/-- A separator that a position beside it writes is left out where it stands. -/
theorem isLeftOut (h : Writes capture tokens j i) (hne : j ≠ i) :
    isLeftOut capture tokens i = true := by
  cases h with
  | alone => exact absurd rfl hne
  | before h hj =>
    obtain ⟨rfl, -⟩ := left_of_shapes h
    subst hj
    exact decide_eq_true h
  | after h =>
    obtain ⟨rfl, -⟩ := right_of_shapes h
    exact decide_eq_true ⟨by omega, h⟩

/-- No position writes a separator that is not there. -/
theorem getElem?_eq (h : Writes capture tokens j i) : tokens[i]? = some .separator := by
  cases h with
  | alone ht => exact ht
  | before h hj =>
    obtain ⟨-, k, hk, ht⟩ := left_of_shapes h
    obtain rfl : k = i := by omega
    exact ht
  | after h => exact (right_of_shapes h).2

/-- No two positions write the same separator. -/
theorem unique {k : Nat} (hj : Writes capture tokens j i) (hk : Writes capture tokens k i) :
    j = k := by
  -- A separator that is written where it stands is not left out there.
  have alone {m : Nat} (h : Source.isLeftOut capture tokens i = false)
      (hm : Writes capture tokens m i) : m = i := by
    by_contra hne
    rw [hm.isLeftOut hne] at h
    cases h
  cases hj with
  | alone _ h => exact (alone h hk).symm
  | before h hj =>
    cases hk with
    | alone _ h' => exact alone h' (.before h hj)
    | before _ hk => omega
    | after h' =>
      obtain ⟨rfl, -⟩ := left_of_shapes h
      cases (right_of_shapes h').1
  | after h =>
    cases hk with
    | alone _ h' => exact alone h' (.after h)
    | before h' _ =>
      obtain ⟨rfl, -⟩ := right_of_shapes h
      cases (left_of_shapes h').1
    | after => rfl

end Writes

/-- Each separator is written once, and nothing else is written as one. -/
theorem existsUnique_writes_iff (capture : Orientation) (tokens : List Token) (i : Nat) :
    (∃! j, Writes capture tokens j i) ↔ tokens[i]? = some .separator := by
  constructor
  · rintro ⟨j, hj, -⟩
    exact hj.getElem?_eq
  · intro ht
    obtain ⟨j, hj⟩ : ∃ j, Writes capture tokens j i := by
      cases h : isLeftOut capture tokens i with
      | false => exact ⟨i, .alone ht h⟩
      | true => exact exists_writes_of_isLeftOut h
    exact ⟨j, hj, fun k hk => hk.unique hj⟩

/-- The positions that write another one's separator are those with a layout that has one. -/
theorem exists_ne_writes_iff (capture : Orientation) (tokens : List Token) (j : Nat) :
    (∃ i ≠ j, Writes capture tokens j i) ↔
      ∃ shape ≠ .bare, (shapes capture tokens)[j]? = some (some shape) := by
  constructor
  · rintro ⟨i, hne, h⟩
    cases h with
    | alone => exact absurd rfl hne
    | before h => exact ⟨_, by decide, h⟩
    | after h => exact ⟨_, by decide, h⟩
  · rintro ⟨shape, hs, h⟩
    rcases cases_of_shapes h hs with ⟨-, rfl, i, rfl, -⟩ | ⟨-, rfl, -⟩
    · exact ⟨i, by omega, .before h rfl⟩
    · exact ⟨j + 1, by omega, .after h⟩

/-! ### The positions from left to right -/

variable {o : Options} {overrides : Overrides}

theorem any_isSeparator_before (before after : List Token) (token : Token) :
    (before.length != 0 &&
      (before.reverse ++ token :: after)[before.length - 1]?.any Token.isSeparator) =
        startsWithSeparator before := by
  cases before with
  | nil => rfl
  | cons t before => simp [startsWithSeparator]

theorem any_isSeparator_after (before after : List Token) (token : Token) :
    (before.reverse ++ token :: after)[before.length + 1]?.any Token.isSeparator =
      startsWithSeparator after := by
  rw [List.getElem?_append_right (by simp)]
  cases after <;> simp [startsWithSeparator]

theorem shapes_placeholder (capture : Orientation) (before after : List Token) (name : String)
    (optional : Bool) :
    (shapes capture (before.reverse ++ .placeholder name optional :: after))[before.length]? =
      some (some (shapeAt capture before optional after)) := by
  rw [shapes, List.getElem?_mapIdx, Token.getElem?_zip, Option.map_some, Token.isSegment_zip,
    any_isSeparator_before, any_isSeparator_after]
  rfl

theorem shapes_of_name?_eq_none (capture : Orientation) (before after : List Token) {token : Token}
    (h : token.name? = none) :
    (shapes capture (before.reverse ++ token :: after))[before.length]? = some none := by
  rw [shapes, List.getElem?_mapIdx, Token.getElem?_zip]
  cases token with
  | placeholder name optional => cases h
  | _ => rfl

/-- A separator is left out by position exactly if it is written together with a neighbour. -/
theorem isLeftOut_zip (capture : Orientation) (before after : List Token) :
    isLeftOut capture (before.reverse ++ .separator :: after) before.length =
      isFolded capture before after := by
  cases capture with
  | left =>
    cases after with
    | nil => simp [isLeftOut, shapes, isFolded]
    | cons t after =>
      have hz : before.reverse ++ .separator :: t :: after =
          (.separator :: before).reverse ++ t :: after := by simp
      have hl : before.length + 1 = (Token.separator :: before).length := rfl
      rw [isLeftOut, hz, hl]
      cases t with
      | placeholder name optional =>
        rw [shapes_placeholder, isFolded]
        simp only [Option.some.injEq]
      | _ =>
        rw [shapes_of_name?_eq_none _ _ _ rfl]
        rfl
  | right =>
    cases before with
    | nil => rfl
    | cons t before =>
      have hz : (t :: before).reverse ++ .separator :: after =
          before.reverse ++ t :: .separator :: after := by simp
      rw [isLeftOut, hz, List.length_cons, Nat.add_sub_cancel]
      cases t with
      | placeholder name optional =>
        rw [shapes_placeholder, isFolded]
        simp only [Option.some.injEq, ne_eq, Nat.succ_ne_zero, not_false_eq_true, true_and]
      | _ =>
        rw [shapes_of_name?_eq_none _ _ _ rfl]
        simp [isFolded]

/-- What is written at a position, by the tokens before it and after it. -/
theorem writtenAt_separator (before after : List Token) :
    writtenAt o overrides (before.reverse ++ .separator :: after) before.length .separator =
      if isFolded o.capture before after then none
      else some (Bundle.source o overrides [] after.isEmpty (.single .separator)) := by
  have hl : before.length + 1 = (before.reverse ++ .separator :: after).length ↔
      after.isEmpty = true := by
    cases after <;> simp
  rw [writtenAt, isLeftOut_zip, Bundle.source]
  simp only [hl, Bool.and_eq_true]

theorem writtenAt_placeholder (before after : List Token) (name : String) (optional : Bool) :
    writtenAt o overrides (before.reverse ++ .placeholder name optional :: after) before.length
        (.placeholder name optional) =
      some (unit o (shapeAt o.capture before optional after)
        (group o overrides (Token.names before.reverse) name) ++ if optional then "?" else "") := by
  have ht : (before.reverse ++ .placeholder name optional :: after).take before.length =
      before.reverse := by simp
  rw [writtenAt, shapes_placeholder, ht]
  cases shapeAt o.capture before optional after <;> rfl

/-- What is written for the tokens that come after `before`, given nearest first, position by
position. -/
def writtenFrom (o : Options) (overrides : Overrides) (before after : List Token) :
    List (Option String) :=
  after.mapIdx fun i t => writtenAt o overrides (before.reverse ++ after) (before.length + i) t

theorem writtenFrom_cons (before after : List Token) (t : Token) :
    writtenFrom o overrides before (t :: after) =
      writtenAt o overrides (before.reverse ++ t :: after) before.length t ::
        writtenFrom o overrides (t :: before) after := by
  simp only [writtenFrom, List.mapIdx_cons, List.reverse_cons, List.append_assoc,
    List.singleton_append, List.length_cons, Nat.add_zero, Nat.add_assoc, Nat.add_comm 1]

theorem written_eq_writtenFrom (tokens : List Token) :
    written o overrides tokens = writtenFrom o overrides [] tokens := by
  simp only [written, writtenFrom, List.length_nil, Nat.zero_add, List.reverse_nil, List.nil_append]

/-- The names before a token and its own. -/
theorem names_reverse_cons (before : List Token) (t : Token) :
    Token.names (t :: before).reverse =
      ([t].filterMap Token.name?).foldl Token.addName (Token.names before.reverse) := by
  rw [Token.names, List.reverse_cons, List.filterMap_append, List.foldl_append, Token.names]

/-- The pieces are what is written by position, with nothing for a separator that is left out. -/
theorem pieces_eq_writtenFrom (after : List Token) : ∀ before : List Token,
    pieces o overrides before (Token.names before.reverse) after =
      (writtenFrom o overrides before after).map (·.getD "") := by
  induction after with
  | nil => intro _; rfl
  | cons t after ih =>
    intro before
    have ih := ih (t :: before)
    rw [names_reverse_cons] at ih
    cases t with
    | literal text =>
      rw [writtenFrom_cons, List.map_cons, ← ih]
      rfl
    | separator =>
      rw [writtenFrom_cons, List.map_cons, ← ih, writtenAt_separator, pieces]
      split <;> rfl
    | placeholder name optional =>
      rw [writtenFrom_cons, List.map_cons, ← ih, writtenAt_placeholder, pieces]
      rfl

/-! ### The places between bundles -/

/-- Whether the tokens on both sides of a place are written together. -/
def isJoint (capture : Orientation) (before after : List Token) : Bool :=
  match capture, before, after with
  | .left, .separator :: before, after => isFolded .left before after
  | .right, before, .separator :: after => isFolded .right before after
  | _, _, _ => false

theorem exists_of_isFolded_left {before after : List Token}
    (h : isFolded .left before after = true) :
    ∃ name later, after = .placeholder name true :: later := by
  rcases after with _ | ⟨_ | _ | ⟨name, optional⟩, later⟩
  case cons.placeholder =>
    rw [isFolded_left, Bool.and_eq_true] at h
    exact ⟨name, later, by rw [h.1]⟩
  all_goals cases h

theorem exists_of_isFolded_right {before after : List Token}
    (h : isFolded .right before after = true) :
    ∃ name earlier, before = .placeholder name true :: earlier := by
  rcases before with _ | ⟨_ | _ | ⟨name, optional⟩, earlier⟩
  case cons.placeholder =>
    rw [isFolded_right, Bool.and_eq_true] at h
    exact ⟨name, earlier, by rw [h.1]⟩
  all_goals cases h

/-- Tokens that are written together are a separator and an optional placeholder. -/
theorem cases_of_isJoint {before after : List Token} (h : isJoint capture before after = true) :
    ∃ name earlier later,
      (capture = .left ∧ before = .separator :: earlier ∧ after = .placeholder name true :: later) ∨
        (capture = .right ∧ before = .placeholder name true :: earlier ∧
          after = .separator :: later) := by
  unfold isJoint at h
  split at h
  · obtain ⟨name, later, rfl⟩ := exists_of_isFolded_left h
    exact ⟨name, _, later, .inl ⟨rfl, rfl, rfl⟩⟩
  · obtain ⟨name, earlier, rfl⟩ := exists_of_isFolded_right h
    exact ⟨name, earlier, _, .inr ⟨rfl, rfl, rfl⟩⟩
  · cases h

theorem exists_of_startsWithSeparator {tokens : List Token}
    (h : startsWithSeparator tokens = true) : ∃ later, tokens = .separator :: later := by
  rcases tokens with _ | ⟨_ | _ | _, later⟩
  case cons.separator => exact ⟨later, rfl⟩
  all_goals cases h

section Joint

variable {before after : List Token} {t : Token} {name : String} {optional : Bool}

theorem isFolded_of_not_isJoint (h₁ : isJoint capture before (.separator :: after) = false)
    (h₂ : isJoint capture (.separator :: before) after = false) :
    isFolded capture before after = false := by
  cases capture with
  | left => exact h₂
  | right => exact h₁

theorem shapeAt_of_not_isJoint
    (h₁ : isJoint capture before (.placeholder name optional :: after) = false)
    (h₂ : isJoint capture (.placeholder name optional :: before) after = false) :
    shapeAt capture before optional after = .bare := by
  cases capture with
  | left =>
    rw [shapeAt_left, if_neg]
    intro h
    obtain ⟨⟨ho, hs⟩, ha⟩ := by simpa only [Bool.and_eq_true] using h
    obtain ⟨earlier, rfl⟩ := exists_of_startsWithSeparator hs
    rw [isJoint, isFolded_left, ho, ha] at h₁
    cases h₁
  | right =>
    rw [shapeAt_right, if_neg]
    intro h
    obtain ⟨⟨ho, hb⟩, hs⟩ := by simpa only [Bool.and_eq_true] using h
    obtain ⟨later, rfl⟩ := exists_of_startsWithSeparator hs
    rw [isJoint, isFolded_right, ho, hb] at h₂
    cases h₂

/-- A token between two places where nothing is written together is written by itself. -/
theorem writtenAt_of_not_isJoint (h₁ : isJoint o.capture before (t :: after) = false)
    (h₂ : isJoint o.capture (t :: before) after = false) :
    writtenAt o overrides (before.reverse ++ t :: after) before.length t =
      some (Bundle.source o overrides (Token.names before.reverse) after.isEmpty (.single t)) := by
  cases t with
  | literal text => rfl
  | separator =>
    rw [writtenAt_separator, isFolded_of_not_isJoint h₁ h₂]
    rfl
  | placeholder name optional =>
    rw [writtenAt_placeholder, shapeAt_of_not_isJoint h₁ h₂]
    rfl

theorem reduceOption_writtenFrom_single {bounded : Bool}
    (h₁ : isJoint o.capture before (t :: after) = false)
    (h₂ : isJoint o.capture (t :: before) after = false)
    (h : (writtenFrom o overrides (t :: before) after).reduceOption =
      Bundle.sources o overrides (Token.names (t :: before).reverse)
        (Bundle.ofTokens o.capture bounded after)) :
    (writtenFrom o overrides before (t :: after)).reduceOption =
      Bundle.sources o overrides (Token.names before.reverse)
        (.single t :: Bundle.ofTokens o.capture bounded after) := by
  rw [writtenFrom_cons, writtenAt_of_not_isJoint h₁ h₂, List.reduceOption_cons_of_some, h,
    names_reverse_cons, Bundle.sources, Bundle.isEmpty_ofTokens]
  rfl

theorem append_question (s : String) : s ++ ")" ++ "?" = s ++ ")?" := by
  rw [String.append_assoc]
  rfl

/-- A separator before its placeholder is written at the place of the placeholder. -/
theorem writtenFrom_left (hc : o.capture = .left)
    (hj : isFolded .left before (.placeholder name true :: after) = true) (last : Bool) :
    writtenFrom o overrides before (.separator :: .placeholder name true :: after) =
      none ::
        some (Bundle.source o overrides (Token.names before.reverse) last (.folded .left name)) ::
          writtenFrom o overrides (.placeholder name true :: .separator :: before) after := by
  have hs : shapeAt .left (.separator :: before) true after = .foldLeft := of_decide_eq_true hj
  have hn : Token.names (.separator :: before).reverse = Token.names before.reverse :=
    names_reverse_cons before .separator
  rw [writtenFrom_cons, writtenFrom_cons, writtenAt_separator, writtenAt_placeholder, hc, hs, hn,
    if_pos hj, Bundle.source, unit, if_pos rfl, append_question]

/-- A separator after its placeholder is written at the place of the placeholder. -/
theorem writtenFrom_right (hc : o.capture = .right)
    (hj : isFolded .right (.placeholder name true :: before) after = true) (last : Bool) :
    writtenFrom o overrides before (.placeholder name true :: .separator :: after) =
      some (Bundle.source o overrides (Token.names before.reverse) last (.folded .right name)) ::
        none :: writtenFrom o overrides (.separator :: .placeholder name true :: before) after := by
  have hs : shapeAt .right before true (.separator :: after) = .foldRight := of_decide_eq_true hj
  rw [writtenFrom_cons, writtenFrom_cons, writtenAt_separator, writtenAt_placeholder, hc, hs,
    if_pos hj, Bundle.source, unit, if_pos rfl, append_question]

end Joint

theorem isBoundary_eq (tokens : List Token) :
    isBoundary tokens = tokens.head?.all Token.isSeparator := by
  cases tokens <;> rfl

/-- From a place where nothing is written together, what is written by position is what is written
for the bundles. -/
theorem reduceOption_writtenFrom (bounded : Bool) (after : List Token) : ∀ before : List Token,
    isBoundary before = bounded → isJoint o.capture before after = false →
      (writtenFrom o overrides before after).reduceOption =
        Bundle.sources o overrides (Token.names before.reverse)
          (Bundle.ofTokens o.capture bounded after) := by
  fun_induction Bundle.ofTokens o.capture bounded after with
  | case1 => intros; rfl
  | case2 _ name after h ih =>
    -- A separator and the placeholder after it are a bundle.
    intro before _ _
    have hj : isFolded .left before (.placeholder name true :: after) = true := by
      rw [isFolded_left, isBoundary_eq, h.2, Bool.true_and]
    have ih := ih (.placeholder name true :: .separator :: before) rfl (by rw [h.1]; rfl)
    rw [names_reverse_cons, names_reverse_cons] at ih
    rw [writtenFrom_left h.1 hj, List.reduceOption_cons_of_none, List.reduceOption_cons_of_some, ih]
    rfl
  | case3 _ name after h ih =>
    -- The placeholder after the separator fills no segment, or takes the other separator.
    intro before _ hj
    have hb :
        isJoint o.capture (.separator :: before) (.placeholder name true :: after) = false := by
      cases hc : o.capture with
      | left =>
        rw [isJoint, isFolded_left, isBoundary_eq, Bool.true_and, ← Bool.not_eq_true]
        exact fun ha => h ⟨hc, ha⟩
      | right => rfl
    exact reduceOption_writtenFrom_single hj hb (ih _ rfl hb)
  | case4 bounded name after h ih =>
    -- A placeholder and the separator after it are a bundle.
    intro before hbounded _
    have hj : isFolded .right (.placeholder name true :: before) after = true := by
      rw [isFolded_right, hbounded, h.2, Bool.true_and]
    have hb : isJoint o.capture (.separator :: .placeholder name true :: before) after = false := by
      rw [← Bool.not_eq_true]
      intro hb
      obtain ⟨_, _, _, ⟨hc, -⟩ | ⟨-, ⟨⟩, -⟩⟩ := cases_of_isJoint hb
      cases hc.symm.trans h.1
    have ih := ih (.separator :: .placeholder name true :: before) rfl hb
    rw [names_reverse_cons, names_reverse_cons] at ih
    rw [writtenFrom_right h.1 hj, List.reduceOption_cons_of_some, List.reduceOption_cons_of_none,
      ih]
    rfl
  | case5 bounded name after h ih =>
    -- The placeholder fills no segment, or takes the other separator.
    intro before hbounded hj
    have hb :
        isJoint o.capture (.placeholder name true :: before) (.separator :: after) = false := by
      cases hc : o.capture with
      | left => rfl
      | right =>
        rw [isJoint, isFolded_right, hbounded, Bool.true_and, ← Bool.not_eq_true]
        exact fun ha => h ⟨hc, ha⟩
    exact reduceOption_writtenFrom_single hj hb (ih _ rfl hb)
  | case6 _ t after h₁ h₂ ih =>
    -- No separator stands next to an optional placeholder here.
    intro before _ hj
    have hb : isJoint o.capture (t :: before) after = false := by
      rw [← Bool.not_eq_true]
      intro hb
      obtain ⟨name, _, later, ⟨-, ⟨⟩, ha⟩ | ⟨-, ⟨⟩, ha⟩⟩ := cases_of_isJoint hb
      · exact h₁ name later rfl ha
      · exact h₂ name later rfl ha
    exact reduceOption_writtenFrom_single hj hb (ih _ rfl hb)

theorem join_map_getD (xs : List (Option String)) :
    String.join (xs.map (·.getD "")) = String.join xs.reduceOption := by
  induction xs with
  | nil => rfl
  | cons x xs ih =>
    cases x with
    | none =>
      rw [List.map_cons, String.join_cons, ih, List.reduceOption_cons_of_none]
      exact String.empty_append
    | some s =>
      rw [List.map_cons, String.join_cons, ih, List.reduceOption_cons_of_some, String.join_cons]
      rfl

theorem reduceOption_written (o : Options) (overrides : Overrides) (tokens : List Token) :
    (written o overrides tokens).reduceOption =
      Bundle.sources o overrides [] (Bundle.ofTokens o.capture true tokens) := by
  have hj : isJoint o.capture [] tokens = false := by
    rw [← Bool.not_eq_true]
    intro hj
    obtain ⟨_, _, _, ⟨-, ⟨⟩, -⟩ | ⟨-, ⟨⟩, -⟩⟩ := cases_of_isJoint hj
  rw [written_eq_writtenFrom]
  exact reduceOption_writtenFrom true tokens [] rfl hj

/-- The source of a template is what is written for its bundles, one after the other, and that is
what is written position by position. Each separator is written once, where it stands or with one
placeholder, and a placeholder that is laid out with a separator has one of its own. -/
theorem ofTokens_by_bundles (o : Options) (overrides : Overrides) (tokens : List Token) :
    let bundles := Bundle.ofTokens o.capture true tokens
    ofTokens o overrides tokens =
        (if o.flags = "" then "" else "(?" ++ o.flags ++ ")") ++ "^" ++
          String.join (Bundle.sources o overrides [] bundles) ++
          (if o.allowTrailingSeparator = true ∧ tokens.getLast? ≠ some .separator then
            o.escapedSeparator ++ "?" else "") ++ "$" ∧
      bundles.flatMap Bundle.tokens = tokens ∧
      (written o overrides tokens).reduceOption = Bundle.sources o overrides [] bundles ∧
      (∀ i, (∃! j, Writes o.capture tokens j i) ↔ tokens[i]? = some .separator) ∧
      ∀ j, (∃ i ≠ j, Writes o.capture tokens j i) ↔
        ∃ shape ≠ .bare, (shapes o.capture tokens)[j]? = some (some shape) := by
  have hw := reduceOption_written o overrides tokens
  have hp : String.join (pieces o overrides [] [] tokens) =
      String.join (Bundle.sources o overrides [] (Bundle.ofTokens o.capture true tokens)) := by
    rw [← hw, ← join_map_getD, written_eq_writtenFrom]
    exact congrArg String.join (pieces_eq_writtenFrom tokens [])
  refine ⟨?_, Bundle.flatMap_tokens_ofTokens _ _ _, hw, existsUnique_writes_iff _ _,
    exists_ne_writes_iff _ _⟩
  rw [ofTokens, hp, flagGroup, trailing]
  simp only [Bool.and_eq_true, Bool.not_eq_true', Token.any_isSeparator_eq_false_iff]

end Source

end PathTemplate
