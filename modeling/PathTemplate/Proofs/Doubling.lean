import Mathlib.Data.List.Chain
import PathTemplate.Proofs.Compiling
/-!
# Doubled separators

Where every placeholder fills a segment and something stands between any two separators, no filling
writes two separators in a row: a placeholder that is left out between two of them takes one along.
By the right orientation it takes the one after it, so a last placeholder takes none and may leave a
separator at the end. Then the one that may follow a template comes right after that.
-/

namespace PathTemplate

open Regex

/-! ## Single separators -/

namespace Options

/-- No two separators are next to each other. -/
def IsSingle (o : Options) (cs : List Char) : Prop :=
  cs.IsChain fun a b => ¬ (a = o.separator ∧ b = o.separator)

variable {o : Options} {s cs : List Char}

theorem isSingle_iff : o.IsSingle cs ↔ ¬ [o.separator, o.separator] <:+: cs := by
  constructor
  · intro h hi
    have hp : o.IsSingle [o.separator, o.separator] := List.IsChain.infix h hi
    exact List.isChain_pair.1 hp ⟨rfl, rfl⟩
  · intro h
    refine List.isChain_iff_forall_rel_of_append_cons_cons.2 ?_
    rintro a b l₁ l₂ rfl ⟨rfl, rfl⟩
    exact h ⟨l₁, l₂, by simp⟩

theorem isSingle_cons (h : o.IsSingle cs) (hh : cs.head? ≠ some o.separator) :
    o.IsSingle (o.separator :: cs) :=
  List.isChain_cons.2 ⟨fun _ hb he => hh (he.2 ▸ hb), h⟩

theorem isSingle_append (h : o.IsSingle cs) (hs : o.separator ∉ s) : o.IsSingle (s ++ cs) := by
  induction s with
  | nil => exact h
  | cons c s ih =>
    rw [List.mem_cons, not_or] at hs
    exact List.isChain_cons.2 ⟨fun _ _ he => hs.1 he.1.symm, ih hs.2⟩

theorem head?_append_ne (hn : s ≠ []) (hs : o.separator ∉ s) (cs : List Char) :
    (s ++ cs).head? ≠ some o.separator := by
  cases s with
  | nil => exact absurd rfl hn
  | cons c s =>
    rintro ⟨⟩
    exact hs List.mem_cons_self

end Options

/-! ## Templates with separators apart -/

namespace Token

/-- Placeholders fill segments, and separators are neither next to each other nor inside literal
text. -/
structure IsSpaced (o : Options) (tokens : List Token) : Prop where
  segment : ∀ i name optional, tokens[i]? = some (.placeholder name optional) →
    isSegment tokens i = true
  separate : ∀ i : Nat, tokens[i]? = some .separator → tokens[i + 1]? ≠ some .separator
  literal : ∀ text, .literal text ∈ tokens → o.separator ∉ text.toList

theorem isSpaced_pair {o : Options} {t u : Token} (ht : t ≠ .separator) (hu : u ≠ .separator)
    (hl : ∀ text, .literal text ∈ [t, u] → o.separator ∉ text.toList) :
    IsSpaced o [t, .separator, u] where
  segment := by
    rintro (_ | _ | _ | i) name optional hi
    · rfl
    · cases hi
    · rfl
    · cases hi
  separate := by
    rintro (_ | _ | _ | i) hi
    · exact absurd (Option.some.inj hi) ht
    · exact fun h => hu (Option.some.inj h)
    · exact absurd (Option.some.inj hi) hu
    · cases hi
  literal := by simpa using hl

namespace IsSpaced

variable {o : Options} {tokens before after : List Token}

theorem isBoundary {name : String} {optional : Bool}
    (h : IsSpaced o (before.reverse ++ .placeholder name optional :: after)) :
    Source.isBoundary before = true ∧ Source.isBoundary after = true := by
  have hs := h.segment before.length name optional (getElem?_zip _ _ _)
  rwa [isSegment_zip, Bool.and_eq_true] at hs

theorem ne_separator {t : Token}
    (h : IsSpaced o (before.reverse ++ .separator :: t :: after)) : t ≠ .separator := by
  rintro rfl
  refine h.separate before.length (getElem?_zip _ _ _) ?_
  rw [List.getElem?_append_right (by simp)]
  simp

theorem next {t : Token} (h : IsSpaced o (before.reverse ++ t :: after)) :
    IsSpaced o ((t :: before).reverse ++ after) := by
  rwa [List.reverse_cons, List.append_assoc, List.singleton_append]

end IsSpaced

end Token

theorem Source.eq_right_of_shapeAt {capture : Orientation} {before after : List Token}
    {optional : Bool} (h : shapeAt capture before optional after = .foldRight) :
    capture = .right ∧ optional = true ∧ isBoundary before = true := by
  cases capture with
  | left =>
    rw [shapeAt_left] at h
    split at h <;> cases h
  | right =>
    rw [shapeAt_right] at h
    split at h
    · next hb => simp_all
    · cases h

namespace Filling

variable {o : Options} {f : Filling} {before after tokens : List Token} {c : String}

/-! ## The text of a filling -/

theorem head?_literal_append_ne {text : String}
    (hs : Token.IsSpaced o (before.reverse ++ .literal text :: after))
    (hl : .literal "" ∉ .literal text :: after) (cs : List Char) :
    (text.toList ++ cs).head? ≠ some o.separator := by
  have ht : text.toList ≠ [] := by
    intro h
    exact hl (by simp [String.toList_eq_nil_iff.1 h])
  exact Options.head?_append_ne ht (hs.literal text (by simp)) cs

/-- What is written for a placeholder that takes no separator in front of it begins with the
placeholder's own text. -/
theorem head?_unit_append_ne {s : String} (ha : s ≠ "" ∧ o.separator ∉ s.toList) {shape : Shape}
    (hs : shape ≠ .foldLeft) (cs : List Char) :
    (unit o s.toList shape ++ cs).head? ≠ some o.separator := by
  have hn : s.toList ≠ [] := by simpa using ha.1
  cases shape with
  | foldLeft => exact absurd rfl hs
  | foldRight =>
    rw [unit, List.append_assoc]
    exact Options.head?_append_ne hn ha.2 _
  | bare => exact Options.head?_append_ne hn ha.2 _

/-- By the left orientation a separator that is written on its own comes before a token that cannot
be left out. -/
theorem head?_textFrom_left (hc : o.capture = .left)
    (hs : Token.IsSpaced o (before.reverse ++ .separator :: after)) (hl : .literal "" ∉ after)
    (hf : f.Fits o after) (hb : Source.isFolded .left before after = false) :
    (textFrom o f (.separator :: before) after).head? ≠ some o.separator := by
  cases after with
  | nil => nofun
  | cons t after =>
    obtain ⟨ha, -⟩ := fits_cons.1 hf
    cases t with
    | literal text => exact head?_literal_append_ne hs.next hl _
    | separator => exact absurd rfl hs.ne_separator
    | placeholder name optional =>
      rw [Source.isFolded_left, hs.next.isBoundary.2, Bool.and_true] at hb
      subst hb
      cases h : f 0 with
      | none => rw [h] at ha; cases ha
      | some s =>
        rw [h] at ha
        have hn : Source.shapeAt o.capture (.separator :: before) false after ≠ .foldLeft := by
          rw [hc, Source.shapeAt_left]
          nofun
        rw [textFrom, h]
        exact head?_unit_append_ne ha hn _

/-- By the right orientation, whether a separator can be the last thing written before a place: one
stands there, or a placeholder does that is written with the separator after it or left out. -/
def isClosed : List Token → Bool
  | .separator :: _ => true
  | .placeholder _ true :: before => Source.isBoundary before
  | _ => false

theorem isFolded_of_isClosed (hb : isClosed before = true)
    (hs : Token.IsSpaced o (before.reverse ++ .separator :: after)) :
    Source.isFolded .right before after = true := by
  unfold isClosed at hb
  split at hb
  · rw [List.reverse_cons, List.append_assoc] at hs
    exact absurd rfl hs.ne_separator
  · rw [Source.isFolded_right, hb]
    rfl
  · cases hb

/-- By the right orientation no separator comes next where the last thing written is a separator. -/
theorem head?_textFrom_right (hc : o.capture = .right) (after : List Token) :
    ∀ {before : List Token} {f : Filling}, isClosed before = true →
      Token.IsSpaced o (before.reverse ++ after) → .literal "" ∉ after → f.Fits o after →
        (textFrom o f before after).head? ≠ some o.separator := by
  induction after with
  | nil => rintro _ _ _ _ _ _ ⟨⟩
  | cons t after ih =>
    intro before f hb hs hl hf
    obtain ⟨ha, hnext⟩ := fits_cons.1 hf
    have hn := List.not_mem_of_not_mem_cons hl
    cases t with
    | literal text => exact head?_literal_append_ne hs hl _
    | separator =>
      rw [textFrom, hc, isFolded_of_isClosed hb hs]
      exact ih rfl hs.next hn hnext
    | placeholder name optional =>
      cases h : f 0 with
      | none =>
        rw [h] at ha
        cases ha
        rw [textFrom, h]
        exact ih hs.isBoundary.1 hs.next hn hnext
      | some s =>
        rw [h] at ha
        have hshape : Source.shapeAt o.capture before optional after ≠ .foldLeft := by
          rw [hc, Source.shapeAt_right]
          split <;> decide
        rw [textFrom, h]
        exact head?_unit_append_ne ha hshape _

/-- No filling writes two separators in a row. -/
theorem isSingle_textFrom (after : List Token) :
    ∀ {before : List Token} {f : Filling}, Token.IsSpaced o (before.reverse ++ after) →
      .literal "" ∉ after → f.Fits o after → o.IsSingle (textFrom o f before after) := by
  induction after with
  | nil => intro _ _ _ _ _; exact .nil
  | cons t after ih =>
    intro before f hs hl hf
    obtain ⟨ha, hnext⟩ := fits_cons.1 hf
    have hn := List.not_mem_of_not_mem_cons hl
    have hi := ih hs.next hn hnext
    cases t with
    | literal text => exact Options.isSingle_append hi (hs.literal text (by simp))
    | separator =>
      rw [textFrom]
      cases hb : Source.isFolded o.capture before after with
      | true => exact hi
      | false =>
        refine Options.isSingle_cons hi ?_
        cases hc : o.capture with
        | left => exact head?_textFrom_left hc hs hn hnext (hc ▸ hb)
        | right => exact head?_textFrom_right hc after rfl hs.next hn hnext
    | placeholder name optional =>
      rw [textFrom]
      cases h : f 0 with
      | none => exact hi
      | some s =>
        rw [h] at ha
        cases hshape : Source.shapeAt o.capture before optional after with
        | bare => exact Options.isSingle_append hi ha.2
        | foldLeft =>
          have ht : s.toList ≠ [] := by simpa using ha.1
          exact Options.isSingle_cons (Options.isSingle_append hi ha.2)
            (Options.head?_append_ne ht ha.2 _)
        | foldRight =>
          obtain ⟨hc, rfl, hb⟩ := Source.eq_right_of_shapeAt hshape
          have hclosed : isClosed (.placeholder name true :: before) = true := hb
          have hh := head?_textFrom_right hc after hclosed hs.next hn hnext
          have hu : o.IsSingle (s.toList ++ o.separator :: textFrom o f.next _ after) :=
            Options.isSingle_append (Options.isSingle_cons hi hh) ha.2
          rwa [List.append_cons] at hu

theorem isSingle_text (hs : Token.IsSpaced o tokens) (hl : .literal "" ∉ tokens)
    (hf : f.Fits o tokens) : o.IsSingle (f.text o tokens).toList := by
  rw [toList_text]
  exact isSingle_textFrom tokens hs hl hf

end Filling

/-! ## The separator after a template -/

namespace Token

variable {o : Options} {tokens : List Token}

theorem eq_some_or_last_of_concat {i : Nat} {t : Token}
    (h : (tokens ++ [separator])[i]? = some t) :
    tokens[i]? = some t ∨ (i = tokens.length ∧ t = separator) := by
  rw [List.getElem?_append] at h
  split at h
  · exact .inl h
  · rw [List.getElem?_singleton] at h
    split at h
    · cases h
      exact .inr ⟨by omega, rfl⟩
    · cases h

/-- A separator at the end bounds the last placeholder as the end does. -/
theorem isSegment_concat {i : Nat} (hi : i < tokens.length) :
    isSegment (tokens ++ [.separator]) i = isSegment tokens i := by
  have hb : (tokens ++ [separator])[i - 1]? = tokens[i - 1]? :=
    List.getElem?_append_left (by omega)
  have ha : ((tokens ++ [separator])[i + 1]?).all isSeparator =
      (tokens[i + 1]?).all isSeparator := by
    by_cases h : i + 1 < tokens.length
    · rw [List.getElem?_append_left h]
    · have : i + 1 = tokens.length := by omega
      simp [this, isSeparator]
  rw [isSegment, isSegment, hb, ha]

theorem isOptionalSegment_concat (i : Nat) :
    isOptionalSegment (tokens ++ [.separator]) i = isOptionalSegment tokens i := by
  by_cases hi : i < tokens.length
  · rw [isOptionalSegment, isOptionalSegment, isSegment_concat hi, List.getElem?_append_left hi]
  · have hn : tokens[i]? = none := List.getElem?_eq_none (Nat.le_of_not_lt hi)
    have ho : ((tokens ++ [separator])[i]?).any isOptional = false := by
      rw [List.getElem?_append_right (Nat.le_of_not_lt hi)]
      cases i - tokens.length <;> rfl
    rw [isOptionalSegment, isOptionalSegment, ho, hn]
    rfl

theorem owner?_concat (capture : Orientation) (i : Nat) :
    owner? capture (tokens ++ [.separator]) i = owner? capture tokens i := by
  cases capture with
  | left => rw [owner?, owner?, isOptionalSegment_concat]
  | right =>
    cases i with
    | zero => rfl
    | succ i => rw [owner?, owner?, isOptionalSegment_concat]

/-- A separator after the last token belongs to that one, or to none. -/
theorem eq_or_suffix_of_owner?_length {capture : Orientation} {i : Nat}
    (h : owner? capture tokens tokens.length = some i) : capture = .right ∧ ∃ name,
      (i = 0 ∧ tokens = [.placeholder name true]) ∨
        [.separator, .placeholder name true] <:+ tokens := by
  obtain ⟨ho, h⟩ := owner?_eq_some h
  obtain ⟨⟨name, hi⟩, hs⟩ := exists_of_isOptionalSegment ho
  have hlt := (List.getElem?_eq_some_iff.1 hi).1
  rcases h with ⟨-, hk⟩ | ⟨hr, hk⟩
  · omega
  refine ⟨hr, name, ?_⟩
  have hlast : tokens.getLast? = some (.placeholder name true) := by
    rw [List.getLast?_eq_getElem?, hk, Nat.add_sub_cancel, hi]
  obtain ⟨ys, rfl⟩ := List.getLast?_eq_some_iff.1 hlast
  rcases List.eq_nil_or_concat' ys with rfl | ⟨zs, t, rfl⟩
  · simp at hk
    exact .inl ⟨by omega, rfl⟩
  · -- The placeholder fills a segment, so a separator stands before it.
    have hi : i = (zs ++ [t]).length := by
      rw [List.length_append, List.length_singleton] at hk
      omega
    have ht : t.isSeparator = true := by
      rw [isSegment, hi] at hs
      simpa using (Bool.and_eq_true_iff.1 hs).1
    cases t with
    | separator => exact .inr ⟨zs, by simp⟩
    | _ => cases ht

theorem IsSpaced.concat (hs : IsSpaced o tokens) (hl : tokens.getLast? ≠ some .separator) :
    IsSpaced o (tokens ++ [.separator]) where
  segment := by
    intro i name optional hi
    rcases eq_some_or_last_of_concat hi with hi | ⟨-, h⟩
    · rw [isSegment_concat (List.getElem?_eq_some_iff.1 hi).1]
      exact hs.segment i name optional hi
    · cases h
  separate := by
    intro i hi hn
    rcases eq_some_or_last_of_concat hi with hi | ⟨rfl, -⟩
    · rcases eq_some_or_last_of_concat hn with hn | ⟨hlen, -⟩
      · exact hs.separate i hi hn
      · rw [List.getLast?_eq_getElem?, ← hlen] at hl
        exact hl hi
    · have := (List.getElem?_eq_some_iff.1 hn).1
      rw [List.length_append, List.length_singleton] at this
      omega
  literal := by
    intro text ht
    refine hs.literal text ?_
    simpa using ht

end Token

namespace Filling

variable {o : Options} {f : Filling} {tokens : List Token} {c : String}

/-- A separator that may follow a template is one at its end, if it does not belong to a placeholder
that is left out. -/
theorem text_concat (hb : f.isAbsorbed o tokens tokens.length = false) :
    f.text o (tokens ++ [.separator]) = f.text o tokens ++ String.singleton o.separator := by
  have ht : textAt o (tokens ++ [.separator]) f = textAt o tokens f := by
    funext i t
    rw [textAt, textAt, isAbsorbed, isAbsorbed, Token.owner?_concat]
  have hlast : f.textAt o tokens tokens.length .separator = String.singleton o.separator := by
    rw [textAt, hb, Bool.and_false]
    rfl
  rw [text, text, List.mapIdx_append, ht, String.join_append]
  simp [hlast]

theorem fits_concat (hf : f.Fits o tokens) : f.Fits o (tokens ++ [.separator]) := by
  intro i t hi
  rcases Token.eq_some_or_last_of_concat hi with hi | ⟨-, rfl⟩
  · exact hf i t hi
  · trivial

/-- A text of a filling has single separators, but for the one that may follow the template. This
one comes after another only where it would belong to a last placeholder that is left out. -/
theorem Yields.isSingle (hs : Token.IsSpaced o tokens) (hl : .literal "" ∉ tokens)
    (hf : f.Fits o tokens) (hy : f.Yields o tokens c) : o.IsSingle c.toList ∨
      (o.capture = .right ∧ o.allowTrailingSeparator = true ∧
        (∃ name, [.separator, .placeholder name true] <:+ tokens) ∧
          c = f.text o tokens ++ String.singleton o.separator) := by
  have ht := isSingle_text hs hl hf
  rcases hy with _ | ⟨ha, hlast⟩ | ⟨-, -, -, hc⟩
  · exact .inl ht
  · cases hb : f.isAbsorbed o tokens tokens.length with
    | false =>
      rw [← text_concat hb]
      exact .inl (isSingle_text (hs.concat hlast) (by simpa using hl) (fits_concat hf))
    | true =>
      obtain ⟨i, hi, hn⟩ := (Option.any_eq_true _ _).1 hb
      obtain ⟨hr, name, ⟨rfl, rfl⟩ | hsuf⟩ := Token.eq_or_suffix_of_owner?_length hi
      · -- Nothing is written for a placeholder alone that is left out.
        have hw : (f.text o [.placeholder name true]).toList = [] := by
          rw [Option.isNone_iff_eq_none] at hn
          simp [text, textAt, Token.isSeparator, Token.spelling, hn]
        rw [String.toList_append, hw, String.toList_singleton]
        exact .inl (.singleton _)
      · exact .inr ⟨hr, ha, ⟨name, hsuf⟩, rfl⟩
  · rw [hc, String.toList_append] at ht
    exact .inl (List.IsChain.left_of_append ht)

end Filling

namespace CompiledTemplate

variable {o : Options} {template : String} {tokens : List Token} {limits : Limits}
  {t : CompiledTemplate}

/-- Where separators are apart in a template, they are apart in each text that matches. There is one
exception: after a last placeholder that is left out while the separator before it is not, another
separator may follow, and the text without it matches as well. -/
theorem not_doubled_of_isMatch (ho : o.fault? = none) (hd : o.defaultExpression = none)
    (hs : ∀ c ∈ o.flags.toList, c ∈ ['s', 'u', 'U'])
    (ht : Token.ofTemplate o template = .ok tokens) (hsp : Token.IsSpaced o tokens)
    (hc : Anew.compile limits o template [] = .ok t) {c : String} (hm : t.isMatch c = true) :
    ¬ [o.separator, o.separator] <:+: c.toList ∨
      (o.capture = .right ∧ o.allowTrailingSeparator = true ∧
        (∃ name, [.separator, .placeholder name true] <:+ tokens) ∧
          ∃ d, c = d ++ String.singleton o.separator ∧ t.isMatch d = true ∧
            ¬ [o.separator, o.separator] <:+: d.toList) := by
  obtain ⟨hi, hl⟩ := Options.caseless_and_multiLine_of_flags hs
  have hr := Anew.tree_of_compile ho hd ht hc
  have hlit : Token.literal "" ∉ tokens := by
    intro h
    obtain ⟨c, hc, -⟩ := Token.isRead_of_ofTemplate ho ht _ h
    cases hc
  obtain ⟨f, hf, hy⟩ := exists_yields_of_isMatch hr hi hl hm
  rcases hy.isSingle hsp hlit hf with h | ⟨hcap, ha, hsuf, rfl⟩
  · exact .inl (Options.isSingle_iff.1 h)
  · refine .inr ⟨hcap, ha, hsuf, _, rfl, isMatch_of_yields hr hi hl hf .exact, ?_⟩
    exact Options.isSingle_iff.1 (Filling.isSingle_text hsp hlit hf)

/-- Where both placeholders of `{a?}/{b?}` can be left out, one separator is left at most. -/
theorem not_doubled_of_isMatch_optional :
    ∃ t, Anew.compile { weight := none } {} "\x7ba?\x7d/\x7bb?\x7d" [] = .ok t ∧
      t.isMatch "/" = true ∧ ∀ c, t.isMatch c = true → ¬ ['/', '/'] <:+: c.toList := by
  have ht : Token.ofTemplate {} "\x7ba?\x7d/\x7bb?\x7d" =
      .ok [.placeholder "a" true, .separator, .placeholder "b" true] := by rfl
  have hsp : Token.IsSpaced {} [.placeholder "a" true, .separator, .placeholder "b" true] :=
    Token.isSpaced_pair nofun nofun (by simp)
  have hc := Anew.compile_eq_ofTokens (by decide) rfl ht
  refine ⟨_, hc, by decide +kernel, fun c hm => ?_⟩
  rcases not_doubled_of_isMatch (by decide) rfl (by simp) ht hsp hc hm with h | ⟨h, -⟩
  · exact h
  · cases h

/-- By the right orientation `x/{b?}` accepts `x//`. -/
theorem doubled_of_isMatch :
    ¬ ∀ (o : Options) (template : String) (tokens : List Token) (limits : Limits)
      (t : CompiledTemplate) (c : String), o.fault? = none → o.defaultExpression = none →
        (∀ c ∈ o.flags.toList, c ∈ ['s', 'u', 'U']) → Token.ofTemplate o template = .ok tokens →
        Token.IsSpaced o tokens → Anew.compile limits o template [] = .ok t →
        t.isMatch c = true → ¬ [o.separator, o.separator] <:+: c.toList := by
  intro h
  have ht : Token.ofTemplate { capture := .right } "x/\x7bb?\x7d" =
      .ok [.literal "x", .separator, .placeholder "b" true] := by rfl
  have hsp : Token.IsSpaced { capture := .right }
      [.literal "x", .separator, .placeholder "b" true] :=
    Token.isSpaced_pair nofun nofun (by simp)
  have hc := Anew.compile_eq_ofTokens (by decide) rfl ht
  exact h _ _ _ _ _ "x//" (by decide) rfl (by simp) ht hsp hc (by decide +kernel) ⟨['x'], [], rfl⟩

end CompiledTemplate

end PathTemplate
