import PathTemplate.Proofs.Compiling
/-!
# Placeholders made optional

A filling leaves a placeholder out only if that is optional. So a text that a template stands for is
not lost when a mandatory placeholder is made optional: the same filling still has the same text.
There is one exception. By the right orientation the separator after a placeholder that fills a
segment comes to belong to it, and a separator at the end that does so may be missing no longer.
-/

namespace PathTemplate

open Regex

namespace Token

/-- The tokens with an optional placeholder at a position. -/
def loosened (tokens : List Token) (i : Nat) (name : String) : List Token :=
  tokens.set i (.placeholder name true)

section Loosened

variable {tokens : List Token} {i : Nat} {name : String}
  (hi : tokens[i]? = some (.placeholder name false))
include hi

theorem getElem?_loosened_self : (loosened tokens i name)[i]? = some (.placeholder name true) :=
  List.getElem?_set_self (List.getElem?_eq_some_iff.1 hi).1

omit hi in
theorem getElem?_loosened_of_ne {j : Nat} (h : j ≠ i) :
    (loosened tokens i name)[j]? = tokens[j]? :=
  List.getElem?_set_ne h.symm

/-- Separators stay where they are. -/
theorem map_isSeparator_loosened (j : Nat) :
    (loosened tokens i name)[j]?.map isSeparator = tokens[j]?.map isSeparator := by
  by_cases h : j = i
  · subst h
    rw [getElem?_loosened_self hi, hi]
    rfl
  · rw [getElem?_loosened_of_ne h]

theorem getLast?_loosened_iff :
    (loosened tokens i name).getLast? = some .separator ↔ tokens.getLast? = some .separator := by
  have h := map_isSeparator_loosened hi (tokens.length - 1)
  have key : ∀ t : Option Token, t = some .separator ↔ t.map isSeparator = some true := by
    intro t
    rcases t with _ | _ | _ | _ <;> simp [isSeparator]
  rw [List.getLast?_eq_getElem?, List.getLast?_eq_getElem?, key, key, ← h, loosened,
    List.length_set]

theorem isSegment_loosened (j : Nat) :
    isSegment (loosened tokens i name) j = isSegment tokens j := by
  have h := map_isSeparator_loosened hi
  have hb : ∀ k : Nat, ((loosened tokens i name)[k]?).any isSeparator =
      (tokens[k]?).any isSeparator := by
    intro k
    simpa [Option.any_map] using congrArg (Option.any id) (h k)
  have ha : ∀ k : Nat, ((loosened tokens i name)[k]?).all isSeparator =
      (tokens[k]?).all isSeparator := by
    intro k
    simpa [Option.all_map] using congrArg (Option.all id) (h k)
  rw [isSegment, isSegment, hb, ha]

theorem isOptionalSegment_loosened_of_ne {j : Nat} (h : j ≠ i) :
    isOptionalSegment (loosened tokens i name) j = isOptionalSegment tokens j := by
  rw [isOptionalSegment, isOptionalSegment, isSegment_loosened hi, getElem?_loosened_of_ne h]

/-- A separator keeps its owner, or comes to belong to the placeholder that is made optional. -/
theorem owner?_loosened (capture : Orientation) (k : Nat) :
    owner? capture (loosened tokens i name) k = owner? capture tokens k ∨
      (owner? capture tokens k = none ∧ owner? capture (loosened tokens i name) k = some i ∧
        isSegment tokens i = true) := by
  have hn : isOptionalSegment tokens i = false := by simp [isOptionalSegment, hi, isOptional]
  have hs : isOptionalSegment (loosened tokens i name) i = isSegment tokens i := by
    simp [isOptionalSegment, getElem?_loosened_self hi, isOptional, isSegment_loosened hi]
  cases capture with
  | left =>
    by_cases h : k + 1 = i
    · subst h
      cases hg : isSegment tokens (k + 1) <;> simp [owner?, hn, hs, hg]
    · rw [owner?, owner?, isOptionalSegment_loosened_of_ne hi h]
      exact .inl rfl
  | right =>
    rcases k with _ | k
    · exact .inl rfl
    · by_cases h : k = i
      · subst h
        cases hg : isSegment tokens k <;> simp [owner?, hn, hs, hg]
      · rw [owner?, owner?, isOptionalSegment_loosened_of_ne hi h]
        exact .inl rfl

end Loosened

end Token

namespace Filling

variable {o : Options} {tokens : List Token} {f : Filling} {i : Nat} {name : String}

theorem fits_loosened (hi : tokens[i]? = some (.placeholder name false)) (hf : f.Fits o tokens) :
    f.Fits o (Token.loosened tokens i name) := by
  intro j t ht
  by_cases h : j = i
  · subst h
    rw [Token.getElem?_loosened_self hi] at ht
    cases ht
    have ha : o.Accepts false (f j) := hf j _ hi
    cases hc : f j with
    | none => exact rfl
    | some s => rwa [hc] at ha
  · rw [Token.getElem?_loosened_of_ne h] at ht
    exact hf j t ht

/-- A placeholder that is not left out takes no separator along, whether it is optional or not. -/
theorem text_loosened (hi : tokens[i]? = some (.placeholder name false)) (hf : f.Fits o tokens) :
    f.text o (Token.loosened tokens i name) = f.text o tokens := by
  have hs : (f i).isNone = false := by
    have ha : o.Accepts false (f i) := hf i _ hi
    cases hc : f i with
    | none => rw [hc] at ha; cases ha
    | some s => rfl
  have hb : ∀ k, f.isAbsorbed o (Token.loosened tokens i name) k = f.isAbsorbed o tokens k := by
    intro k
    rcases Token.owner?_loosened hi o.capture k with h | ⟨hn, hl, -⟩
    · rw [isAbsorbed, isAbsorbed, h]
    · simp [isAbsorbed, hn, hl, hs]
  refine congrArg String.join (List.ext_getElem? fun j => ?_)
  rw [List.getElem?_mapIdx, List.getElem?_mapIdx]
  by_cases h : j = i
  · subst h
    rw [Token.getElem?_loosened_self hi, hi]
    rfl
  · rw [Token.getElem?_loosened_of_ne h]
    refine congrArg (Option.map · _) (funext fun t => ?_)
    rw [textAt, textAt, hb]

/-- Where a placeholder is made optional, a filling still stands for its texts. Only a last
separator that comes to belong to the placeholder has to be there. -/
theorem Yields.loosened {c : String} (hi : tokens[i]? = some (.placeholder name false))
    (hf : f.Fits o tokens) (hy : f.Yields o tokens c) :
    f.Yields o (Token.loosened tokens i name) c ∨
      (o.capture = .right ∧ o.allowTrailingSeparator = true ∧ Token.isSegment tokens i = true ∧
        tokens.drop (i + 1) = [.separator] ∧
          f.Yields o (Token.loosened tokens i name) (c ++ String.singleton o.separator)) := by
  have ht := text_loosened hi hf
  have hl := Token.getLast?_loosened_iff hi
  rcases hy with _ | ⟨ha, hn⟩ | ⟨ha, hs, ho, hc⟩
  · exact .inl (ht ▸ .exact)
  · exact .inl (ht ▸ .extra ha fun h => hn (hl.1 h))
  · have hlen : (Token.loosened tokens i name).length = tokens.length := List.length_set
    rw [← ht] at hc
    rcases Token.owner?_loosened hi o.capture (tokens.length - 1) with h | ⟨-, h, hg⟩
    · exact .inl (.short ha (hl.2 hs) (by rw [hlen, h, ho]) hc)
    · have hlt := (List.getElem?_eq_some_iff.1 hi).1
      obtain ⟨-, ⟨-, hk⟩ | ⟨hr, hk⟩⟩ := Token.owner?_eq_some h
      · omega
      obtain ⟨ys, rfl⟩ := List.getLast?_eq_some_iff.1 hs
      have hd : (ys ++ [Token.separator]).drop (i + 1) = [.separator] := by
        refine List.drop_left' ?_
        simp only [List.length_append, List.length_singleton] at hk
        omega
      exact .inr ⟨hr, ha, hg, hd, hc ▸ .exact⟩

end Filling

namespace Token

theorem validName_of_mem_loosened {tokens : List Token} {i : Nat} {name : String}
    (hi : tokens[i]? = some (.placeholder name false))
    (hn : ∀ t ∈ tokens, ∀ name ∈ t.name?, validName name = true) :
    ∀ t ∈ loosened tokens i name, ∀ name ∈ t.name?, validName name = true := by
  intro t ht
  rcases List.mem_or_eq_of_mem_set ht with h | rfl
  · exact hn t h
  · exact hn (.placeholder name false) (List.mem_of_getElem? hi)

end Token

namespace Regex

variable {o : Options} {tokens : List Token} {i : Nat} {name : String}

/-- What is accepted stays so where a placeholder is made optional, with a single exception: where
the separator at the end comes to belong to that placeholder, it may have to be added. -/
theorem isMatch_loosened (ho : o.fault? = none) (hd : o.defaultExpression = none)
    (hs : ∀ c ∈ o.flags.toList, c ∈ ['s', 'u', 'U'])
    (hn : ∀ t ∈ tokens, ∀ name ∈ t.name?, Token.validName name = true)
    (hi : tokens[i]? = some (.placeholder name false)) :
    (∃ r', compile? { weight := none }
      (Source.ofTokens o [] (Token.loosened tokens i name)) = some r') ∧
    ∀ limits limits' r r', compile? limits (Source.ofTokens o [] tokens) = some r →
      compile? limits' (Source.ofTokens o [] (Token.loosened tokens i name)) = some r' →
      ∀ c, r.isMatch c = true → r'.isMatch c = true ∨
        (o.capture = .right ∧ o.allowTrailingSeparator = true ∧ Token.isSegment tokens i = true ∧
          tokens.drop (i + 1) = [.separator] ∧
            r'.isMatch (c ++ String.singleton o.separator) = true) := by
  have hn' := Token.validName_of_mem_loosened hi hn
  obtain ⟨hc, hm⟩ := Options.caseless_and_multiLine_of_flags hs
  refine ⟨Source.exists_compile? ho hd hn', ?_⟩
  intro limits limits' r r' hr hr' c h
  have hr := Source.tree_of_compile? ho hd hn hr
  have hr' := Source.tree_of_compile? ho hd hn' hr'
  obtain ⟨f, hf, hy⟩ := exists_yields_of_isMatch hr hc hm h
  have hf' := Filling.fits_loosened hi hf
  rcases hy.loosened hi hf with hy | ⟨hl, ha, hg, hd, hy⟩
  · exact .inl (isMatch_of_yields hr' hc hm hf' hy)
  · exact .inr ⟨hl, ha, hg, hd, isMatch_of_yields hr' hc hm hf' hy⟩

/-- In `a/{b}` the placeholder can be made optional. -/
theorem isMatch_loosened_tail :
    ∃ r r', compile? { weight := none } (Source.ofTokens { flags := "U" } []
        [.literal "a", .separator, .placeholder "b" false]) = some r ∧
      compile? { weight := none } (Source.ofTokens { flags := "U" } []
        [.literal "a", .separator, .placeholder "b" true]) = some r' ∧
      r.isMatch "a/x" = true ∧ ∀ c, r.isMatch c = true → r'.isMatch c = true := by
  have ho : ({ flags := "U" } : Options).fault? = none := by decide
  have hn : ∀ optional, ∀ t ∈ [Token.literal "a", .separator, .placeholder "b" optional],
      ∀ name ∈ t.name?, Token.validName name = true := by decide
  have hr (optional : Bool) : compile? { weight := none } _ = some _ :=
    Source.compile?_eq_some ho rfl (hn optional) (by decide) rfl
  refine ⟨_, _, hr false, hr true, by decide +kernel, fun c hc => ?_⟩
  have hl := (isMatch_loosened ho rfl (by simp) (hn false) (i := 2) rfl).2
  rcases hl _ _ _ _ (hr false) (hr true) c hc with h | ⟨h, -⟩
  · exact h
  · cases h

/-- By the right orientation `{a}/` accepts `x`, and `{a?}/` does not. -/
theorem isMatch_not_loosened :
    ¬ ∀ (o : Options) (tokens : List Token) (i : Nat) (name : String) (limits limits' : Limits)
      (r r' : Regex) (c : String), o.fault? = none → o.defaultExpression = none →
        (∀ c ∈ o.flags.toList, c ∈ ['s', 'u', 'U']) →
        (∀ t ∈ tokens, ∀ name ∈ t.name?, Token.validName name = true) →
        tokens[i]? = some (.placeholder name false) →
        compile? limits (Source.ofTokens o [] tokens) = some r →
        compile? limits' (Source.ofTokens o [] (Token.loosened tokens i name)) = some r' →
        r.isMatch c = true → r'.isMatch c = true := by
  intro h
  have hn : ∀ optional, ∀ t ∈ [Token.placeholder "a" optional, .separator],
      ∀ name ∈ t.name?, Token.validName name = true := by decide
  have ho : ({ capture := .right } : Options).fault? = none := by decide
  have hr (optional : Bool) : compile? { weight := none } _ = some _ :=
    Source.compile?_eq_some ho rfl (hn optional) (by decide) rfl
  have hx := h _ _ 0 "a" _ _ _ _ "x" ho rfl (by simp) (hn false) rfl (hr false) (hr true)
    (by decide +kernel)
  exact absurd hx (by decide +kernel)

end Regex

end PathTemplate
