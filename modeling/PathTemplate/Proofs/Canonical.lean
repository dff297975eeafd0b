import PathTemplate.Proofs.Spelling
import PathTemplate.Proofs.Strides
/-!
# Canonical tokens

Which lists of tokens a template can have, said by what is written for them and without the reader.
A token is read back as itself if it can stand right before what is written after it; for literal
text that is a question of the placeholders that are begun and given up in it. Where the markers
differ, templates are read as the canonical lists and no others, and each of these is what its own
template is read as (`ofTemplate_eq_ok_iff`).
-/

namespace PathTemplate

namespace Token

/-- An ASCII letter, followed by ASCII letters, digits and underscores. -/
def IsName (name : List Char) : Prop :=
  ∃ first rest, name = first :: rest ∧ first.isAlpha = true ∧
    ∀ c ∈ rest, c.isAlphanum = true ∨ c = '_'

/-- What literal text is made of when `rest` is written after it: single characters other than the
separator and the start marker, and placeholders that are given up. Such a one goes from a start
marker to the first optional marker, which some character other than the end marker comes after. -/
inductive IsText (o : Options) (rest : List Char) : List Char → Prop
  | nil : IsText o rest []
  | plain {c : Char} {text : List Char} (hs : c ≠ o.separator) (ho : c ≠ o.startMarker)
    (h : IsText o rest text) : IsText o rest (c :: text)
  | swallowed {name text : List Char} (hn : Lexer.GoesOn o name)
    (hc : ∃ c ∈ (text ++ rest).head?, c ≠ o.endMarker) (h : IsText o rest text) :
    IsText o rest (o.startMarker :: (name ++ o.optionalMarker :: text))

/-- Whether a token can stand right before others and be read back as itself. -/
def CanPrecede (o : Options) (after : List Token) : Token → Prop
  | literal text => text ≠ "" ∧ (∀ t ∈ after.head?, t.isLiteral = false) ∧
      IsText o (after.flatMap (chars o)) text.toList
  | separator => True
  | placeholder name _ => IsName name.toList ∧ o.endMarker ∉ name.toList ∧
      o.optionalMarker ∉ name.toList

/-- Tokens each of which can stand right before those after it. -/
def IsCanonical (o : Options) : List Token → Prop
  | [] => True
  | t :: after => CanPrecede o after t ∧ IsCanonical o after

variable {o : Options} {s : Lexer.State} {tokens : List Token} {w rest : List Char}

/-! ## Canonical tokens are read back -/

theorem validName_ofList_iff {name : List Char} :
    validName (String.ofList name) = true ↔ IsName name := by
  rw [validName_iff, String.toList_ofList, IsName]

theorem addText_of_not_isLiteral {done : List Token} (hw : w ≠ [])
    (hd : ∀ t ∈ done.head?, t.isLiteral = false) :
    addText w done = literal (String.ofList w) :: done := by
  rcases w with _ | ⟨c, w⟩
  · exact absurd rfl hw
  · rcases done with _ | ⟨t, done⟩
    · rfl
    · cases t with
      | literal before => exact absurd (hd _ rfl) nofun
      | _ => rfl

section Distinct

variable (hd : [o.startMarker, o.endMarker, o.separator, o.optionalMarker].Nodup)
include hd

/-- Literal text is added to what has been read, whatever comes after it. -/
theorem tokensFrom_text (h : IsText o rest w) : ∀ {s : Lexer.State}, s.mode = .text →
    ∃ s' : Lexer.State, s'.mode = .text ∧ s'.flushed = addText w s.flushed ∧
      Lexer.tokensFrom o s (w ++ rest) = Lexer.tokensFrom o s' rest := by
  have hne : o.startMarker ≠ o.separator := by simp_all
  induction h with
  | nil => exact fun {s} hm => ⟨s, hm, rfl, rfl⟩
  | @plain c text hs ho h ih =>
    intro s hm
    obtain ⟨s', hm', hf, ht⟩ := ih (s := ⟨s.done, s.mark, c :: s.run, .text⟩) rfl
    refine ⟨s', hm', ?_, ?_⟩
    · have hw : c :: text = [c] ++ text := rfl
      rw [hf, hw, addText_append]
      simp [Lexer.State.flushed, addText_append]
    · rw [List.cons_append, Lexer.tokensFrom_plain hm hs ho, ht]
  | @swallowed name text hn hc h ih =>
    intro s hm
    obtain ⟨c, hc, he⟩ := hc
    obtain ⟨more, hr⟩ := List.head?_eq_some_iff.1 hc
    obtain ⟨s', hm', hf, ht⟩ := ih (s := s.opened o (name ++ [o.optionalMarker]) .text) rfl
    refine ⟨s', hm', ?_, ?_⟩
    · have hw : o.startMarker :: (name ++ o.optionalMarker :: text) =
          (o.startMarker :: (name ++ [o.optionalMarker])) ++ text := by simp
      rw [hf, hw, addText_append]
      simp [Lexer.State.flushed, Lexer.State.opened]
    · rw [← ht, List.cons_append, List.append_assoc, List.cons_append, hr,
        Lexer.tokensFrom_swallowed hm hne hn he]

theorem tokensFrom_placeholder {name : String} (hn : IsName name.toList)
    (he : o.endMarker ∉ name.toList) (ho : o.optionalMarker ∉ name.toList) (optional : Bool)
    (hm : s.mode = .text) : ∃ s' : Lexer.State, s'.mode = .text ∧
      s'.flushed = placeholder name optional :: s.flushed ∧
        Lexer.tokensFrom o s (chars o (placeholder name optional) ++ rest) =
          Lexer.tokensFrom o s' rest := by
  have hne : o.startMarker ≠ o.separator := by simp_all
  have heo : o.endMarker ≠ o.optionalMarker := by simp_all
  have hg : Lexer.GoesOn o name.toList :=
    fun c hc => ⟨fun h => ho (h ▸ hc), fun h => he (h ▸ hc)⟩
  have hv : validName (String.ofList name.toList) = true := validName_ofList_iff.2 hn
  have hf : ∀ {text mode},
      ((s.opened o text mode).closed name.toList optional o.endMarker).flushed =
        placeholder name optional :: s.flushed := by
    simp [Lexer.State.flushed, Lexer.State.closed, Lexer.State.opened, addText_nil]
  cases optional with
  | false =>
    refine ⟨(s.opened o name.toList .placeholder).closed name.toList false o.endMarker, rfl, hf, ?_⟩
    rw [chars, List.cons_append, List.append_assoc, List.singleton_append,
      Lexer.tokensFrom_mandatory hm hne hg heo, Lexer.close_of_validName hv]
    rfl
  | true =>
    refine ⟨(s.opened o (name.toList ++ [o.optionalMarker]) .marked).closed name.toList true
      o.endMarker, rfl, hf, ?_⟩
    rw [chars, List.cons_append, List.append_assoc, List.cons_append, List.singleton_append,
      Lexer.tokensFrom_optional hm hne hg, Lexer.close_of_validName hv]
    rfl

/-- Canonical tokens are read back, after the tokens that have been read before. -/
theorem tokensFrom_of_isCanonical (h : IsCanonical o tokens) : ∀ {s : Lexer.State},
    s.mode = .text → (∀ t ∈ tokens.head?, ∀ u ∈ s.flushed.head?,
      (t.isLiteral && u.isLiteral) = false) →
        Lexer.tokensFrom o s (tokens.flatMap (chars o)) = .ok (s.flushed.reverse ++ tokens) := by
  induction tokens with
  | nil =>
    intro s hm _
    rw [List.append_nil]
    exact Lexer.tokensFrom_nil hm
  | cons t tokens ih =>
    obtain ⟨ht, h⟩ := h
    intro s hm hl
    -- Each token leads to a state that has it as the latest one.
    suffices hs : ∃ s' : Lexer.State, s'.mode = .text ∧ s'.flushed = t :: s.flushed ∧
        Lexer.tokensFrom o s (chars o t ++ tokens.flatMap (chars o)) =
          Lexer.tokensFrom o s' (tokens.flatMap (chars o)) by
      obtain ⟨s', hm', hf, he⟩ := hs
      rw [List.flatMap_cons, he, ih h hm', hf]
      · simp
      · intro u hu v hv
        rw [hf] at hv
        cases hv
        cases t with
        | literal text => simp [ht.2.1 u hu]
        | _ => simp [isLiteral]
    cases t with
    | literal text =>
      obtain ⟨s', hm', hf, he⟩ := tokensFrom_text hd ht.2.2 hm
      refine ⟨s', hm', ?_, he⟩
      rw [hf, addText_of_not_isLiteral (by simpa using ht.1), String.ofList_toList]
      simpa [isLiteral] using hl
    | separator => exact ⟨_, rfl, rfl, Lexer.tokensFrom_separator hm⟩
    | placeholder name optional => exact tokensFrom_placeholder hd ht.1 ht.2.1 ht.2.2 optional hm

end Distinct

/-! ## What is read is canonical -/

theorem IsText.append {v : List Char} (hw : IsText o (v ++ rest) w) (hv : IsText o rest v) :
    IsText o rest (w ++ v) := by
  induction hw with
  | nil => exact hv
  | plain hs ho _ ih => exact .plain hs ho ih
  | swallowed hn hc _ ih =>
    rw [List.cons_append, List.append_assoc, List.cons_append]
    exact .swallowed hn (by rwa [List.append_assoc]) ih

/-- Text before canonical tokens is joined to the text that they begin with. -/
theorem IsCanonical.exists_text (h : IsCanonical o tokens)
    (hw : IsText o (tokens.flatMap (chars o)) w) (hne : w ≠ []) :
    ∃ tokens', IsCanonical o tokens' ∧
      tokens'.flatMap (chars o) = w ++ tokens.flatMap (chars o) := by
  have hw' : String.ofList w ≠ "" := by simpa using hne
  by_cases hl : ∃ text after, tokens = literal text :: after
  · obtain ⟨text, after, rfl⟩ := hl
    obtain ⟨⟨-, ha, ht⟩, h⟩ := h
    refine ⟨literal (String.ofList w ++ text) :: after, ⟨⟨by simp [hne], ha, ?_⟩, h⟩, ?_⟩
    · rw [String.toList_append, String.toList_ofList]
      exact IsText.append hw ht
    · simp [chars]
  · refine ⟨literal (String.ofList w) :: tokens, ⟨⟨hw', ?_, ?_⟩, h⟩, ?_⟩
    · intro t ht
      cases t with
      | literal text =>
        obtain ⟨after, rfl⟩ := List.head?_eq_some_iff.1 ht
        exact absurd ⟨text, after, rfl⟩ hl
      | _ => rfl
    · rwa [String.toList_ofList]
    · simp [chars]

theorem canPrecede_placeholder {name : List Char} (hn : Lexer.GoesOn o name)
    (hv : validName (String.ofList name) = true) (optional : Bool) (after : List Token) :
    CanPrecede o after (placeholder (String.ofList name) optional) := by
  rw [CanPrecede, String.toList_ofList]
  exact ⟨validName_ofList_iff.1 hv, fun h => (hn _ h).2 rfl, fun h => (hn _ h).1 rfl⟩

section Distinct

variable (hd : [o.startMarker, o.endMarker, o.separator, o.optionalMarker].Nodup)
include hd

/-- Where a template is read without an error, a placeholder that is begun is closed under a valid
name, or given up before a character that is read as text. -/
theorem exists_placeholder_or_swallowed {read : List Token} {text : List Char}
    (hm : s.mode = .text) (h : Lexer.tokensFrom o s (o.startMarker :: text) = .ok read) :
    ∃ (name rest : List Char) (s' : Lexer.State), Lexer.GoesOn o name ∧ s'.mode = .text ∧
      Lexer.tokensFrom o s' rest = .ok read ∧
        ((validName (String.ofList name) = true ∧ ∃ optional, o.startMarker :: text =
            chars o (placeholder (String.ofList name) optional) ++ rest) ∨
          ((∃ c ∈ rest.head?, c ≠ o.endMarker) ∧
            text = name ++ o.optionalMarker :: rest)) := by
  have hne : o.startMarker ≠ o.separator := by simp_all
  have heo : o.endMarker ≠ o.optionalMarker := by simp_all
  obtain ⟨name, rest, hn, rfl, hr⟩ := Lexer.exists_goesOn o text
  rcases rest with _ | ⟨c, rest⟩
  · rw [List.append_nil, Lexer.tokensFrom_unclosed hm hne hn] at h
    cases h
  rcases hr c rfl with rfl | rfl
  · rcases rest with _ | ⟨d, rest⟩
    · rw [Lexer.tokensFrom_unclosed_marked hm hne hn] at h
      cases h
    by_cases hd : d = o.endMarker
    · subst hd
      rw [Lexer.tokensFrom_optional hm hne hn, Lexer.bind_close_eq_ok_iff] at h
      exact ⟨name, rest, _, hn, rfl, h.2, .inl ⟨h.1, true, by simp [chars]⟩⟩
    · rw [Lexer.tokensFrom_swallowed hm hne hn hd] at h
      exact ⟨name, _, _, hn, rfl, h, .inr ⟨⟨d, rfl, hd⟩, rfl⟩⟩
  · rw [Lexer.tokensFrom_mandatory hm hne hn heo, Lexer.bind_close_eq_ok_iff] at h
    exact ⟨name, rest, _, hn, rfl, h.2, .inl ⟨h.1, false, by simp [chars]⟩⟩

/-- What is read without an error has been written for canonical tokens. The induction is on the
length of what is left to read, stride by stride. -/
theorem exists_isCanonical {read : List Token} : ∀ {text : List Char} {s : Lexer.State},
    s.mode = .text → Lexer.tokensFrom o s text = .ok read →
      ∃ tokens, IsCanonical o tokens ∧ tokens.flatMap (chars o) = text := by
  intro text
  induction hl : text.length using Nat.strong_induction_on generalizing text with
  | _ n ih =>
  intro s hm h
  subst hl
  rcases text with _ | ⟨c, text⟩
  · exact ⟨[], trivial, rfl⟩
  by_cases hs : c = o.separator
  · subst hs
    rw [Lexer.tokensFrom_separator hm] at h
    obtain ⟨tokens, ht, rfl⟩ := ih _ (by simp) rfl rfl h
    exact ⟨separator :: tokens, ⟨trivial, ht⟩, rfl⟩
  by_cases hc : c = o.startMarker
  · subst hc
    obtain ⟨name, rest, s', hn, hm', h', ⟨hv, optional, hr⟩ | ⟨he, rfl⟩⟩ :=
      exists_placeholder_or_swallowed hd hm h
    · obtain ⟨tokens, ht, rfl⟩ := ih rest.length (by cases optional <;> simp [hr, chars] <;> omega)
        rfl hm' h'
      exact ⟨placeholder (String.ofList name) optional :: tokens,
        ⟨canPrecede_placeholder hn hv optional tokens, ht⟩, hr.symm⟩
    · obtain ⟨tokens, ht, rfl⟩ := ih rest.length (by simp; omega) rfl hm' h'
      have hw : IsText o (tokens.flatMap (chars o))
          (o.startMarker :: (name ++ [o.optionalMarker])) := .swallowed hn he .nil
      obtain ⟨tokens', ht', hc'⟩ := ht.exists_text hw (List.cons_ne_nil _ _)
      exact ⟨tokens', ht', by simp [hc']⟩
  · rw [Lexer.tokensFrom_plain hm hs hc] at h
    obtain ⟨tokens, ht, rfl⟩ := ih _ (by simp) rfl rfl h
    exact ht.exists_text (w := [c]) (.plain hs hc .nil) (List.cons_ne_nil _ _)

/-! ## The grammar of templates -/

/-- Where the markers differ, tokens are those of a template exactly if they are canonical and the
template is what is written for them. -/
theorem ofTemplate_eq_ok_iff {template : String} :
    ofTemplate o template = .ok tokens ↔ IsCanonical o tokens ∧ toTemplate o tokens = template := by
  have key {tokens : List Token} (h : IsCanonical o tokens) :
      ofTemplate o (toTemplate o tokens) = .ok tokens := by
    rw [Lexer.ofTemplate_eq_tokensFrom, toTemplate, String.toList_ofList,
      tokensFrom_of_isCanonical hd h rfl]
    · rfl
    · rintro _ _ _ ⟨⟩
  constructor
  · intro h
    obtain ⟨tokens', ht, hc⟩ := exists_isCanonical hd (s := {}) rfl h
    have hw : toTemplate o tokens' = template := by rw [toTemplate, hc, String.ofList_toList]
    have he := key ht
    rw [hw, h] at he
    cases he
    exact ⟨ht, hw⟩
  · rintro ⟨ht, rfl⟩
    exact key ht

end Distinct

/-- Options whose markers are letters and the underscore, which names are made of. -/
def lettered : Options where
  startMarker := 'a'
  endMarker := 'z'
  separator := 'x'
  optionalMarker := '_'

/-- A separator can stand in a name and in a placeholder that is given up, and it can be the start
of the next token that a placeholder is given up for. -/
theorem ofTemplate_eq_ok_iff_lettered :
    ofTemplate lettered "aaxzxqaxb_aq_z" =
        .ok [placeholder "ax" false, separator, literal "qaxb_", placeholder "q" true] ∧
      IsCanonical lettered
        [placeholder "ax" false, separator, literal "qaxb_", placeholder "q" true] := by
  have h : ofTemplate lettered "aaxzxqaxb_aq_z" =
      .ok [placeholder "ax" false, separator, literal "qaxb_", placeholder "q" true] := by rfl
  exact ⟨h, ((ofTemplate_eq_ok_iff (by decide)).1 h).1⟩

end Token

end PathTemplate
