import PathTemplate.Proofs.Canonical
/-!
# Faults of templates

Which error a template has, and where. A reader stops at the first character that it cannot go on
with, and every error of a template is about the placeholder that is open there. So what holds of
the errors follows from one fact about the states of the reader: where it is inside a placeholder,
it knows where that placeholder was opened, and that nothing before is at fault
(`State.IsAfter`, `ofTemplate_eq_error_iff`).
-/

namespace PathTemplate

namespace Lexer

variable {o : Options} {s s' : State} {c : Char} {e : TemplateError} {text rest : List Char}

/-! ## Offsets -/

/-- The bytes of a text are those of its characters. -/
theorem byteLength_ofList (text : List Char) :
    (String.ofList text).utf8ByteSize = byteLength text := by
  induction text with
  | nil => rfl
  | cons c text ih =>
    have hs : String.ofList (c :: text) = String.singleton c ++ String.ofList text := by
      rw [String.singleton_eq_ofList, ← String.ofList_append, List.singleton_append]
    rw [hs, String.utf8ByteSize_append, String.utf8ByteSize_singleton, ih, byteLength]

theorem byteLength_toList (text : String) : byteLength text.toList = text.utf8ByteSize := by
  rw [← byteLength_ofList, String.ofList_toList]

theorem position_close {name : List Char} {optional : Bool}
    (h : s.close name optional c = .ok s') : s'.position = s.position + c.utf8Size := by
  unfold State.close at h
  split at h
  · cases h
    rfl
  · cases h

theorem position_readText (o : Options) (s : State) (c : Char) :
    (s.readText o c).position = s.position + c.utf8Size := by
  unfold State.readText
  split
  · rfl
  · split
    · rfl
    · simp [State.position, byteLength]
      omega

/-- Every character that is read moves the reader on by its own bytes. -/
theorem position_read (h : s.read o c = .ok s') : s'.position = s.position + c.utf8Size := by
  unfold State.read at h
  split at h
  · cases h
    exact position_readText o s c
  · split at h
    · cases h
      simp [State.position, byteLength]
      omega
    · split at h
      · exact position_close h
      · cases h
        simp [State.position, byteLength]
        omega
  · split at h
    · exact position_close h
    · cases h
      exact position_readText o s c

/-! ## Texts in parts -/

theorem readAll_append (o : Options) (s : State) (a b : List Char) :
    readAll o s (a ++ b) = (readAll o s a).bind (readAll o · b) :=
  List.foldlM_append

theorem readAll_cons (o : Options) (s : State) (c : Char) (rest : List Char) :
    readAll o s (c :: rest) = (s.read o c).bind (readAll o · rest) :=
  List.foldlM_cons

theorem readAll_concat_eq_ok_iff : readAll o s (text ++ [c]) = .ok s' ↔
    ∃ s₁, readAll o s text = .ok s₁ ∧ s₁.read o c = .ok s' := by
  rw [readAll_append]
  cases readAll o s text with
  | error e => simp [Except.bind]
  | ok s₁ =>
    simp only [Except.bind, readAll_cons, Except.ok.injEq, exists_eq_left']
    cases s₁.read o c with
    | error e => simp
    | ok s₂ => simp [readAll, pure, Except.pure]

/-- Once a part has been read, what is after it is read from there. -/
theorem tokensFrom_append (h : readAll o s text = .ok s') (rest : List Char) :
    tokensFrom o s (text ++ rest) = tokensFrom o s' rest := by
  rw [tokensFrom, readAll_append, h]
  rfl

/-- The offset of the reader is the number of bytes that it has read. -/
theorem position_readAll : ∀ {s : State}, readAll o s text = .ok s' →
    s'.position = s.position + byteLength text := by
  induction text with
  | nil =>
    intro s h
    cases h
    rfl
  | cons c text ih =>
    intro s h
    rw [readAll_cons] at h
    cases hr : s.read o c with
    | error e => rw [hr] at h; cases h
    | ok s₁ =>
      rw [hr] at h
      rw [ih h, position_read hr, byteLength, Nat.add_assoc]

/-- A text cannot be read exactly if there is a first character that cannot. -/
theorem readAll_eq_error_iff : readAll o s text = .error e ↔ ∃ pre c rest s',
    text = pre ++ c :: rest ∧ readAll o s pre = .ok s' ∧ s'.read o c = .error e := by
  constructor
  · induction text generalizing s with
    | nil => rintro ⟨⟩
    | cons c text ih =>
      intro h
      rw [readAll_cons] at h
      cases hr : s.read o c with
      | error e' =>
        rw [hr] at h
        cases h
        exact ⟨[], c, text, s, rfl, rfl, hr⟩
      | ok s₁ =>
        rw [hr] at h
        obtain ⟨pre, d, rest, s', rfl, hp, he⟩ := ih h
        refine ⟨c :: pre, d, rest, s', rfl, ?_, he⟩
        rw [readAll_cons, hr]
        exact hp
  · rintro ⟨pre, c, rest, s', rfl, hp, he⟩
    rw [readAll_append, hp, Except.bind, readAll_cons, he]
    rfl

/-! ## Where a placeholder is open -/

/-- What the reader knows of a placeholder that is open after a text, with what has been read of it
behind its start marker: none was open before that marker, and the mark is the marker's offset. -/
def Opens (o : Options) (text : List Char) (s : State) (body : List Char) : Prop :=
  ∃ pre s₀, text = pre ++ o.startMarker :: body ∧ readAll o {} pre = .ok s₀ ∧
    s₀.mode ≠ .placeholder ∧ s.mark = s₀.position ∧ s.run = body.reverse ++ [o.startMarker]

/-- What holds of the state after a text. -/
structure State.IsAfter (o : Options) (text : List Char) (s : State) : Prop where
  placeholder : s.mode = .placeholder → ∃ name, GoesOn o name ∧ Opens o text s name
  marked : s.mode = .marked → ∃ name, GoesOn o name ∧ Opens o text s (name ++ [o.optionalMarker])

theorem Opens.concat {body : List Char} {mode : Mode} (h : Opens o text s body) (c : Char) :
    Opens o (text ++ [c]) ⟨s.done, s.mark, c :: s.run, mode⟩ (body ++ [c]) := by
  obtain ⟨pre, s₀, rfl, hp, hm, hk, hr⟩ := h
  refine ⟨pre, s₀, by simp, hp, hm, hk, ?_⟩
  simp [hr]

theorem State.isAfter_of_text (hm : s.mode = .text) : s.IsAfter o text :=
  ⟨by simp [hm], by simp [hm]⟩

/-- A character that is read as text opens a placeholder, or there is none. -/
theorem State.isAfter_readText (hr : readAll o {} text = .ok s) (hm : s.mode ≠ .placeholder)
    (c : Char) : (s.readText o c).IsAfter o (text ++ [c]) := by
  unfold State.readText
  split
  · exact State.isAfter_of_text rfl
  · split
    · next hc =>
      refine ⟨fun _ => ⟨[], by simp [GoesOn], text, s, by rw [hc], hr, hm, rfl, by simp [hc]⟩, ?_⟩
      simp
    · exact State.isAfter_of_text rfl

theorem State.isAfter_close {name : List Char} {optional : Bool}
    (h : s.close name optional c = .ok s') : s'.IsAfter o text := by
  unfold State.close at h
  split at h
  · cases h
    exact State.isAfter_of_text rfl
  · cases h

/-- Reading a character keeps what holds. -/
theorem State.IsAfter.read (h : s.IsAfter o text) (hr : readAll o {} text = .ok s)
    (hs : s.read o c = .ok s') : s'.IsAfter o (text ++ [c]) := by
  unfold State.read at hs
  split at hs
  · next hm =>
    cases hs
    exact State.isAfter_readText hr (by simp [hm]) c
  · next hm =>
    obtain ⟨name, hn, hp⟩ := h.placeholder hm
    split at hs
    · next hc =>
      cases hs
      refine ⟨by simp, fun _ => ⟨name, hn, ?_⟩⟩
      rw [← hc]
      exact hp.concat c
    · split at hs
      · exact State.isAfter_close hs
      · next hc he =>
        cases hs
        refine ⟨fun _ => ⟨name ++ [c], ?_, hp.concat c⟩, by simp [hm]⟩
        intro d hd
        rcases List.mem_append.1 hd with hd | hd
        · exact hn d hd
        · rw [List.mem_singleton.1 hd]
          exact ⟨hc, he⟩
  · next hm =>
    split at hs
    · exact State.isAfter_close hs
    · cases hs
      exact State.isAfter_readText hr (by simp [hm]) c

/-- What holds after every text that can be read. -/
theorem State.isAfter_readAll : ∀ {s : State}, readAll o {} text = .ok s → s.IsAfter o text := by
  induction text using List.reverseRecOn with
  | nil =>
    intro s h
    cases h
    exact State.isAfter_of_text rfl
  | append_singleton text c ih =>
    intro s h
    obtain ⟨s₁, hr, hs⟩ := readAll_concat_eq_ok_iff.1 h
    exact (ih hr).read hr hs

/-- A character cannot be read only if it closes a placeholder whose name is not a valid one. -/
theorem read_eq_error (h : s.read o c = .error e) : c = o.endMarker ∧
    ((s.mode = .placeholder ∧ s.close (s.run.reverse.drop 1) false c = .error e) ∨
      (s.mode = .marked ∧ s.close ((s.run.drop 1).reverse.drop 1) true c = .error e)) := by
  unfold State.read at h
  split at h
  · cases h
  · next hm =>
    split at h
    · cases h
    · split at h
      · next hc => exact ⟨hc, .inl ⟨hm, h⟩⟩
      · cases h
  · next hm =>
    split at h
    · next hc => exact ⟨hc, .inr ⟨hm, h⟩⟩
    · cases h

theorem close_eq_error_iff {name : List Char} {optional : Bool} :
    s.close name optional c = .error e ↔
      ¬ Token.IsName name ∧ e = .invalidName (String.ofList name) s.mark := by
  rw [← Token.validName_ofList_iff]
  unfold State.close
  by_cases hv : Token.validName (String.ofList name) = true <;> simp [hv, eq_comm]

theorem goesOn_iff {name : List Char} :
    GoesOn o name ↔ o.optionalMarker ∉ name ∧ o.endMarker ∉ name := by
  constructor
  · intro h
    exact ⟨fun ho => (h _ ho).1 rfl, fun he => (h _ he).2 rfl⟩
  · rintro ⟨ho, he⟩ c hc
    exact ⟨fun h => ho (h ▸ hc), fun h => he (h ▸ hc)⟩

end Lexer

namespace Token

/-- Whether a template can go on with a separator after a text: what is before can be read, and no
placeholder is open. -/
def IsSettled (o : Options) (pre : String) : Prop :=
  ∃ tokens, ofTemplate o (pre ++ String.singleton o.separator) = .ok tokens

variable {o : Options} {template pre : String} {e : TemplateError}

section Distinct

variable (hd : [o.startMarker, o.endMarker, o.separator, o.optionalMarker].Nodup)
include hd

theorem isSettled_iff : IsSettled o pre ↔
    ∃ s, Lexer.readAll o {} pre.toList = .ok s ∧ s.mode ≠ .placeholder := by
  have he : o.separator ≠ o.endMarker := by simp_all [eq_comm]
  have hs : o.separator ≠ o.optionalMarker := by simp_all
  unfold IsSettled
  rw [Lexer.ofTemplate_eq_tokensFrom, String.toList_append, String.toList_singleton]
  cases hr : Lexer.readAll o {} pre.toList with
  | error e => simp [Lexer.tokensFrom, Lexer.readAll_append, hr, Except.bind]
  | ok s =>
    simp only [Lexer.tokensFrom_append hr, Except.ok.injEq, exists_eq_left']
    cases hm : s.mode with
    | text => simp [Lexer.tokensFrom_separator hm, Lexer.tokensFrom_nil]
    | marked =>
      simp [Lexer.tokensFrom_marked hm he, Lexer.tokensFrom_separator, Lexer.tokensFrom_nil]
    | placeholder =>
      -- The separator is part of the name, and the placeholder is still open.
      have hg : Lexer.GoesOn o [o.separator] := by simpa [Lexer.GoesOn] using ⟨hs, he⟩
      have hn : Lexer.tokensFrom o s ([o.separator] ++ []) = _ := Lexer.tokensFrom_name hm hg
      rw [List.append_nil, Lexer.tokensFrom_nil_of_ne (by simp)] at hn
      simp [hn]

/-- Where no placeholder is open, a start marker is read as one, and it is where it is written. -/
theorem exists_tokensFrom_of_isSettled (h : IsSettled o pre) : ∃ s : Lexer.State,
    s.mode = .text ∧ s.position = pre.utf8ByteSize ∧ ∀ rest,
      Lexer.tokensFrom o {} (pre.toList ++ o.startMarker :: rest) =
        Lexer.tokensFrom o s (o.startMarker :: rest) := by
  have hne : o.startMarker ≠ o.endMarker := by simp_all
  obtain ⟨s, hr, hm⟩ := (isSettled_iff hd).1 h
  refine ⟨⟨s.done, s.mark, s.run, .text⟩, rfl, ?_, fun rest => ?_⟩
  · have hp := Lexer.position_readAll hr
    rw [Lexer.byteLength_toList] at hp
    simpa [Lexer.State.position, Lexer.byteLength] using hp
  · rw [Lexer.tokensFrom_append hr]
    cases hs : s.mode with
    | text => rw [← hs]
    | marked => exact Lexer.tokensFrom_marked hs hne
    | placeholder => exact absurd hs hm

/-- What a placeholder that is open says about the text before it. -/
theorem exists_isSettled_of_opens {text body : List Char} {s : Lexer.State}
    (h : Lexer.Opens o text s body) : ∃ pre : String, IsSettled o pre ∧
      s.mark = pre.utf8ByteSize ∧ s.run = body.reverse ++ [o.startMarker] ∧
        text = pre.toList ++ o.startMarker :: body := by
  obtain ⟨pre, s₀, rfl, hr, hm, hk, hb⟩ := h
  refine ⟨String.ofList pre, (isSettled_iff hd).2 ⟨s₀, ?_, hm⟩, ?_, hb, ?_⟩
  · rw [String.toList_ofList, hr]
  · rw [hk, Lexer.position_readAll hr, Lexer.byteLength_ofList]
    exact Nat.zero_add _
  · rw [String.toList_ofList]

/-- Every error is about a placeholder that is opened where none is open: it is not closed, or its
name is not a valid one. -/
theorem exists_of_ofTemplate_eq_error (h : ofTemplate o template = .error e) :
    ∃ (pre : String) (name : List Char), IsSettled o pre ∧ Lexer.GoesOn o name ∧
      ((e = .unterminated pre.utf8ByteSize ∧
          (template.toList = pre.toList ++ o.startMarker :: name ∨
            template.toList = pre.toList ++ o.startMarker :: (name ++ [o.optionalMarker]))) ∨
        (e = .invalidName (String.ofList name) pre.utf8ByteSize ∧ ¬ IsName name ∧ ∃ rest,
          (template.toList = pre.toList ++ o.startMarker :: (name ++ o.endMarker :: rest) ∨
            template.toList = pre.toList ++
              o.startMarker :: (name ++ o.optionalMarker :: o.endMarker :: rest)))) := by
  rw [Lexer.ofTemplate_eq_tokensFrom, Lexer.tokensFrom] at h
  cases hr : Lexer.readAll o {} template.toList with
  | ok s =>
    rw [hr] at h
    have hf : s.finish = .error e := h
    have ha := Lexer.State.isAfter_readAll hr
    unfold Lexer.State.finish at hf
    cases hm : s.mode with
    | text => simp [hm] at hf
    | placeholder =>
      obtain ⟨name, hn, hp⟩ := ha.placeholder hm
      obtain ⟨pre, hs, hk, -, ht⟩ := exists_isSettled_of_opens hd hp
      refine ⟨pre, name, hs, hn, .inl ⟨?_, .inl ht⟩⟩
      simpa [hm, hk, eq_comm] using hf
    | marked =>
      obtain ⟨name, hn, hp⟩ := ha.marked hm
      obtain ⟨pre, hs, hk, -, ht⟩ := exists_isSettled_of_opens hd hp
      refine ⟨pre, name, hs, hn, .inl ⟨?_, .inr ht⟩⟩
      simpa [hm, hk, eq_comm] using hf
  | error e' =>
    rw [hr] at h
    cases h
    obtain ⟨text, c, rest, s, ht, hr, he⟩ := Lexer.readAll_eq_error_iff.1 hr
    have ha := Lexer.State.isAfter_readAll hr
    obtain ⟨rfl, ⟨hm, hc⟩ | ⟨hm, hc⟩⟩ := Lexer.read_eq_error he
    · obtain ⟨name, hn, hp⟩ := ha.placeholder hm
      obtain ⟨pre, hs, hk, hb, hw⟩ := exists_isSettled_of_opens hd hp
      have hname : s.run.reverse.drop 1 = name := by simp [hb]
      rw [hname, Lexer.close_eq_error_iff, hk] at hc
      exact ⟨pre, name, hs, hn, .inr ⟨hc.2, hc.1, rest, .inl (by simp [ht, hw])⟩⟩
    · obtain ⟨name, hn, hp⟩ := ha.marked hm
      obtain ⟨pre, hs, hk, hb, hw⟩ := exists_isSettled_of_opens hd hp
      have hname : (s.run.drop 1).reverse.drop 1 = name := by simp [hb]
      rw [hname, Lexer.close_eq_error_iff, hk] at hc
      exact ⟨pre, name, hs, hn, .inr ⟨hc.2, hc.1, rest, .inr (by simp [ht, hw])⟩⟩

theorem ofTemplate_of_unclosed {name : List Char} (h : IsSettled o pre) (hn : Lexer.GoesOn o name)
    (ht : template.toList = pre.toList ++ o.startMarker :: name ∨
      template.toList = pre.toList ++ o.startMarker :: (name ++ [o.optionalMarker])) :
    ofTemplate o template = .error (.unterminated pre.utf8ByteSize) := by
  have hne : o.startMarker ≠ o.separator := by simp_all
  obtain ⟨s, hm, hp, hs⟩ := exists_tokensFrom_of_isSettled hd h
  rw [Lexer.ofTemplate_eq_tokensFrom, ← hp]
  rcases ht with ht | ht
  · rw [ht, hs, Lexer.tokensFrom_unclosed hm hne hn]
  · rw [ht, hs, Lexer.tokensFrom_unclosed_marked hm hne hn]

theorem ofTemplate_of_not_isName {name : List Char} (h : IsSettled o pre)
    (hn : Lexer.GoesOn o name) (hv : ¬ IsName name) (rest : List Char)
    (ht : template.toList = pre.toList ++ o.startMarker :: (name ++ o.endMarker :: rest) ∨
      template.toList =
        pre.toList ++ o.startMarker :: (name ++ o.optionalMarker :: o.endMarker :: rest)) :
    ofTemplate o template =
      .error (.invalidName (String.ofList name) pre.utf8ByteSize) := by
  have hne : o.startMarker ≠ o.separator := by simp_all
  have heo : o.endMarker ≠ o.optionalMarker := by simp_all
  obtain ⟨s, hm, hp, hs⟩ := exists_tokensFrom_of_isSettled hd h
  rw [Lexer.ofTemplate_eq_tokensFrom, ← hp]
  rcases ht with ht | ht
  · rw [ht, hs, Lexer.tokensFrom_mandatory hm hne hn heo, Lexer.close_eq_error_iff.2 ⟨hv, rfl⟩]
    rfl
  · rw [ht, hs, Lexer.tokensFrom_optional hm hne hn, Lexer.close_eq_error_iff.2 ⟨hv, rfl⟩]
    rfl

/-- The errors of templates whose markers differ. A template is unterminated at an offset exactly
if a placeholder is opened there, where none is open, and the rest of the template does not close
it or give it up. It has an invalid name exactly if a placeholder is opened at the offset, where
none is open, and closed under that name. -/
theorem ofTemplate_eq_error_iff (template : String) :
    (∀ position, ofTemplate o template = .error (.unterminated position) ↔
      ∃ pre w : String, IsSettled o pre ∧ position = pre.utf8ByteSize ∧
        o.optionalMarker ∉ w.toList ∧ o.endMarker ∉ w.toList ∧
          (template = pre ++ String.singleton o.startMarker ++ w ∨
            template = pre ++ String.singleton o.startMarker ++ w ++
              String.singleton o.optionalMarker)) ∧
      ∀ name position, ofTemplate o template = .error (.invalidName name position) ↔
        ∃ pre rest : String, IsSettled o pre ∧ position = pre.utf8ByteSize ∧
          o.optionalMarker ∉ name.toList ∧ o.endMarker ∉ name.toList ∧ ¬ IsName name.toList ∧
            (template = pre ++ String.singleton o.startMarker ++ name ++
                String.singleton o.endMarker ++ rest ∨
              template = pre ++ String.singleton o.startMarker ++ name ++
                String.singleton o.optionalMarker ++ String.singleton o.endMarker ++ rest) := by
  refine ⟨fun position => ⟨fun h => ?_, ?_⟩, fun name position => ⟨fun h => ?_, ?_⟩⟩
  · obtain ⟨pre, w, hs, hn, ⟨he, ht⟩ | ⟨he, -⟩⟩ := exists_of_ofTemplate_eq_error hd h
    · cases he
      refine ⟨pre, String.ofList w, hs, rfl, ?_⟩
      rw [Lexer.goesOn_iff] at hn
      simpa [← String.toList_inj, and_assoc] using ⟨hn.1, hn.2, ht⟩
    · cases he
  · rintro ⟨pre, w, hs, rfl, ho, hc, ht⟩
    apply ofTemplate_of_unclosed hd hs (Lexer.goesOn_iff.2 ⟨ho, hc⟩)
    simpa [← String.toList_inj] using ht
  · obtain ⟨pre, w, hs, hn, ⟨he, -⟩ | ⟨he, hv, rest, ht⟩⟩ := exists_of_ofTemplate_eq_error hd h
    · cases he
    · cases he
      refine ⟨pre, String.ofList rest, hs, rfl, ?_⟩
      rw [Lexer.goesOn_iff] at hn
      simpa [← String.toList_inj, and_assoc] using ⟨hn.1, hn.2, hv, ht⟩
  · rintro ⟨pre, rest, hs, rfl, ho, hc, hv, ht⟩
    rw [← String.ofList_toList (s := name)]
    apply ofTemplate_of_not_isName hd hs (Lexer.goesOn_iff.2 ⟨ho, hc⟩) hv rest.toList
    simpa [← String.toList_inj] using ht

end Distinct

/-- Options under which placeholders are questions. Two of the markers take two bytes. -/
def questions : Options where
  startMarker := '¿'
  endMarker := '?'
  optionalMarker := '¡'

/-- The offset counts bytes: seven characters of eleven bytes are before the placeholder. The
one that is given up there is no error. -/
theorem ofTemplate_eq_error_iff_questions :
    ofTemplate questions "é/¿a¡ö/¿ü¡?/x" = .error (.invalidName "ü" 11) ∧
      ofTemplate questions "é/¿a¡ö/¿ü¡" = .error (.unterminated 11) := by
  have hs : IsSettled questions "é/¿a¡ö/" := ⟨_, rfl⟩
  have hv : ¬ IsName "ü".toList := by
    rw [← validName_ofList_iff]
    decide
  have h := fun template => ofTemplate_eq_error_iff (o := questions) (by decide) template
  constructor
  · exact ((h _).2 "ü" 11).2 ⟨_, "/x", hs, rfl, by decide, by decide, hv, .inr rfl⟩
  · exact ((h _).1 11).2 ⟨_, "ü", hs, rfl, by decide, by decide, .inr rfl⟩

end Token

end PathTemplate
