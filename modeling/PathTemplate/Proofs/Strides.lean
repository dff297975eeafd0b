import PathTemplate.Token.Lexer
/-!
# Reading a template in strides

Where literal text is read, a template goes on in one of a few ways: with a character that means
nothing, with a separator, or with a placeholder up to where it is closed, is given up, or is still
open at the end. Each of these strides has a lemma that says what has been read after it. The
lemmas on placeholders tell the markers apart, so they ask for markers that differ.
-/

namespace PathTemplate

namespace Token

theorem addText_nil (done : List Token) : addText [] done = done :=
  rfl

/-- Text that is added in two parts is added as a whole. -/
theorem addText_append (a b : List Char) (done : List Token) :
    addText (a ++ b) done = addText b (addText a done) := by
  rcases a with _ | ⟨x, a⟩
  · rfl
  · rcases b with _ | ⟨y, b⟩
    · rw [List.append_nil, addText_nil]
    · rcases done with _ | ⟨_ | _ | _, done⟩ <;> simp [addText, String.append_assoc]

end Token

namespace Lexer

/-- The tokens of a text that is read from a state on. -/
def tokensFrom (o : Options) (s : State) (text : List Char) : Except TemplateError (List Token) :=
  (readAll o s text).bind State.finish

/-- Whether the name of a placeholder goes on through a text: neither the optional marker nor the
end marker is in it. -/
def GoesOn (o : Options) (name : List Char) : Prop :=
  ∀ c ∈ name, c ≠ o.optionalMarker ∧ c ≠ o.endMarker

variable {o : Options} {s : State} {c : Char} {name rest : List Char}

theorem ofTemplate_eq_tokensFrom (o : Options) (template : String) :
    Token.ofTemplate o template = tokensFrom o {} template.toList :=
  rfl

theorem tokensFrom_nil (hm : s.mode = .text) : tokensFrom o s [] = .ok s.flushed.reverse := by
  simp [tokensFrom, readAll, Except.bind, State.finish, hm, pure, Except.pure]

theorem tokensFrom_nil_of_ne (hm : s.mode ≠ .text) :
    tokensFrom o s [] = .error (.unterminated s.mark) := by
  unfold tokensFrom readAll
  cases h : s.mode <;> simp_all [Except.bind, State.finish, pure, Except.pure]

theorem tokensFrom_cons (o : Options) (s : State) (c : Char) (rest : List Char) :
    tokensFrom o s (c :: rest) = (s.read o c).bind (tokensFrom o · rest) := by
  rw [tokensFrom, readAll, List.foldlM_cons]
  cases s.read o c <;> rfl

/-! ## In literal text -/

theorem tokensFrom_plain (hm : s.mode = .text) (hs : c ≠ o.separator) (hc : c ≠ o.startMarker) :
    tokensFrom o s (c :: rest) = tokensFrom o ⟨s.done, s.mark, c :: s.run, .text⟩ rest := by
  simp [tokensFrom_cons, State.read, State.readText, hm, hs, hc, Except.bind]

theorem tokensFrom_separator (hm : s.mode = .text) :
    tokensFrom o s (o.separator :: rest) =
      tokensFrom o ⟨.separator :: s.flushed, s.position + o.separator.utf8Size, [], .text⟩
        rest := by
  simp [tokensFrom_cons, State.read, State.readText, hm, Except.bind]

/-- What comes after an optional marker is read as literal text, unless it closes the
placeholder. -/
theorem tokensFrom_marked (hm : s.mode = .marked) (hc : c ≠ o.endMarker) :
    tokensFrom o s (c :: rest) = tokensFrom o ⟨s.done, s.mark, s.run, .text⟩ (c :: rest) := by
  simp [tokensFrom_cons, State.read, State.readText, State.flushed, State.position, hm, hc]

/-! ## In a placeholder -/

theorem tokensFrom_name (hm : s.mode = .placeholder) (hn : GoesOn o name) :
    tokensFrom o s (name ++ rest) =
      tokensFrom o ⟨s.done, s.mark, name.reverse ++ s.run, .placeholder⟩ rest := by
  induction name generalizing s with
  | nil => rw [← hm]; rfl
  | cons c name ih =>
    obtain ⟨⟨ho, he⟩, hn⟩ := List.forall_mem_cons.1 hn
    have hr : s.read o c = .ok ⟨s.done, s.mark, c :: s.run, .placeholder⟩ := by
      simp [State.read, hm, ho, he]
    rw [List.cons_append, tokensFrom_cons, hr, Except.bind, ih rfl hn]
    simp

/-- The state in which a placeholder has been opened and a text been read of it. -/
def State.opened (o : Options) (s : State) (text : List Char) (mode : Mode) : State :=
  ⟨s.flushed, s.position, text.reverse ++ [o.startMarker], mode⟩

/-- The state after a placeholder that has been closed. -/
def State.closed (s : State) (name : List Char) (optional : Bool) (c : Char) : State :=
  ⟨.placeholder (String.ofList name) optional :: s.done, s.position + c.utf8Size, [], .text⟩

theorem close_of_validName (hv : Token.validName (String.ofList name) = true) (optional : Bool) :
    s.close name optional c = .ok (s.closed name optional c) :=
  if_pos hv

/-- A template is read on behind a placeholder only if the name is a valid one. -/
theorem bind_close_eq_ok_iff {α : Type} {optional : Bool} {f : State → Except TemplateError α}
    {a : α} : (s.close name optional c).bind f = .ok a ↔
      Token.validName (String.ofList name) = true ∧ f (s.closed name optional c) = .ok a := by
  unfold State.close State.closed
  by_cases hv : Token.validName (String.ofList name) = true <;> simp [hv, Except.bind]

section Placeholder

variable (hm : s.mode = .text) (hs : o.startMarker ≠ o.separator) (hn : GoesOn o name)
include hm hs hn

theorem tokensFrom_open : tokensFrom o s (o.startMarker :: (name ++ rest)) =
    tokensFrom o (s.opened o name .placeholder) rest := by
  have hr : s.read o o.startMarker = .ok (s.opened o [] .placeholder) := by
    simp [State.read, State.readText, State.opened, hm, hs]
  rw [tokensFrom_cons, hr, Except.bind, tokensFrom_name rfl hn]
  simp [State.opened]

theorem tokensFrom_open_marked :
    tokensFrom o s (o.startMarker :: (name ++ o.optionalMarker :: rest)) =
      tokensFrom o (s.opened o (name ++ [o.optionalMarker]) .marked) rest := by
  rw [tokensFrom_open hm hs hn, tokensFrom_cons]
  simp [State.read, State.opened, Except.bind]

theorem tokensFrom_mandatory (he : o.endMarker ≠ o.optionalMarker) :
    tokensFrom o s (o.startMarker :: (name ++ o.endMarker :: rest)) =
      ((s.opened o name .placeholder).close name false o.endMarker).bind (tokensFrom o · rest) := by
  rw [tokensFrom_open hm hs hn, tokensFrom_cons]
  simp [State.read, State.opened, he]

theorem tokensFrom_optional :
    tokensFrom o s (o.startMarker :: (name ++ o.optionalMarker :: o.endMarker :: rest)) =
      ((s.opened o (name ++ [o.optionalMarker]) .marked).close name true o.endMarker).bind
        (tokensFrom o · rest) := by
  rw [tokensFrom_open_marked hm hs hn, tokensFrom_cons]
  simp [State.read, State.opened]

/-- A placeholder that is given up is literal text, and the character that gave it up is read as
such. -/
theorem tokensFrom_swallowed (hc : c ≠ o.endMarker) :
    tokensFrom o s (o.startMarker :: (name ++ o.optionalMarker :: c :: rest)) =
      tokensFrom o (s.opened o (name ++ [o.optionalMarker]) .text) (c :: rest) := by
  rw [tokensFrom_open_marked hm hs hn, tokensFrom_marked rfl hc]
  rfl

theorem tokensFrom_unclosed :
    tokensFrom o s (o.startMarker :: name) = .error (.unterminated s.position) := by
  have h : tokensFrom o s (o.startMarker :: (name ++ [])) = _ := tokensFrom_open hm hs hn
  rw [List.append_nil] at h
  rw [h, tokensFrom_nil_of_ne (by simp [State.opened])]
  rfl

theorem tokensFrom_unclosed_marked :
    tokensFrom o s (o.startMarker :: (name ++ [o.optionalMarker])) =
      .error (.unterminated s.position) := by
  rw [tokensFrom_open_marked hm hs hn, tokensFrom_nil_of_ne (by simp [State.opened])]
  rfl

end Placeholder

/-- What is after an opening marker: a name, and then nothing or a marker that ends it. -/
theorem exists_goesOn (o : Options) (text : List Char) : ∃ name rest, GoesOn o name ∧
    text = name ++ rest ∧ ∀ c ∈ rest.head?, c = o.optionalMarker ∨ c = o.endMarker := by
  refine ⟨text.takeWhile fun c => c ≠ o.optionalMarker ∧ c ≠ o.endMarker, _, ?_,
    List.takeWhile_append_dropWhile.symm, ?_⟩
  · intro c hc
    simpa using List.all_eq_true.1 List.all_takeWhile c hc
  · intro c hc
    have := List.head?_dropWhile_not (fun c => decide (c ≠ o.optionalMarker ∧ c ≠ o.endMarker)) text
    rw [Option.mem_def.1 hc] at this
    by_cases h : c = o.optionalMarker <;> simp_all

end Lexer

end PathTemplate
