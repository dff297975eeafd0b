import PathTemplate.Proofs.Faults
/-!
# Templates in two parts

Where a template can be read, what is written after it is read as it would be alone: its tokens come
after those of the first part, and its faults are the same ones further on. Only where literal text
meets literal text do the two parts touch. This asks nothing of the options.

A reader that has the first part behind it is compared with one that starts afresh, over what both
of them read (`State.Resumes`).
-/

namespace PathTemplate

namespace Token

/-- A token before others. Text before text is joined to it. -/
def beside : Token → List Token → List Token
  | literal a, literal b :: more => literal (a ++ b) :: more
  | t, more => t :: more

/-- Tokens after others. If the first ones end with text and the second ones begin with text, this
is one token of both. -/
def joined : List Token → List Token → List Token
  | [], more => more
  | [t], more => beside t more
  | t :: u :: tokens, more => t :: joined (u :: tokens) more

variable {t : Token} {tokens us : List Token}

theorem joined_nil (tokens : List Token) : joined tokens [] = tokens := by
  induction tokens with
  | nil => rfl
  | cons t tokens ih =>
    cases tokens with
    | nil => cases t <;> rfl
    | cons u tokens => rw [joined, ih]

/-- What two tokens do side by side does not depend on what comes after them. -/
theorem joined_beside (t : Token) (us vs : List Token) :
    joined (beside t us) vs = beside t (joined us vs) := by
  rcases us with _ | ⟨u, _ | ⟨u', us⟩⟩
  · cases t <;> rfl
  · rcases vs with _ | ⟨v, vs⟩
    · cases t <;> cases u <;> rfl
    · cases t <;> cases u <;> cases v <;> simp [joined, beside, String.append_assoc]
  · cases t <;> cases u <;> rfl

theorem joined_assoc (tokens us vs : List Token) :
    joined (joined tokens us) vs = joined tokens (joined us vs) := by
  induction tokens with
  | nil => rfl
  | cons t tokens ih =>
    rcases tokens with _ | ⟨u, tokens⟩
    · exact joined_beside t us vs
    · have hne : ∃ w ws, joined (u :: tokens) us = w :: ws := by
        rcases tokens with _ | ⟨u', tokens⟩
        · rcases us with _ | ⟨v, us⟩
          · exact ⟨_, _, joined_nil [u]⟩
          · cases u <;> cases v <;> exact ⟨_, _, rfl⟩
        · exact ⟨_, _, rfl⟩
      obtain ⟨w, ws, hw⟩ := hne
      rw [joined, joined, ← ih, hw, joined]

/-- Only the last of the tokens before has something to do with those after. -/
theorem joined_concat (tokens : List Token) (t : Token) (us : List Token) :
    joined (tokens ++ [t]) us = tokens ++ beside t us := by
  induction tokens with
  | nil => rfl
  | cons u tokens ih =>
    rcases tokens with _ | ⟨v, tokens⟩
    · rfl
    · exact congrArg (u :: ·) ih

/-- A token that is no text comes after all others. -/
theorem joined_singleton (h : t.isLiteral = false) (tokens : List Token) :
    joined tokens [t] = tokens ++ [t] := by
  rcases List.eq_nil_or_concat' tokens with rfl | ⟨tokens, u, rfl⟩
  · rfl
  · rw [joined_concat]
    cases t with
    | literal a => cases h
    | _ => cases u <;> simp [beside]

/-- A token that is no text is added on both sides alike. -/
theorem reverse_cons_eq_joined (h : t.isLiteral = false) {done done' : List Token}
    (hd : done.reverse = joined tokens done'.reverse) :
    (t :: done).reverse = joined tokens (t :: done').reverse := by
  rw [List.reverse_cons, List.reverse_cons, ← joined_singleton h, ← joined_singleton h, hd,
    joined_assoc]

/-- The token for a text, if there is any. -/
def ofText (text : List Char) : List Token :=
  if text = [] then [] else [literal (String.ofList text)]

/-- Text is added where it comes after the tokens before. -/
theorem reverse_addText (text : List Char) (done : List Token) :
    (addText text done).reverse = joined done.reverse (ofText text) := by
  rcases text with _ | ⟨c, text⟩
  · exact (joined_nil _).symm
  · rw [ofText, if_neg (List.cons_ne_nil c text)]
    rcases done with _ | ⟨t, done⟩
    · rfl
    · rw [List.reverse_cons, joined_concat]
      cases t <;> simp [addText, beside]

end Token

namespace Lexer

open Token

/-- Two readers at the same characters: `t` has read only what is in its tokens, and `s` has read
`tokens` before that, in `n` bytes. In literal text only what has been read counts, and not how much
of it is still at hand. -/
structure State.Resumes (tokens : List Token) (n : Nat) (s t : State) : Prop where
  mode : s.mode = t.mode
  position : s.position = n + t.position
  flushed : s.flushed.reverse = joined tokens t.flushed.reverse
  opened : t.mode ≠ .text →
    s.done.reverse = joined tokens t.done.reverse ∧ s.mark = n + t.mark ∧ s.run = t.run

namespace State.Resumes

variable {o : Options} {tokens : List Token} {n : Nat} {s t : State} {c : Char}

/-- Behind a template that can be read, reading starts afresh. -/
theorem init (hm : s.mode = .text) (hp : s.position = n) (hf : s.flushed.reverse = tokens) :
    s.Resumes tokens n {} :=
  ⟨hm, hp, by rw [hf]; exact (joined_nil tokens).symm, fun h => absurd rfl h⟩

/-- Of an open placeholder only where it is differs. -/
theorem of_opened {s t : State} (hm : s.mode = t.mode)
    (hd : s.done.reverse = joined tokens t.done.reverse) (hk : s.mark = n + t.mark)
    (hr : s.run = t.run) : s.Resumes tokens n t := by
  refine ⟨hm, ?_, ?_, fun _ => ⟨hd, hk, hr⟩⟩
  · rw [State.position, State.position, hk, hr, Nat.add_assoc]
  · rw [State.flushed, State.flushed, reverse_addText, reverse_addText, hd, hr, joined_assoc]

theorem readText (h : s.Resumes tokens n t) (c : Char) :
    (s.readText o c).Resumes tokens n (t.readText o c) := by
  have hp : (s.readText o c).position = n + (t.readText o c).position := by
    rw [position_readText, position_readText, h.position, Nat.add_assoc]
  unfold State.readText at hp ⊢
  by_cases hs : c = o.separator
  · simp only [if_pos hs] at hp ⊢
    exact ⟨rfl, hp, reverse_cons_eq_joined rfl h.flushed, nofun⟩
  · by_cases ho : c = o.startMarker
    · simp only [if_neg hs, if_pos ho] at hp ⊢
      exact of_opened rfl h.flushed h.position rfl
    · simp only [if_neg hs, if_neg ho] at hp ⊢
      refine ⟨rfl, hp, ?_, nofun⟩
      have hf : ∀ s : State, (State.mk s.done s.mark (c :: s.run) .text).flushed.reverse =
          joined s.flushed.reverse (ofText [c]) := by
        intro s
        rw [State.flushed, List.reverse_cons, addText_append, reverse_addText]
        rfl
      rw [hf, hf, h.flushed, joined_assoc]

/-- A placeholder is closed by both readers, or by none for the same reason. -/
theorem close (h : s.Resumes tokens n t) (hm : t.mode ≠ .text) (name : List Char)
    (optional : Bool) (c : Char) :
    (∃ e, t.close name optional c = .error e ∧ s.close name optional c = .error (e.shift n)) ∨
      ∃ s' t', t.close name optional c = .ok t' ∧ s.close name optional c = .ok s' ∧
        s'.Resumes tokens n t' := by
  obtain ⟨hd, hk, -⟩ := h.opened hm
  unfold State.close
  by_cases hv : validName (String.ofList name) = true
  · simp only [if_pos hv]
    refine .inr ⟨_, _, rfl, rfl, rfl, ?_, reverse_cons_eq_joined rfl hd, nofun⟩
    exact (congrArg (· + c.utf8Size) h.position).trans (Nat.add_assoc n _ _)
  · simp only [if_neg hv]
    exact .inl ⟨_, rfl, by rw [hk]; rfl⟩

/-- A character is read by both readers, or by none for the same reason. -/
theorem read (h : s.Resumes tokens n t) (o : Options) (c : Char) :
    (∃ e, t.read o c = .error e ∧ s.read o c = .error (e.shift n)) ∨
      ∃ s' t', t.read o c = .ok t' ∧ s.read o c = .ok s' ∧ s'.Resumes tokens n t' := by
  unfold State.read
  rw [h.mode]
  cases hm : t.mode with
  | text => exact .inr ⟨_, _, rfl, rfl, h.readText c⟩
  | placeholder =>
    have hne : t.mode ≠ .text := by simp [hm]
    obtain ⟨hd, hk, hr⟩ := h.opened hne
    dsimp only
    split
    · exact .inr ⟨_, _, rfl, rfl, of_opened rfl hd hk (by rw [hr])⟩
    · split
      · rw [hr]
        exact h.close hne _ false c
      · exact .inr ⟨_, _, rfl, rfl, of_opened rfl hd hk (by rw [hr])⟩
  | marked =>
    have hne : t.mode ≠ .text := by simp [hm]
    dsimp only
    split
    · rw [(h.opened hne).2.2]
      exact h.close hne _ true c
    · exact .inr ⟨_, _, rfl, rfl, h.readText c⟩

/-- What is read to the end of a template has the tokens, or the fault, that it has alone. -/
theorem tokensFrom (o : Options) (text : List Char) : ∀ {s t : State}, s.Resumes tokens n t →
    tokensFrom o s text =
      ((tokensFrom o t text).map (joined tokens)).mapError (TemplateError.shift n) := by
  induction text with
  | nil =>
    intro s t h
    by_cases hm : t.mode = .text
    · rw [tokensFrom_nil hm, tokensFrom_nil (h.mode.trans hm), h.flushed]
      rfl
    · rw [tokensFrom_nil_of_ne hm, tokensFrom_nil_of_ne (h.mode ▸ hm), (h.opened hm).2.1]
      rfl
  | cons c text ih =>
    intro s t h
    rw [tokensFrom_cons, tokensFrom_cons]
    rcases h.read o c with ⟨e, ht, hs⟩ | ⟨s', t', ht, hs, h'⟩
    · rw [ht, hs]
      rfl
    · rw [ht, hs]
      exact ih h'

end State.Resumes

end Lexer

namespace Token

/-- Templates are read part by part, under any options at all. -/
theorem ofTemplate_append (o : Options) (p q : String) :
    (∀ tokens, ofTemplate o p = .ok tokens →
      (∀ us, ofTemplate o q = .ok us → ofTemplate o (p ++ q) = .ok (joined tokens us)) ∧
        ∀ e, ofTemplate o q = .error e →
          ofTemplate o (p ++ q) = .error (e.shift p.utf8ByteSize)) ∧
      ∀ name position, ofTemplate o p = .error (.invalidName name position) →
        ofTemplate o (p ++ q) = .error (.invalidName name position) := by
  simp only [Lexer.ofTemplate_eq_tokensFrom o (p ++ q), Lexer.ofTemplate_eq_tokensFrom o q,
    String.toList_append]
  constructor
  · intro tokens h
    obtain ⟨s, hr, hm, hf⟩ := exists_readAll_of_ofTemplate h
    have hp : s.position = p.utf8ByteSize := by
      rw [Lexer.position_readAll hr, Lexer.byteLength_toList]
      exact Nat.zero_add _
    have hs := (Lexer.State.Resumes.init hm hp hf).tokensFrom o q.toList
    rw [Lexer.tokensFrom_append hr, hs]
    constructor
    · rintro us hq
      rw [hq]
      rfl
    · rintro e hq
      rw [hq]
      rfl
  · intro name position h
    rw [Lexer.ofTemplate_eq_tokensFrom, Lexer.tokensFrom] at h
    rw [Lexer.tokensFrom, Lexer.readAll_append]
    cases hr : Lexer.readAll o {} p.toList with
    | error e =>
      rw [hr] at h
      exact h
    | ok s =>
      -- At the end of a text no name is looked at any more.
      rw [hr] at h
      have hf : s.finish = .error (.invalidName name position) := h
      unfold Lexer.State.finish at hf
      split at hf <;> cases hf

/-- Two parts that meet inside literal text with a placeholder that was given up, a fault in the
second part, and one in the first. One character ends placeholders and makes them optional. -/
theorem ofTemplate_append_shared_marker :
    ofTemplate { endMarker := '?' } ("x\x7ba?b" ++ "y\x7bc??/") =
        .ok [literal "x\x7ba?by", placeholder "c" true, separator] ∧
      ofTemplate { endMarker := '?' } ("x\x7ba?b" ++ "é\x7b1??z") = .error (.invalidName "1" 7) ∧
      ofTemplate { endMarker := '?' } ("\x7b1??" ++ "y\x7bc??/") = .error (.invalidName "1" 0) := by
  have h := ofTemplate_append { endMarker := '?' }
  have hp : ofTemplate { endMarker := '?' } "x\x7ba?b" = .ok [literal "x\x7ba?b"] := by rfl
  have hq : ofTemplate { endMarker := '?' } "y\x7bc??/" =
      .ok [literal "y", placeholder "c" true, separator] := by rfl
  have he : ofTemplate { endMarker := '?' } "é\x7b1??z" = .error (.invalidName "1" 2) := by rfl
  have hn : ofTemplate { endMarker := '?' } "\x7b1??" = .error (.invalidName "1" 0) := by rfl
  exact ⟨((h _ _).1 _ hp).1 _ hq, ((h _ _).1 _ hp).2 _ he, (h _ _).2 _ _ hn⟩

end Token

end PathTemplate
