import Mathlib.Data.List.Chain
import PathTemplate.Token.Lexer
/-!
# Templates from tokens

Nothing of a template is lost when it is split into tokens: written one after the other, with their
markers, the tokens are the template again. This asks nothing of the options. Markers may have the
same character; then the order in which they are looked for decides what a character is, and the
token that it goes into is written with the same one.
-/

namespace PathTemplate

namespace Token

/-- How a token is written in a template. -/
def chars (o : Options) : Token → List Char
  | literal text => text.toList
  | separator => [o.separator]
  | placeholder name false => o.startMarker :: (name.toList ++ [o.endMarker])
  | placeholder name true => o.startMarker :: (name.toList ++ [o.optionalMarker, o.endMarker])

/-- The template that tokens are written as. -/
def toTemplate (o : Options) (tokens : List Token) : String :=
  String.ofList (tokens.flatMap (chars o))

def isLiteral : Token → Bool
  | literal _ => true
  | _ => false

/-- What every token of a template is: text is not empty, and a name is a valid one. -/
def IsProper : Token → Prop
  | literal text => text ≠ ""
  | separator => True
  | placeholder name _ => validName name = true

/-- Tokens of which no two that stand side by side are text. -/
abbrev Apart (tokens : List Token) : Prop :=
  tokens.IsChain fun a b => (a.isLiteral && b.isLiteral) = false

variable {o : Options} {done tokens : List Token} {t : Token}

/-- A valid name is a letter, followed by letters, digits and underscores. -/
theorem validName_iff {name : String} : validName name = true ↔
    ∃ first rest, name.toList = first :: rest ∧ first.isAlpha = true ∧
      ∀ c ∈ rest, c.isAlphanum = true ∨ c = '_' := by
  unfold validName
  cases name.toList with
  | nil => simp
  | cons first rest => simp

/-! ## Text that is added -/

theorem flatMap_chars_addText (text : List Char) (done : List Token) :
    (addText text done).reverse.flatMap (chars o) = done.reverse.flatMap (chars o) ++ text := by
  unfold addText
  split
  · simp
  · simp [chars]
  · simp [chars]

theorem isProper_of_mem_addText {text : List Char} (h : ∀ t ∈ done, t.IsProper) :
    ∀ t ∈ addText text done, t.IsProper := by
  unfold addText
  split
  · exact h
  · next before done hne =>
    intro t ht
    rcases List.mem_cons.1 ht with rfl | ht
    · -- Text that is joined to other text is at least as long.
      have hb : before ≠ "" := h _ List.mem_cons_self
      simp [IsProper, hb]
    · exact h t (List.mem_cons_of_mem _ ht)
  · next hne _ =>
    intro t ht
    rcases List.mem_cons.1 ht with rfl | ht
    · simpa [IsProper] using hne
    · exact h t ht

/-- What may stand beside a token does not depend on its text. -/
theorem Apart.cons_of_isLiteral {u : Token} (h : Apart (t :: tokens))
    (hu : u.isLiteral = t.isLiteral) : Apart (u :: tokens) := by
  cases tokens with
  | nil => exact .singleton u
  | cons v tokens =>
    rw [Apart, List.isChain_cons_cons] at h ⊢
    rwa [hu]

theorem Apart.cons_of_not_isLiteral (h : Apart tokens) (ht : t.isLiteral = false) :
    Apart (t :: tokens) := by
  cases tokens with
  | nil => exact .singleton t
  | cons u tokens =>
    rw [Apart, List.isChain_cons_cons]
    exact ⟨by simp [ht], h⟩

theorem Apart.reverse (h : Apart tokens) : Apart tokens.reverse := by
  rw [Apart, List.isChain_reverse]
  exact h.imp fun a b hab => by rwa [Bool.and_comm]

theorem Apart.addText (h : Apart done) (text : List Char) : Apart (addText text done) := by
  unfold Token.addText
  split
  · exact h
  · exact h.cons_of_isLiteral rfl
  · next hl =>
    -- The token before, if there is one, is no text.
    cases done with
    | nil => exact .singleton _
    | cons u done =>
      rw [Apart, List.isChain_cons_cons]
      refine ⟨?_, h⟩
      cases u with
      | literal before => exact absurd rfl (hl before done)
      | _ => rfl

end Token

namespace Lexer

open Token

/-- What a state says about the characters `read` so far: they are those of the tokens and those at
hand. In a placeholder the characters at hand begin with the marker that opened it, and after an
optional marker they end with that one. -/
structure State.Records (o : Options) (s : State) (read : List Char) : Prop where
  chars : s.done.reverse.flatMap (chars o) ++ s.run.reverse = read
  proper : ∀ t ∈ s.done, t.IsProper
  apart : Apart s.done
  opened : s.mode = .placeholder → ∃ name, s.run.reverse = o.startMarker :: name
  marked : s.mode = .marked →
    ∃ name, s.run.reverse = o.startMarker :: (name ++ [o.optionalMarker])

namespace State.Records

variable {o : Options} {s s' : State} {read : List Char} {c : Char}

theorem init (o : Options) : State.Records o {} [] := by
  refine ⟨rfl, ?_, .nil, nofun, nofun⟩
  simp

theorem flushed (h : s.Records o read) : s.flushed.reverse.flatMap (Token.chars o) = read := by
  rw [State.flushed, flatMap_chars_addText, h.chars]

theorem readText (h : s.Records o read) (c : Char) : (s.readText o c).Records o (read ++ [c]) := by
  have hp : ∀ t ∈ s.flushed, t.IsProper := isProper_of_mem_addText h.proper
  have ha : Apart s.flushed := h.apart.addText _
  unfold State.readText
  split
  · next hc =>
    refine ⟨?_, ?_, ha.cons_of_not_isLiteral rfl, nofun, nofun⟩
    · simp [h.flushed, Token.chars, hc]
    · intro t ht
      rcases List.mem_cons.1 ht with rfl | ht
      · trivial
      · exact hp t ht
  · split
    · next hc =>
      refine ⟨?_, hp, ha, fun _ => ⟨[], by simp [hc]⟩, nofun⟩
      simp [h.flushed]
    · refine ⟨?_, h.proper, h.apart, nofun, nofun⟩
      simp [← h.chars]

/-- A placeholder that is closed has been read as it is written. -/
theorem close (h : s.Records o read) {name : List Char} {optional : Bool}
    (hw : s.run.reverse ++ [c] = Token.chars o (.placeholder (String.ofList name) optional))
    (hs : s.close name optional c = .ok s') : s'.Records o (read ++ [c]) := by
  unfold State.close at hs
  split at hs
  · next hv =>
    cases hs
    refine ⟨?_, ?_, h.apart.cons_of_not_isLiteral rfl, nofun, nofun⟩
    · simp [← hw, ← h.chars]
    · intro t ht
      rcases List.mem_cons.1 ht with rfl | ht
      · exact hv
      · exact h.proper t ht
  · cases hs

/-- Reading a character adds it to what is recorded. -/
theorem read_char (h : s.Records o read) (hs : s.read o c = .ok s') :
    s'.Records o (read ++ [c]) := by
  unfold State.read at hs
  split at hs
  · cases hs
    exact h.readText c
  · next hm =>
    obtain ⟨name, hn⟩ := h.opened hm
    split at hs
    · next hc =>
      cases hs
      refine ⟨?_, h.proper, h.apart, nofun, fun _ => ⟨name, by simp [hn, hc]⟩⟩
      simp [← h.chars]
    · split at hs
      · next hc =>
        refine h.close ?_ hs
        simp [hn, Token.chars, hc]
      · cases hs
        refine ⟨?_, h.proper, h.apart, fun _ => ⟨name ++ [c], by simp [hn]⟩, fun hp => ?_⟩
        · simp [← h.chars]
        · simp [hm] at hp
  · next hm =>
    obtain ⟨name, hn⟩ := h.marked hm
    split at hs
    · next hc =>
      -- The marker that was read last is not part of the name.
      have hr : s.run = o.optionalMarker :: (o.startMarker :: name).reverse := by
        rw [← List.reverse_reverse s.run, hn]
        simp
      refine h.close ?_ hs
      simp [hr, Token.chars, hc]
    · cases hs
      exact h.readText c

/-- Reading a text adds it to what is recorded. -/
theorem readAll {text : List Char} : ∀ {s : State} {read : List Char}, s.Records o read →
    readAll o s text = .ok s' → s'.Records o (read ++ text) := by
  induction text with
  | nil =>
    intro s read h hs
    cases hs
    rwa [List.append_nil]
  | cons c text ih =>
    intro s read h hs
    rw [Lexer.readAll, List.foldlM_cons] at hs
    cases hr : s.read o c with
    | error e => rw [hr] at hs; cases hs
    | ok s₁ =>
      rw [hr] at hs
      have := ih (h.read_char hr) hs
      rwa [List.append_assoc] at this

end State.Records

end Lexer

namespace Token

variable {o : Options} {template : String} {tokens : List Token}

/-- The tokens of a template are what has been recorded at its end. -/
theorem records_of_ofTemplate (h : ofTemplate o template = .ok tokens) :
    ∃ s : Lexer.State, s.Records o template.toList ∧ tokens = s.flushed.reverse := by
  obtain ⟨s, hr, -, rfl⟩ := exists_readAll_of_ofTemplate h
  exact ⟨s, (Lexer.State.Records.init o).readAll hr, rfl⟩

theorem toTemplate_of_ofTemplate (h : ofTemplate o template = .ok tokens) :
    toTemplate o tokens = template := by
  obtain ⟨s, hs, rfl⟩ := records_of_ofTemplate h
  rw [toTemplate, hs.flushed, String.ofList_toList]

/-- Under any options at all, the tokens of a template are written as that template and no other.
Their names are letters, digits and underscores after a letter, and text among them is not empty and
not split up. -/
theorem lossless_of_ofTemplate (h : ofTemplate o template = .ok tokens) :
    toTemplate o tokens = template ∧
      (∀ name optional, placeholder name optional ∈ tokens →
        ∃ first rest, name.toList = first :: rest ∧ first.isAlpha = true ∧
          ∀ c ∈ rest, c.isAlphanum = true ∨ c = '_') ∧
      (∀ text, literal text ∈ tokens → text ≠ "") ∧
      (∀ i text, tokens[i]? = some (literal text) →
        ∀ text', tokens[i + 1]? ≠ some (literal text')) ∧
      ∀ template', ofTemplate o template' = .ok tokens → template' = template := by
  have ht := toTemplate_of_ofTemplate h
  obtain ⟨s, hs, rfl⟩ := records_of_ofTemplate h
  have hp : ∀ t ∈ s.flushed.reverse, t.IsProper :=
    fun t ht => isProper_of_mem_addText hs.proper t (List.mem_reverse.1 ht)
  have ha : Apart s.flushed.reverse := (hs.apart.addText _).reverse
  refine ⟨ht, fun name optional hm => validName_iff.1 (hp _ hm), fun text hm => hp _ hm, ?_, ?_⟩
  · intro i text hi text' hi'
    obtain ⟨h₁, e₁⟩ := List.getElem?_eq_some_iff.1 hi
    obtain ⟨h₂, e₂⟩ := List.getElem?_eq_some_iff.1 hi'
    have := List.isChain_iff_getElem.1 ha i h₂
    simp [e₁, e₂, isLiteral] at this
  · intro template' h'
    rw [← ht, toTemplate_of_ofTemplate h']

/-- Where one character ends placeholders and makes them optional, it has to come twice. -/
theorem lossless_of_ofTemplate_shared_marker :
    ofTemplate { endMarker := '?' } "x\x7ba?b\x7bc??" =
        .ok [literal "x\x7ba?b", placeholder "c" true] ∧
      toTemplate { endMarker := '?' } [literal "x\x7ba?b", placeholder "c" true] =
        "x\x7ba?b\x7bc??" := by
  have h : ofTemplate { endMarker := '?' } "x\x7ba?b\x7bc??" =
      .ok [literal "x\x7ba?b", placeholder "c" true] := by rfl
  exact ⟨h, (lossless_of_ofTemplate h).1⟩

end Token

end PathTemplate
