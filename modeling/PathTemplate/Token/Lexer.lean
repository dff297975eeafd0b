import PathTemplate.Error
import PathTemplate.Token
/-!
# From text to tokens

A template is read character by character. The reader is inside literal text, inside a placeholder,
or right after an optional marker in a placeholder. A placeholder whose optional marker is not
followed by the end marker was none: what was read of it is literal text, and the character at hand
is read again as such.
-/

namespace PathTemplate

namespace Token

/-- Adds literal text to the tokens read so far, latest first. Text that follows text is joined to
it, and empty text adds nothing. -/
def addText (text : List Char) (done : List Token) : List Token :=
  match text, done with
  | [], done => done
  | text, literal before :: done => literal (before ++ String.ofList text) :: done
  | text, done => literal (String.ofList text) :: done

end Token

namespace Lexer

/-- What the characters read since `State.mark` are part of. -/
inductive Mode where
  /-- Literal text. -/
  | text
  /-- A placeholder that is open. -/
  | placeholder
  /-- A placeholder, right after an optional marker. -/
  | marked
  deriving DecidableEq, Repr, Inhabited

/-- How far a template has been read. -/
structure State where
  /-- The tokens so far, latest first. -/
  done : List Token := []
  /-- The byte offset of the first character that is in no token yet. -/
  mark : Nat := 0
  /-- The characters from there on, latest first. In a placeholder the earliest is the marker that
  opened it. -/
  run : List Char := []
  /-- What they are part of. -/
  mode : Mode := .text
  deriving DecidableEq, Repr, Inhabited

/-- The number of bytes of a text in UTF-8. -/
def byteLength : List Char → Nat
  | [] => 0
  | c :: text => c.utf8Size + byteLength text

namespace State

/-- The byte offset of the next character. -/
def position (s : State) : Nat :=
  s.mark + byteLength s.run

/-- The tokens so far, the characters at hand taken as literal text. -/
def flushed (s : State) : List Token :=
  Token.addText s.run.reverse s.done

/-- Closes a placeholder with the given name at a character, if the name is a valid one. -/
def close (s : State) (name : List Char) (optional : Bool) (c : Char) : Except TemplateError State :=
  if Token.validName (String.ofList name) then
    .ok ⟨.placeholder (String.ofList name) optional :: s.done, s.position + c.utf8Size, [], .text⟩
  else .error (.invalidName (String.ofList name) s.mark)

/-- Reads a character as literal text, as a separator, or as the start of a placeholder. -/
def readText (o : Options) (s : State) (c : Char) : State :=
  if c = o.separator then ⟨.separator :: s.flushed, s.position + c.utf8Size, [], .text⟩
  else if c = o.startMarker then ⟨s.flushed, s.position, [c], .placeholder⟩
  else ⟨s.done, s.mark, c :: s.run, .text⟩

/-- Reads one character. -/
def read (o : Options) (s : State) (c : Char) : Except TemplateError State :=
  match s.mode with
  | .text => .ok (s.readText o c)
  | .placeholder =>
    if c = o.optionalMarker then .ok { s with run := c :: s.run, mode := .marked }
    else if c = o.endMarker then s.close (s.run.reverse.drop 1) false c
    else .ok { s with run := c :: s.run }
  | .marked =>
    if c = o.endMarker then s.close ((s.run.drop 1).reverse.drop 1) true c
    else .ok (s.readText o c)

/-- The tokens, when the text ends here. -/
def finish (s : State) : Except TemplateError (List Token) :=
  match s.mode with
  | .text => .ok s.flushed.reverse
  | _ => .error (.unterminated s.mark)

end State

/-- Reads a text from a state on. -/
def readAll (o : Options) (s : State) (text : List Char) : Except TemplateError State :=
  text.foldlM (State.read o) s

end Lexer

/-- Splits a template into its tokens. -/
def Token.ofTemplate (o : Options) (template : String) : Except TemplateError (List Token) := do
  (← Lexer.readAll o {} template.toList).finish

/-- The tokens of a template are those of a reader that ends in literal text. -/
theorem Token.exists_readAll_of_ofTemplate {o : Options} {template : String} {tokens : List Token}
    (h : ofTemplate o template = .ok tokens) :
    ∃ s, Lexer.readAll o {} template.toList = .ok s ∧ s.mode = .text ∧
      s.flushed.reverse = tokens := by
  rw [ofTemplate] at h
  cases hr : Lexer.readAll o {} template.toList with
  | error e => rw [hr] at h; cases h
  | ok s =>
    rw [hr] at h
    have hf : s.finish = .ok tokens := h
    unfold Lexer.State.finish at hf
    split at hf
    · next hm =>
      cases hf
      exact ⟨s, rfl, hm, rfl⟩
    · cases hf

end PathTemplate
