import PathTemplate.Options
/-!
# Errors

What can go wrong, by cause, and how it is told. A faulty regular expression or settings document
has no message: only that it is faulty is told.
-/

namespace PathTemplate

/-- What can be wrong with the text of a template. Positions are offsets in UTF-8 bytes. -/
inductive TemplateError where
  /-- A placeholder whose name is not a valid one. -/
  | invalidName (name : String) (position : Nat)
  /-- A placeholder that is not closed. -/
  | unterminated (position : Nat)
  deriving DecidableEq, Repr, Inhabited

namespace TemplateError

/-- Where the placeholder starts. -/
def position : TemplateError → Nat
  | invalidName _ position => position
  | unterminated position => position

/-- The fault in words. -/
def message : TemplateError → String
  | invalidName name position =>
    s!"invalid placeholder name {Text.quoted name} at offset {position}"
  | unterminated position => s!"unterminated placeholder starting at offset {position}"

/-- The same fault in a text that starts `n` bytes earlier. -/
def shift (n : Nat) : TemplateError → TemplateError
  | invalidName name position => invalidName name (n + position)
  | unterminated position => unterminated (n + position)

end TemplateError

/-- Everything that can go wrong. -/
inductive Error where
  /-- The template is not well formed. -/
  | template (cause : TemplateError)
  /-- The options cannot be used. -/
  | options (cause : OptionsError)
  /-- A regular expression is not well formed, or too large. -/
  | regex
  /-- A settings document is not well formed, or does not describe options. -/
  | settings
  deriving DecidableEq, Repr, Inhabited

namespace Error

/-- The error in words, where there is more to tell than its kind. -/
def message? : Error → Option String
  | template cause => some cause.message
  | options cause => some ("invalid options: " ++ cause.message)
  | regex => none
  | settings => none

/-- Whether the template's own text is at fault. -/
def isTemplate : Error → Bool
  | template _ => true
  | _ => false

end Error

end PathTemplate
