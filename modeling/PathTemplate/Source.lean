import PathTemplate.Shape
import PathTemplate.Token
/-!
# From tokens to a regular expression

The source of a regular expression is written token by token. What is written for a token depends
on its neighbours: a separator that belongs to an optional placeholder is written with it, inside
its optional group, and not where it stands.

A placeholder's expression gets a group of its own, so that an alternation in it reaches no further
than the placeholder. The first placeholder of a name captures; later ones only constrain.
-/

namespace PathTemplate

/-- Regular expressions for single placeholders, by name. -/
abbrev Overrides := List (String × String)

namespace Source

/-- Whether the end of the template or a separator stands here. -/
def isBoundary : List Token → Bool
  | [] => true
  | token :: _ => token.isSeparator

/-- Whether a separator stands here. -/
def startsWithSeparator : List Token → Bool
  | [] => false
  | token :: _ => token.isSeparator

/-- The layout of a placeholder between the tokens before it, nearest first, and those after it. -/
def shapeAt (capture : Orientation) (before : List Token) (optional : Bool) (after : List Token) :
    Shape :=
  let neighbour := match capture with
    | .left => startsWithSeparator before
    | .right => startsWithSeparator after
  Shape.select capture optional neighbour (isBoundary before && isBoundary after)

/-- Whether a separator between the tokens before it, nearest first, and those after it is written
together with a neighbouring placeholder. -/
def isFolded (capture : Orientation) (before after : List Token) : Bool :=
  match capture, before, after with
  | .left, _, .placeholder _ optional :: rest =>
    shapeAt .left (.separator :: before) optional rest = .foldLeft
  | .right, .placeholder _ optional :: rest, _ =>
    shapeAt .right rest optional (.separator :: after) = .foldRight
  | _, _, _ => false

/-- The regular expression for placeholders of a name. -/
def expressionFor (o : Options) (overrides : Overrides) (name : String) : String :=
  (overrides.lookup name).getD o.placeholderExpression

/-- The group of a placeholder. It captures unless its name is among those `bound` before. -/
def group (o : Options) (overrides : Overrides) (bound : List String) (name : String) : String :=
  let expression := expressionFor o overrides name
  if name ∈ bound then "(?:" ++ expression ++ ")"
  else "(?P<" ++ name ++ ">(?:" ++ expression ++ "))"

/-- A placeholder's group, with the separator that belongs to it. -/
def unit (o : Options) (shape : Shape) (group : String) : String :=
  match shape with
  | .foldLeft => "(?:" ++ o.escapedSeparator ++ group ++ ")"
  | .foldRight => "(?:" ++ group ++ o.escapedSeparator ++ ")"
  | .bare => group

/-- What is written for each token, given the tokens before it, nearest first, and the names that
they bind. -/
def pieces (o : Options) (overrides : Overrides) (before : List Token) (bound : List String) :
    List Token → List String
  | [] => []
  | .literal text :: after =>
    Regex.escape text :: pieces o overrides (.literal text :: before) bound after
  | .separator :: after =>
    let here :=
      if isFolded o.capture before after then ""
      else if after.isEmpty && o.allowTrailingSeparator then o.escapedSeparator ++ "?"
      else o.escapedSeparator
    here :: pieces o overrides (.separator :: before) bound after
  | .placeholder name optional :: after =>
    let shape := shapeAt o.capture before optional after
    let here := unit o shape (group o overrides bound name) ++ if optional then "?" else ""
    here :: pieces o overrides (.placeholder name optional :: before) (Token.addName bound name) after

/-- The inline flags, if there are any. -/
def flagGroup (o : Options) : String :=
  if o.flags = "" then "" else "(?" ++ o.flags ++ ")"

/-- The separator that may follow a template that does not end with one. -/
def trailing (o : Options) (tokens : List Token) : String :=
  if o.allowTrailingSeparator && !(tokens.getLast?.any Token.isSeparator) then
    o.escapedSeparator ++ "?"
  else ""

/-- The source of the regular expression that matches the texts of a template, from their first
character to their last. -/
def ofTokens (o : Options) (overrides : Overrides) (tokens : List Token) : String :=
  flagGroup o ++ "^" ++ String.join (pieces o overrides [] [] tokens) ++ trailing o tokens ++ "$"

end Source

end PathTemplate
