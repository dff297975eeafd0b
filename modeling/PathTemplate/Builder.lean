import PathTemplate.Cache
import PathTemplate.Source
/-!
# Builders

A builder turns templates into regular expressions under fixed options, and keeps the tokens and the
regular expressions that it has worked out. Only options without a fault make a builder.
-/

namespace PathTemplate

/-- A template that has been made into a regular expression, with the names of its placeholders. -/
structure CompiledTemplate where
  regex : Regex
  names : List String
  deriving DecidableEq, Repr, Inhabited

namespace CompiledTemplate

/-- Whether a text matches. -/
def isMatch (t : CompiledTemplate) (text : String) : Bool :=
  t.regex.isMatch text

/-- The values that a text gives to the placeholders. -/
def values (t : CompiledTemplate) (text : String) : Values :=
  t.regex.extract text

end CompiledTemplate

/-- Fixed options, and what has been worked out under them. -/
structure Builder where
  options : Options := {}
  limits : Regex.Limits := {}
  tokenCache : TokenCache := {}
  regexCache : RegexCache := {}
  deriving DecidableEq, Repr, Inhabited

namespace Builder

/-- A builder for the given options. -/
def new (o : Options) : Except Error Builder :=
  match o.fault? with
  | some fault => .error (.options fault)
  | none => .ok { options := o }

/-- The tokens of a template, found under the given stamp unless they are known. -/
def tokens (b : Builder) (stamp : Nat) (template : String) : Outcome Builder TokenSequence :=
  (b.tokenCache.tokens b.options stamp template).within ({ b with tokenCache := · })

/-- The distinct names of a template's placeholders, in the order of their first occurrence. -/
def namesOf (b : Builder) (stamp : Nat) (template : String) : Outcome Builder (List String) :=
  (b.tokens stamp template).map (Token.names ·.tokens)

/-- The source of the regular expression for a template. -/
def source (b : Builder) (stamp : Nat) (template : String) (overrides : Overrides) :
    Outcome Builder String :=
  (b.tokens stamp template).andThen fun sequence b =>
    let source := Source.ofTokens b.options overrides sequence.tokens
    ⟨.ok source, b, [.wroteSource template source]⟩

/-- The regular expression with the given source. -/
def regex (b : Builder) (source : String) : Outcome Builder Regex :=
  (b.regexCache.regex b.limits source).within ({ b with regexCache := · })

/-- The regular expression for a template, with the names of the placeholders. -/
def compile (b : Builder) (stamp : Nat) (template : String) (overrides : Overrides) :
    Outcome Builder CompiledTemplate :=
  (b.tokens stamp template).andThen fun sequence b =>
    (b.regex (Source.ofTokens b.options overrides sequence.tokens)).map
      (⟨·, Token.names sequence.tokens⟩)

/-- Whether a text matches the regular expression with the given source. -/
def isMatch (b : Builder) (source text : String) : Outcome Builder Bool :=
  (b.regex source).map (·.isMatch text)

/-- The values that a text gives to the named groups of the regular expression with the given
source. -/
def extract (b : Builder) (source text : String) : Outcome Builder Values :=
  (b.regex source).map (·.extract text)

/-- Drops all regular expressions that are kept. The tokens stay. -/
def clearRegexes (b : Builder) : Builder :=
  { b with regexCache := {} }

end Builder

end PathTemplate
