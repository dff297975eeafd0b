import PathTemplate.Outcome
import PathTemplate.Regex
import PathTemplate.Token.Lexer
/-!
# Caches

Tokens are kept by template and regular expressions by source. What fails is not kept, and what is
kept is never worked out again until it is dropped.

The options are not part of a template's key: whoever shares a cache of tokens gets those that were
found first. Each splitting of a template into tokens has a stamp, so that the same tokens can be
told from equal ones that were found another time.
-/

namespace PathTemplate

/-- The tokens of a template, with the stamp of their making. -/
structure TokenSequence where
  stamp : Nat
  tokens : List Token
  deriving DecidableEq, Repr, Inhabited

/-- Tokens by template, latest first. -/
structure TokenCache where
  entries : List (String × TokenSequence) := []
  deriving DecidableEq, Repr, Inhabited

namespace TokenCache

/-- The number of templates. -/
def size (c : TokenCache) : Nat :=
  c.entries.length

/-- The tokens that are kept for a template. -/
def get? (c : TokenCache) (template : String) : Option TokenSequence :=
  c.entries.lookup template

/-- Whether tokens are kept for a template. -/
def contains (c : TokenCache) (template : String) : Bool :=
  (c.get? template).isSome

/-- The tokens of a template, found now under the given stamp unless they are kept. -/
def tokens (c : TokenCache) (o : Options) (stamp : Nat) (template : String) :
    Outcome TokenCache TokenSequence :=
  match c.get? template with
  | some kept => ⟨.ok kept, c, [.tokensKnown template]⟩
  | none =>
    match Token.ofTemplate o template with
    | .error e => ⟨.error (.template e), c, []⟩
    | .ok tokens =>
      ⟨.ok ⟨stamp, tokens⟩, ⟨(template, ⟨stamp, tokens⟩) :: c.entries⟩,
        [.tokenized template tokens.length]⟩

end TokenCache

/-- Regular expressions by source, latest first. -/
structure RegexCache where
  entries : List (String × Regex) := []
  deriving DecidableEq, Repr, Inhabited

namespace RegexCache

/-- The number of sources. -/
def size (c : RegexCache) : Nat :=
  c.entries.length

/-- The regular expression that is kept for a source. -/
def get? (c : RegexCache) (source : String) : Option Regex :=
  c.entries.lookup source

/-- The regular expression with the given source, compiled now unless it is kept. -/
def regex (c : RegexCache) (limits : Regex.Limits) (source : String) : Outcome RegexCache Regex :=
  match c.get? source with
  | some kept => ⟨.ok kept, c, []⟩
  | none =>
    match Regex.compile? limits source with
    | none => ⟨.error .regex, c, []⟩
    | some r => ⟨.ok r, ⟨(source, r) :: c.entries⟩, [.compiledRegex source]⟩

end RegexCache

end PathTemplate
