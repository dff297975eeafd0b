import PathTemplate.Builder
import PathTemplate.Options.Settings
/-!
# Sessions

A session makes builders, compiled templates and caches, and works with them step by step. They are
numbered from 0 by kind in the order of their making; what cannot be made takes no number. Sequences
of tokens are numbered in the order in which they are first shown.
-/

namespace PathTemplate

/-- A step with a builder. -/
inductive Builder.Request where
  | options
  | tokens (template : String)
  | namesOf (template : String)
  | source (template : String) (overrides : Overrides)
  | compile (template : String) (overrides : Overrides)
  | isMatch (source text : String)
  | extract (source text : String)
  | clearRegexes
  deriving DecidableEq, Repr, Inhabited

/-- A step with a cache of tokens. -/
inductive TokenCache.Request where
  | tokens (template : String) (options : Options)
  | contains (template : String)
  deriving DecidableEq, Repr, Inhabited

/-- A step with a cache of regular expressions. -/
inductive RegexCache.Request where
  | regex (source : String)
  | clear
  deriving DecidableEq, Repr, Inhabited

/-- What is kept over the steps of a session. -/
structure Session where
  builders : List Builder := []
  templates : List CompiledTemplate := []
  tokenCaches : List TokenCache := []
  regexCaches : List RegexCache := []
  /-- The stamp for the next sequence of tokens. -/
  stamp : Nat := 0
  /-- The stamps of the sequences of tokens that have been shown, in order. -/
  shown : List Nat := []
  deriving DecidableEq, Repr, Inhabited

namespace Session

/-- Where the options of a new builder come from. -/
inductive Config where
  | standard
  | given (options : Options)
  | settings (text : String)
  deriving DecidableEq, Repr, Inhabited

/-- A step. -/
inductive Step where
  | newBuilder (config : Config)
  | builder (number : Nat) (request : Builder.Request)
  | matchTemplate (number : Nat) (text : String)
  | newTokenCache
  | tokenCache (number : Nat) (request : TokenCache.Request)
  | newRegexCache
  | regexCache (number : Nat) (request : RegexCache.Request)
  deriving DecidableEq, Repr, Inhabited

/-- What a step can answer. -/
inductive Answer where
  /-- The number of what was made. -/
  | number (n : Nat)
  | nothing
  | truth (b : Bool)
  | text (s : String)
  | names (names : List String)
  | values (v : Values)
  | options (o : Options)
  /-- Tokens, with the number of their sequence. -/
  | tokens (number : Nat) (tokens : List Token)
  /-- A compiled template with its number. -/
  | template (number : Nat) (t : CompiledTemplate)
  | regex (r : Regex)
  /-- Whether a text matches, and the values that it gives. -/
  | matched (b : Bool) (v : Values)
  deriving DecidableEq, Repr, Inhabited

/-- Why a step has no answer. -/
inductive Failure where
  /-- There is nothing with the number. -/
  | noSuchObject
  | error (e : Error)
  deriving DecidableEq, Repr, Inhabited

/-- What is told of a step. -/
structure Report where
  result : Except Failure Answer
  events : List Event := []
  /-- How much the cache that the step was with holds after it. -/
  size : Option Nat := none

/-- The builder that a configuration describes. -/
def Config.builder : Config → Except Error Builder
  | standard => .ok {}
  | given o => Builder.new o
  | settings text => (Options.ofSettings text).bind Builder.new

/-- How many sequences of tokens were made. -/
def madeBy (events : List Event) : Nat :=
  events.countP fun
    | .tokenized .. => true
    | _ => false

/-- Shows a sequence of tokens under its number. -/
def showTokens (s : Session) (sequence : TokenSequence) : Session × Answer :=
  let shown := if sequence.stamp ∈ s.shown then s.shown else s.shown ++ [sequence.stamp]
  ({ s with shown := shown }, .tokens (shown.idxOf sequence.stamp) sequence.tokens)

/-- Gives a compiled template the next number. -/
def addTemplate (s : Session) (t : CompiledTemplate) : Session × Answer :=
  ({ s with templates := s.templates ++ [t] }, .template s.templates.length t)

/-- The report of an outcome whose result is turned into an answer. -/
def report {σ α : Type} (s : Session) (o : Outcome σ α) (answer : Session → α → Session × Answer) :
    Session × Report :=
  let s := { s with stamp := s.stamp + madeBy o.events }
  match o.result with
  | .error e => (s, { result := .error (.error e), events := o.events })
  | .ok a =>
    let (s, answer) := answer s a
    (s, { result := .ok answer, events := o.events })

/-- The report of an outcome with a builder. -/
def builderReport {α : Type} (s : Session) (number : Nat) (o : Outcome Builder α)
    (answer : Session → α → Session × Answer) : Session × Report :=
  { s with builders := s.builders.set number o.state }.report o answer

/-- A step with a builder. -/
def runBuilder (s : Session) (number : Nat) (b : Builder) : Builder.Request → Session × Report
  | .options => (s, { result := .ok (.options b.options) })
  | .tokens template => s.builderReport number (b.tokens s.stamp template) showTokens
  | .namesOf template =>
    s.builderReport number (b.namesOf s.stamp template) fun s names => (s, .names names)
  | .source template overrides =>
    s.builderReport number (b.source s.stamp template overrides) fun s source => (s, .text source)
  | .compile template overrides =>
    s.builderReport number (b.compile s.stamp template overrides) addTemplate
  | .isMatch source text =>
    s.builderReport number (b.isMatch source text) fun s holds => (s, .truth holds)
  | .extract source text =>
    s.builderReport number (b.extract source text) fun s values => (s, .values values)
  | .clearRegexes =>
    ({ s with builders := s.builders.set number b.clearRegexes }, { result := .ok .nothing })

/-- A step with a cache of tokens. -/
def runTokenCache (s : Session) (number : Nat) (c : TokenCache) :
    TokenCache.Request → Session × Report
  | .tokens template options =>
    let o := c.tokens options s.stamp template
    let (s, r) := { s with tokenCaches := s.tokenCaches.set number o.state }.report o showTokens
    (s, { r with size := some o.state.size })
  | .contains template =>
    (s, { result := .ok (.truth (c.contains template)), size := some c.size })

/-- A step with a cache of regular expressions. -/
def runRegexCache (s : Session) (number : Nat) (c : RegexCache) :
    RegexCache.Request → Session × Report
  | .regex source =>
    let o := c.regex {} source
    let (s, r) := { s with regexCaches := s.regexCaches.set number o.state }.report o
      fun s r => (s, .regex r)
    (s, { r with size := some o.state.size })
  | .clear =>
    ({ s with regexCaches := s.regexCaches.set number {} },
      { result := .ok .nothing, size := some 0 })

/-- Runs a step. -/
def run (s : Session) : Step → Session × Report
  | .newBuilder config =>
    match config.builder with
    | .error e => (s, { result := .error (.error e) })
    | .ok b =>
      ({ s with builders := s.builders ++ [b] }, { result := .ok (.number s.builders.length) })
  | .builder number request =>
    match s.builders[number]? with
    | none => (s, { result := .error .noSuchObject })
    | some b => s.runBuilder number b request
  | .matchTemplate number text =>
    match s.templates[number]? with
    | none => (s, { result := .error .noSuchObject })
    | some t => (s, { result := .ok (.matched (t.isMatch text) (t.values text)) })
  | .newTokenCache =>
    ({ s with tokenCaches := s.tokenCaches ++ [{}] },
      { result := .ok (.number s.tokenCaches.length) })
  | .tokenCache number request =>
    match s.tokenCaches[number]? with
    | none => (s, { result := .error .noSuchObject })
    | some c => s.runTokenCache number c request
  | .newRegexCache =>
    ({ s with regexCaches := s.regexCaches ++ [{}] },
      { result := .ok (.number s.regexCaches.length) })
  | .regexCache number request =>
    match s.regexCaches[number]? with
    | none => (s, { result := .error .noSuchObject })
    | some c => s.runRegexCache number c request

/-- Runs steps one after the other. -/
def runAll (s : Session) : List Step → List Report
  | [] => []
  | step :: steps =>
    let (s, report) := s.run step
    report :: s.runAll steps

end Session

end PathTemplate
