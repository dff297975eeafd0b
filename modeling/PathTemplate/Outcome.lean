import PathTemplate.Error
/-!
# Outcomes

What comes of an operation on something that keeps what it has worked out: a result, the new state
and the events on the way. An operation that fails can still have changed the state.
-/

namespace PathTemplate

/-- What is told about work that was done or saved. -/
inductive Event where
  /-- The tokens of a template were known. -/
  | tokensKnown (template : String)
  /-- A template was split into tokens. -/
  | tokenized (template : String) (count : Nat)
  /-- A regular expression was compiled. -/
  | compiledRegex (source : String)
  /-- The source for a template was written. -/
  | wroteSource (template source : String)
  deriving DecidableEq, Repr, Inhabited

namespace Event

/-- The event in words. -/
def message : Event → String
  | tokensKnown template => s!"token cache hit: {Text.quoted template}"
  | tokenized template count => s!"tokenized {Text.quoted template} into {count} tokens"
  | compiledRegex source => s!"compiled regex {Text.quoted source}"
  | wroteSource template source => s!"compiled {Text.quoted template} to {Text.quoted source}"

/-- How much the event matters. -/
def level : Event → String
  | tokensKnown _ => "TRACE"
  | _ => "DEBUG"

end Event

/-- A result, the state after it, and the events on the way. -/
structure Outcome (σ α : Type) where
  result : Except Error α
  state : σ
  events : List Event := []

namespace Outcome

variable {σ τ α β : Type}

/-- The outcome with another result. -/
def map (f : α → β) (o : Outcome σ α) : Outcome σ β :=
  ⟨o.result.map f, o.state, o.events⟩

/-- The outcome seen as one of a larger state. -/
def within (put : σ → τ) (o : Outcome σ α) : Outcome τ α :=
  ⟨o.result, put o.state, o.events⟩

/-- Goes on from a result and a state. A failure stays as it is. -/
def andThen (o : Outcome σ α) (f : α → σ → Outcome σ β) : Outcome σ β :=
  match o.result with
  | .error e => ⟨.error e, o.state, o.events⟩
  | .ok a =>
    let next := f a o.state
    ⟨next.result, next.state, o.events ++ next.events⟩

end Outcome

end PathTemplate
