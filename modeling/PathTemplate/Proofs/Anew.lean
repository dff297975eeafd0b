import PathTemplate.Builder
/-!
# Working things out anew

What builders answer, worked out from options alone and without anything kept: a template is split
into tokens, its source is written, and the source is compiled. A builder that only keeps what was
worked out in this way (`Builder.IsFaithful`) gives the same results, and goes on keeping no more.
-/

namespace PathTemplate

/-! ## Results from options alone -/

namespace Anew

/-- The tokens of a template. -/
def tokens (o : Options) (template : String) : Except Error (List Token) :=
  (Token.ofTemplate o template).mapError .template

/-- The regular expression with the given source. -/
def regex (limits : Regex.Limits) (source : String) : Except Error Regex :=
  match Regex.compile? limits source with
  | some r => .ok r
  | none => .error .regex

/-- The regular expression for a template, with the names of the placeholders. -/
def compile (limits : Regex.Limits) (o : Options) (template : String) (overrides : Overrides) :
    Except Error CompiledTemplate :=
  (tokens o template).bind fun ts =>
    (regex limits (Source.ofTokens o overrides ts)).map (⟨·, Token.names ts⟩)

variable {limits : Regex.Limits} {o : Options} {template : String} {overrides : Overrides}

theorem tokens_eq_ok {ts : List Token} :
    tokens o template = .ok ts ↔ Token.ofTemplate o template = .ok ts := by
  rw [tokens]
  cases Token.ofTemplate o template with
  | error e => exact iff_of_false nofun nofun
  | ok ts' =>
    constructor
    · rintro ⟨⟩
      rfl
    · rintro ⟨⟩
      rfl

theorem regex_eq_ok {source : String} {r : Regex} :
    regex limits source = .ok r ↔ Regex.compile? limits source = some r := by
  rw [regex]
  cases Regex.compile? limits source <;> simp

theorem compile_eq_ok {t : CompiledTemplate} : compile limits o template overrides = .ok t ↔
    ∃ ts, Token.ofTemplate o template = .ok ts ∧ t.names = Token.names ts ∧
      Regex.compile? limits (Source.ofTokens o overrides ts) = some t.regex := by
  rw [compile]
  constructor
  · intro h
    cases ht : tokens o template with
    | error e => rw [ht] at h; cases h
    | ok ts =>
      rw [ht] at h
      cases hr : regex limits (Source.ofTokens o overrides ts) with
      | error e => simp [Except.bind, hr, Except.map] at h
      | ok r =>
        simp only [Except.bind, hr, Except.map, Except.ok.injEq] at h
        exact ⟨ts, tokens_eq_ok.1 ht, h ▸ rfl, h ▸ regex_eq_ok.1 hr⟩
  · rintro ⟨ts, ht, hn, hr⟩
    rw [tokens_eq_ok.2 ht, Except.bind, regex_eq_ok.2 hr, Except.map, ← hn]

end Anew

/-! ## Builders that keep only what is right -/

namespace Builder

/-- All tokens that are kept are those of their template, and all regular expressions that are kept
are those of their source. -/
structure IsFaithful (b : Builder) : Prop where
  tokens : ∀ template sequence, b.tokenCache.get? template = some sequence →
    Token.ofTemplate b.options template = .ok sequence.tokens
  regex : ∀ source r, b.regexCache.get? source = some r →
    Regex.compile? b.limits source = some r

/-- A later state of a builder: the same options and limits, and still nothing kept but what is
right. -/
structure Precedes (b b' : Builder) : Prop where
  options : b'.options = b.options
  limits : b'.limits = b.limits
  faithful : b.IsFaithful → b'.IsFaithful

variable {b b' b'' : Builder} {stamp : Nat} {template : String}

theorem Precedes.refl (b : Builder) : b.Precedes b :=
  ⟨rfl, rfl, id⟩

theorem Precedes.trans (h : b.Precedes b') (h' : b'.Precedes b'') : b.Precedes b'' :=
  ⟨h'.options.trans h.options, h'.limits.trans h.limits, h'.faithful ∘ h.faithful⟩

theorem isFaithful_of_options (o : Options) : IsFaithful { options := o } :=
  ⟨nofun, nofun⟩

theorem precedes_tokens (b : Builder) (stamp : Nat) (template : String) :
    b.Precedes (b.tokens stamp template).state := by
  rw [tokens, TokenCache.tokens]
  split
  · exact .refl b
  · split
    · exact .refl b
    · next ts ht =>
      -- What is found later is the new entry, or one that was kept before.
      refine ⟨rfl, rfl, fun hb => ⟨fun template' sequence h => ?_, hb.regex⟩⟩
      rw [TokenCache.get?, Outcome.within, List.lookup_cons] at h
      split at h
      · next he =>
        cases h
        rw [eq_of_beq he]
        exact ht
      · exact hb.tokens template' sequence h

theorem precedes_regex (b : Builder) (source : String) : b.Precedes (b.regex source).state := by
  rw [regex, RegexCache.regex]
  split
  · exact .refl b
  · split
    · exact .refl b
    · next r hr =>
      refine ⟨rfl, rfl, fun hb => ⟨hb.tokens, fun source' r' h => ?_⟩⟩
      rw [RegexCache.get?, Outcome.within, List.lookup_cons] at h
      split at h
      · next he =>
        cases h
        rw [eq_of_beq he]
        exact hr
      · exact hb.regex source' r' h

theorem precedes_clearRegexes (b : Builder) : b.Precedes b.clearRegexes :=
  ⟨rfl, rfl, fun hb => ⟨hb.tokens, nofun⟩⟩

theorem precedes_andThen {α β : Type} {o : Outcome Builder α} {f : α → Builder → Outcome Builder β}
    (h : b.Precedes o.state) (hf : ∀ (a : α) (b : Builder), b.Precedes (f a b).state) :
    b.Precedes (o.andThen f).state := by
  rw [Outcome.andThen]
  split
  · exact h
  · exact h.trans (hf _ _)

theorem precedes_source (b : Builder) (stamp : Nat) (template : String) (overrides : Overrides) :
    b.Precedes (b.source stamp template overrides).state :=
  precedes_andThen (b.precedes_tokens stamp template) fun _ b => .refl b

theorem precedes_compile (b : Builder) (stamp : Nat) (template : String) (overrides : Overrides) :
    b.Precedes (b.compile stamp template overrides).state :=
  precedes_andThen (b.precedes_tokens stamp template) fun _ b => b.precedes_regex _

/-- The tokens of a template are the ones that are found anew. -/
theorem result_tokens (hb : b.IsFaithful) (stamp : Nat) (template : String) :
    (b.tokens stamp template).result.map (·.tokens) = Anew.tokens b.options template := by
  rw [tokens, TokenCache.tokens, Anew.tokens]
  split
  · next kept h =>
    rw [hb.tokens template kept h]
    rfl
  · split
    · next h => rw [h]; rfl
    · next h => rw [h]; rfl

theorem result_namesOf (hb : b.IsFaithful) (stamp : Nat) (template : String) :
    (b.namesOf stamp template).result = (Anew.tokens b.options template).map Token.names := by
  rw [← result_tokens hb stamp, namesOf, Outcome.map]
  cases (b.tokens stamp template).result <;> rfl

theorem result_source (hb : b.IsFaithful) (stamp : Nat) (template : String)
    (overrides : Overrides) : (b.source stamp template overrides).result =
      (Anew.tokens b.options template).map (Source.ofTokens b.options overrides) := by
  have ho := (b.precedes_tokens stamp template).options
  rw [← result_tokens hb stamp, source, Outcome.andThen]
  cases (b.tokens stamp template).result with
  | error e => rfl
  | ok sequence =>
    dsimp only
    rw [ho]
    rfl

/-- The regular expression with a source is the one that is compiled anew. -/
theorem result_regex (hb : b.IsFaithful) (source : String) :
    (b.regex source).result = Anew.regex b.limits source := by
  rw [regex, RegexCache.regex, Anew.regex]
  split
  · next kept h =>
    rw [hb.regex source kept h]
    rfl
  · split
    · next h => rw [h]; rfl
    · next h => rw [h]; rfl

/-- What a template is compiled to is what it is compiled to anew. -/
theorem result_compile (hb : b.IsFaithful) (stamp : Nat) (template : String)
    (overrides : Overrides) : (b.compile stamp template overrides).result =
      Anew.compile b.limits b.options template overrides := by
  have hp := b.precedes_tokens stamp template
  rw [Anew.compile, ← result_tokens hb stamp, compile, Outcome.andThen]
  cases (b.tokens stamp template).result with
  | error e => rfl
  | ok sequence =>
    have hr := result_regex (hp.faithful hb)
      (Source.ofTokens (b.tokens stamp template).state.options overrides sequence.tokens)
    dsimp only [Outcome.map, Except.map, Except.bind]
    rw [hr, hp.limits, hp.options]

end Builder

end PathTemplate
