import Mathlib.Data.Set.Card
import PathTemplate.Proofs.Histories
/-!
# What caches of tokens remember

A cache of tokens answers a template as it did when the template was first split with success,
whatever the options of the later calls are. So it is told by the history of a session: it holds the
templates that were split, and who asks for one of them is shown the sequence that was shown first
(`Session.tokens_by_history`).

A session has many keepers of tokens, caches of its own and builders. They get the stamps for their
sequences from one count, so that no two sequences have the same stamp. A step asks one keeper for
one template at most (`Session.cachesAfter_run`), and all else is derived from that.
-/

namespace PathTemplate

/-! ## One cache -/

namespace TokenCache

/-- The templates that tokens are kept for. -/
def templates (c : TokenCache) : List String :=
  c.entries.map (·.1)

/-- What can come of asking for the tokens of a template: they are known, or there are none, or they
are made. -/
inductive Reply (c : TokenCache) (o : Options) (stamp : Nat) (template : String) :
    Outcome TokenCache TokenSequence → Prop
  | known {q : TokenSequence} (hk : c.get? template = some q) :
    Reply c o stamp template ⟨.ok q, c, [.tokensKnown template]⟩
  | failed {e : TemplateError} (hk : c.get? template = none)
    (ht : Token.ofTemplate o template = .error e) :
    Reply c o stamp template ⟨.error (.template e), c, []⟩
  | made {ts : List Token} (hk : c.get? template = none)
    (ht : Token.ofTemplate o template = .ok ts) :
    Reply c o stamp template
      ⟨.ok ⟨stamp, ts⟩, ⟨(template, ⟨stamp, ts⟩) :: c.entries⟩, [.tokenized template ts.length]⟩

theorem reply (c : TokenCache) (o : Options) (stamp : Nat) (template : String) :
    Reply c o stamp template (c.tokens o stamp template) := by
  rw [tokens]
  split
  · next hk => exact .known hk
  · next hk =>
    split
    · next ht => exact .failed hk ht
    · next ht => exact .made hk ht

variable {c : TokenCache} {template : String}

theorem mem_templates_iff : template ∈ c.templates ↔ (c.get? template).isSome = true := by
  rw [get?, List.lookup_isSome_iff, templates, List.mem_map]
  simp only [beq_iff_eq, eq_comm (a := template)]

theorem get?_cons (entries : List (String × TokenSequence)) (q : TokenSequence)
    (template' : String) : get? ⟨(template, q) :: entries⟩ template' =
      if template' = template then some q else get? ⟨entries⟩ template' := by
  rw [get?, List.lookup_cons]
  by_cases h : template' = template
  · simp [h]
  · rw [if_neg h, beq_false_of_ne h]
    rfl

theorem nodup_templates_tokens (h : c.templates.Nodup) (o : Options) (stamp : Nat)
    (template : String) : (c.tokens o stamp template).state.templates.Nodup := by
  have hr := c.reply o stamp template
  generalize c.tokens o stamp template = out at hr
  cases hr with
  | known => exact h
  | failed => exact h
  | made hk ht =>
    refine List.nodup_cons.2 ⟨fun hm => ?_, h⟩
    have := mem_templates_iff.1 hm
    rw [hk] at this
    cases this

end TokenCache

/-! ## Keepers of tokens -/

namespace Builder

/-- The template that a request needs the tokens of. -/
def Request.template? : Request → Option String
  | .tokens template => some template
  | .namesOf template => some template
  | .source template _ => some template
  | .compile template _ => some template
  | _ => none

end Builder

namespace Session

/-- Who keeps tokens: a cache of its own, or a builder. -/
inductive Keeper where
  | cache (number : Nat)
  | builder (number : Nat)
  deriving DecidableEq, Repr, Inhabited

/-- The cache of a keeper. -/
def cacheOf (s : Session) : Keeper → Option TokenCache
  | .cache number => s.tokenCaches[number]?
  | .builder number => s.builders[number]?.map (·.tokenCache)

/-- The tokens that a keeper has for a template. -/
def kept (s : Session) (k : Keeper) (template : String) : Option TokenSequence :=
  (s.cacheOf k).bind (·.get? template)

/-- The keeper that a step asks for tokens, and the template that it asks for. -/
def Step.asks? : Step → Option (Keeper × String)
  | .tokenCache number (.tokens template _) => some (.cache number, template)
  | .builder number request => request.template?.map (.builder number, ·)
  | _ => none

/-- What a step does to the keepers of tokens. It leaves them as they are, apart from a new one that
keeps nothing, or it asks one of them, and that one goes on as its answer says. -/
inductive CachesAfter (s s' : Session) (step : Step) : Prop
  | same (hstamp : s'.stamp = s.stamp)
    (hcache : ∀ k, s'.cacheOf k = s.cacheOf k ∨ s.cacheOf k = none ∧ s'.cacheOf k = some {})
  | asked {k : Keeper} {template : String} {o : Options} {c : TokenCache}
    (ha : step.asks? = some (k, template)) (hc : s.cacheOf k = some c)
    (hstamp : s'.stamp = s.stamp + madeBy (c.tokens o s.stamp template).events)
    (hcache : ∀ k', s'.cacheOf k' =
      if k' = k then some (c.tokens o s.stamp template).state else s.cacheOf k')

/-- A session that differs from another one at most in what has been shown and compiled. -/
structure OnlyShows (s s' : Session) : Prop where
  builders : s'.builders = s.builders
  tokenCaches : s'.tokenCaches = s.tokenCaches
  stamp : s'.stamp = s.stamp

variable {s s' : Session} {number : Nat} {step : Step}

theorem OnlyShows.cacheOf (h : s.OnlyShows s') (k : Keeper) : s'.cacheOf k = s.cacheOf k := by
  cases k with
  | cache number => rw [Session.cacheOf, h.tokenCaches]; rfl
  | builder number => rw [Session.cacheOf, h.builders]; rfl

theorem madeBy_append (es es' : List Event) : madeBy (es ++ es') = madeBy es + madeBy es' :=
  List.countP_append

/-- No tokens are made for a regular expression. -/
theorem madeBy_regex (c : RegexCache) (limits : Regex.Limits) (source : String) :
    madeBy (c.regex limits source).events = 0 := by
  rw [RegexCache.regex]
  split
  · rfl
  · split <;> rfl

end Session

namespace Outcome

variable {α β σ : Type}

theorem exists_of_map_eq_ok {o : Outcome σ α} {f : α → β} {y : β}
    (h : (o.map f).result = .ok y) : ∃ x, o.result = .ok x ∧ f x = y := by
  rw [map] at h
  cases hr : o.result with
  | error e => rw [hr] at h; cases h
  | ok x => rw [hr] at h; exact ⟨x, rfl, Except.ok.inj h⟩

/-- What goes on without tokens leaves the cache of tokens alone. -/
theorem tokenCache_andThen {o : Outcome Builder α} {f : α → Builder → Outcome Builder β}
    (hf : ∀ a b, (f a b).state.tokenCache = b.tokenCache) :
    (o.andThen f).state.tokenCache = o.state.tokenCache := by
  rw [andThen]
  split
  · rfl
  · exact hf _ _

theorem madeBy_andThen {o : Outcome σ α} {f : α → σ → Outcome σ β}
    (hf : ∀ a x, Session.madeBy (f a x).events = 0) :
    Session.madeBy (o.andThen f).events = Session.madeBy o.events := by
  rw [andThen]
  split
  · rfl
  · rw [Session.madeBy_append, hf, Nat.add_zero]

end Outcome

namespace Builder

variable {b : Builder} {stamp : Nat}

/-- A request asks for the tokens of its template, and does nothing else with them. -/
theorem tokenCache_respond (b : Builder) (stamp : Nat) (request : Request) :
    match request.template? with
    | none => (b.respond stamp request).state.tokenCache = b.tokenCache ∧
        Session.madeBy (b.respond stamp request).events = 0
    | some template =>
      (b.respond stamp request).state.tokenCache =
          (b.tokenCache.tokens b.options stamp template).state ∧
        Session.madeBy (b.respond stamp request).events =
          Session.madeBy (b.tokenCache.tokens b.options stamp template).events := by
  cases request with
  | options => exact ⟨rfl, rfl⟩
  | clearRegexes => exact ⟨rfl, rfl⟩
  | isMatch source text => exact ⟨rfl, Session.madeBy_regex b.regexCache b.limits source⟩
  | extract source text => exact ⟨rfl, Session.madeBy_regex b.regexCache b.limits source⟩
  | tokens template => exact ⟨rfl, rfl⟩
  | namesOf template => exact ⟨rfl, rfl⟩
  | source template overrides =>
    have he : Session.madeBy (b.source stamp template overrides).events =
        Session.madeBy (b.tokens stamp template).events :=
      Outcome.madeBy_andThen fun _ _ => rfl
    exact ⟨Outcome.tokenCache_andThen fun _ _ => rfl, he⟩
  | compile template overrides =>
    have he : Session.madeBy (b.compile stamp template overrides).events =
        Session.madeBy (b.tokens stamp template).events :=
      Outcome.madeBy_andThen fun _ b => Session.madeBy_regex b.regexCache b.limits _
    exact ⟨Outcome.tokenCache_andThen fun _ _ => rfl, he⟩

/-- The answer to a request is only shown. -/
theorem onlyShows_respond {request : Request} {f : Session → Session × Session.Answer}
    (hf : (b.respond stamp request).result = .ok f) (s : Session) : s.OnlyShows (f s).1 := by
  cases request with
  | options => cases hf; exact ⟨rfl, rfl, rfl⟩
  | clearRegexes => cases hf; exact ⟨rfl, rfl, rfl⟩
  | _ =>
    obtain ⟨x, -, rfl⟩ := Outcome.exists_of_map_eq_ok hf
    exact ⟨rfl, rfl, rfl⟩

/-- Only a request for tokens shows any. -/
theorem shown_respond {request : Request} {f : Session → Session × Session.Answer}
    (hq : ∀ template, request ≠ .tokens template) (hf : (b.respond stamp request).result = .ok f)
    (s : Session) : (f s).1.shown = s.shown ∧ ∀ n ts, (f s).2 ≠ .tokens n ts := by
  cases request with
  | options => cases hf; exact ⟨rfl, by rintro _ _ ⟨⟩⟩
  | clearRegexes => cases hf; exact ⟨rfl, by rintro _ _ ⟨⟩⟩
  | tokens template => exact absurd rfl (hq template)
  | _ =>
    obtain ⟨x, -, rfl⟩ := Outcome.exists_of_map_eq_ok hf
    exact ⟨rfl, by rintro _ _ ⟨⟩⟩

end Builder

namespace Session

variable {s s' : Session} {number : Nat} {step : Step}

/-- A report shows its answer, after the stamps that were given out. -/
theorem onlyShows_report {σ α : Type} (s : Session) (o : Outcome σ α)
    (answer : Session → α → Session × Answer)
    (ha : ∀ a, o.result = .ok a → ∀ s : Session, s.OnlyShows (answer s a).1) :
    OnlyShows { s with stamp := s.stamp + madeBy o.events } (s.report o answer).1 := by
  unfold report
  cases hr : o.result with
  | error e => exact ⟨rfl, rfl, rfl⟩
  | ok a => exact ha a hr _

theorem onlyShows_showTokens (s : Session) (q : TokenSequence) :
    s.OnlyShows (s.showTokens q).1 :=
  ⟨rfl, rfl, rfl⟩

theorem cacheOf_set_builder {b : Builder} (hb : s.builders[number]? = some b) (b' : Builder)
    (stamp : Nat) (k : Keeper) :
    cacheOf { s with builders := s.builders.set number b', stamp := stamp } k =
      if k = .builder number then some b'.tokenCache else s.cacheOf k := by
  obtain ⟨hlt, -⟩ := List.getElem?_eq_some_iff.1 hb
  cases k with
  | cache n => rfl
  | builder n =>
    rw [cacheOf, List.getElem?_set]
    by_cases h : n = number
    · subst h
      simp [hlt]
    · rw [if_neg (Ne.symm h), if_neg (by simpa using h)]
      rfl

theorem cacheOf_set_cache {c : TokenCache} (hc : s.tokenCaches[number]? = some c)
    (c' : TokenCache) (stamp : Nat) (k : Keeper) :
    cacheOf { s with tokenCaches := s.tokenCaches.set number c', stamp := stamp } k =
      if k = .cache number then some c' else s.cacheOf k := by
  obtain ⟨hlt, -⟩ := List.getElem?_eq_some_iff.1 hc
  cases k with
  | builder n => rfl
  | cache n =>
    rw [cacheOf, List.getElem?_set]
    by_cases h : n = number
    · subst h
      simp [hlt]
    · rw [if_neg (Ne.symm h), if_neg (by simpa using h)]
      rfl

theorem cachesAfter_runBuilder {b : Builder} (hb : s.builders[number]? = some b)
    (request : Builder.Request) :
    CachesAfter s (s.runBuilder number b request).1 (.builder number request) := by
  have ho := onlyShows_report
    { s with builders := s.builders.set number (b.respond s.stamp request).state }
    (b.respond s.stamp request) (fun s f => f s) fun f hf s => Builder.onlyShows_respond hf s
  have hs : (s.runBuilder number b request).1 = _ := congrArg Prod.fst (runBuilder_eq hb request)
  rw [hs]
  have ht := b.tokenCache_respond s.stamp request
  cases hr : request.template? with
  | none =>
    rw [hr] at ht
    refine .same ?_ fun k => .inl ?_
    · rw [builderReport, ho.stamp, ht.2, Nat.add_zero]
    · rw [builderReport, ho.cacheOf, cacheOf_set_builder hb, ht.1]
      split
      · next h => rw [h, cacheOf, hb]; rfl
      · rfl
  | some template =>
    rw [hr] at ht
    have ha : Step.asks? (.builder number request) = some (.builder number, template) := by
      rw [Step.asks?, hr]
      rfl
    have hc : s.cacheOf (.builder number) = some b.tokenCache := by
      rw [cacheOf, hb]
      rfl
    refine .asked (o := b.options) ha hc ?_ fun k => ?_
    · rw [builderReport, ho.stamp, ht.2]
    · rw [builderReport, ho.cacheOf, cacheOf_set_builder hb, ht.1]

theorem cachesAfter_runTokenCache {c : TokenCache} (hc : s.tokenCaches[number]? = some c)
    (request : TokenCache.Request) :
    CachesAfter s (s.runTokenCache number c request).1 (.tokenCache number request) := by
  cases request with
  | contains template => exact .same rfl fun _ => .inl rfl
  | tokens template o =>
    have ho := onlyShows_report
      { s with tokenCaches := s.tokenCaches.set number (c.tokens o s.stamp template).state }
      (c.tokens o s.stamp template) showTokens fun q _ s => s.onlyShows_showTokens q
    refine .asked (k := .cache number) (o := o) rfl hc ho.stamp fun k => ?_
    exact (ho.cacheOf k).trans (cacheOf_set_cache hc _ _ k)

theorem cachesAfter_runRegexCache (c : RegexCache) (request : RegexCache.Request) :
    CachesAfter s (s.runRegexCache number c request).1 (.regexCache number request) := by
  cases request with
  | clear => exact .same rfl fun k => .inl (by cases k <;> rfl)
  | regex source =>
    have ho := onlyShows_report
      { s with regexCaches := s.regexCaches.set number (c.regex {} source).state }
      (c.regex {} source) (fun s r => (s, .regex r)) fun _ _ _ => ⟨rfl, rfl, rfl⟩
    refine .same ?_ fun k => .inl ((ho.cacheOf k).trans (by cases k <;> rfl))
    exact ho.stamp.trans (by rw [madeBy_regex]; rfl)

/-- A step asks one keeper for the tokens of one template at most. -/
theorem cachesAfter_run (s : Session) (step : Step) : CachesAfter s (s.run step).1 step := by
  cases step with
  | newBuilder config =>
    rw [run]
    cases hb : config.builder with
    | error e => exact .same rfl fun _ => .inl rfl
    | ok b =>
      refine .same rfl fun k => ?_
      cases k with
      | cache n => exact .inl rfl
      | builder n =>
        simp only [cacheOf]
        obtain h | ⟨h, h'⟩ := getElem?_concat_cases s.builders b n
        · exact .inl (by rw [h])
        · have ht : b.tokenCache = {} := by rw [Config.eq_of_builder hb]
          exact .inr ⟨by rw [h]; rfl, by rw [h', Option.map_some, ht]⟩
  | builder number request =>
    rw [run]
    cases hb : s.builders[number]? with
    | none => exact .same rfl fun _ => .inl rfl
    | some b => exact cachesAfter_runBuilder hb request
  | matchTemplate number text =>
    rw [run]
    cases s.templates[number]? <;> exact .same rfl fun _ => .inl rfl
  | newTokenCache =>
    refine .same rfl fun k => ?_
    cases k with
    | builder n => exact .inl rfl
    | cache n => exact getElem?_concat_cases s.tokenCaches {} n
  | newRegexCache => exact .same rfl fun k => .inl (by cases k <;> rfl)
  | tokenCache number request =>
    rw [run]
    cases hc : s.tokenCaches[number]? with
    | none => exact .same rfl fun _ => .inl rfl
    | some c => exact cachesAfter_runTokenCache hc request
  | regexCache number request =>
    rw [run]
    cases s.regexCaches[number]? with
    | none => exact .same rfl fun _ => .inl rfl
    | some c => exact cachesAfter_runRegexCache c request

/-! ## Stamps -/

theorem kept_eq_of_cacheOf_eq {k : Keeper} (h : s'.cacheOf k = s.cacheOf k) (template : String) :
    s'.kept k template = s.kept k template := by
  rw [kept, h]
  rfl

theorem kept_cache {c : TokenCache} (hc : s.tokenCaches[number]? = some c) (template : String) :
    s.kept (.cache number) template = c.get? template := by
  rw [kept, cacheOf, hc]
  rfl

/-- A step leaves all tokens that are kept, or it makes some for a template that its keeper had none
for, under the next stamp. -/
theorem CachesAfter.kept (h : CachesAfter s s' step) :
    (s'.stamp = s.stamp ∧ ∀ k template, s'.kept k template = s.kept k template) ∨
      ∃ k template ts, step.asks? = some (k, template) ∧ s.kept k template = none ∧
        s'.stamp = s.stamp + 1 ∧ ∀ k' template', s'.kept k' template' =
          if k' = k ∧ template' = template then some ⟨s.stamp, ts⟩ else s.kept k' template' := by
  cases h with
  | same hstamp hcache =>
    refine .inl ⟨hstamp, fun k template => ?_⟩
    obtain h | ⟨h, h'⟩ := hcache k
    · exact kept_eq_of_cacheOf_eq h template
    · rw [Session.kept, Session.kept, h, h']
      rfl
  | @asked k template o c ha hc hstamp hcache =>
    have hr := c.reply o s.stamp template
    generalize c.tokens o s.stamp template = out at hr hstamp hcache
    have hsame (he : out.state = c) (k' : Keeper) (template' : String) :
        s'.kept k' template' = s.kept k' template' := by
      refine kept_eq_of_cacheOf_eq ?_ template'
      rw [hcache, he]
      split
      · next h => rw [h, hc]
      · rfl
    cases hr with
    | known => exact .inl ⟨hstamp, hsame rfl⟩
    | failed => exact .inl ⟨hstamp, hsame rfl⟩
    | @made ts hk ht =>
      refine .inr ⟨k, template, ts, ha, by rw [Session.kept, hc]; exact hk, hstamp, ?_⟩
      intro k' template'
      rw [Session.kept, hcache]
      by_cases h : k' = k
      · subst h
        rw [if_pos rfl, Option.bind_some, TokenCache.get?_cons, Session.kept, hc]
        simp
      · rw [if_neg h, if_neg fun h' => h h'.1]
        rfl

/-- No template is listed twice by a keeper, and no stamp was given out twice. -/
structure IsOrderly (s : Session) : Prop where
  nodup : ∀ k c, s.cacheOf k = some c → c.templates.Nodup
  lt : ∀ k template q, s.kept k template = some q → q.stamp < s.stamp
  unique : ∀ {k template q k' template' q'}, s.kept k template = some q →
    s.kept k' template' = some q' → q.stamp = q'.stamp → k = k' ∧ template = template'

theorem isOrderly_empty : IsOrderly {} where
  nodup k c h := by cases k <;> cases h
  lt k template q h := by cases k <;> cases h
  unique {k} _ _ _ _ _ h := by cases k <;> cases h

theorem IsOrderly.after (hs : s.IsOrderly) (h : CachesAfter s s' step) : s'.IsOrderly where
  nodup := by
    intro k c' hc'
    cases h with
    | same hstamp hcache =>
      obtain h | ⟨-, h⟩ := hcache k
      · exact hs.nodup k c' (h ▸ hc')
      · rw [h] at hc'
        cases hc'
        exact List.nodup_nil
    | asked ha hc hstamp hcache =>
      rw [hcache] at hc'
      split at hc'
      · cases hc'
        exact TokenCache.nodup_templates_tokens (hs.nodup _ _ hc) _ _ _
      · exact hs.nodup k c' hc'
  lt := by
    intro k template q hq
    rcases h.kept with ⟨hstamp, hk⟩ | ⟨k₀, template₀, ts, -, -, hstamp, hk⟩
    · rw [hstamp]
      exact hs.lt k template q (hk k template ▸ hq)
    · rw [hk] at hq
      split at hq
      · cases hq
        rw [hstamp]
        exact Nat.lt_succ_self _
      · have := hs.lt k template q hq
        omega
  unique := by
    intro k template q k' template' q' hq hq' he
    rcases h.kept with ⟨-, hk⟩ | ⟨k₀, template₀, ts, -, -, -, hk⟩
    · rw [hk] at hq hq'
      exact hs.unique hq hq' he
    · rw [hk] at hq hq'
      split at hq <;> split at hq'
      · next h h' => exact ⟨h.1.trans h'.1.symm, h.2.trans h'.2.symm⟩
      · -- What was kept before has an earlier stamp.
        cases hq
        exact absurd he.symm (Nat.ne_of_lt (hs.lt _ _ _ hq'))
      · cases hq'
        exact absurd he (Nat.ne_of_lt (hs.lt _ _ _ hq))
      · exact hs.unique hq hq' he

/-! ## What has been shown -/

theorem get?_of_result_tokens {c : TokenCache} {o : Options} {stamp : Nat} {template : String}
    {q : TokenSequence} (h : (c.tokens o stamp template).result = .ok q) :
    (c.tokens o stamp template).state.get? template = some q := by
  have hr := c.reply o stamp template
  generalize c.tokens o stamp template = out at hr h
  cases hr with
  | known hk => cases h; exact hk
  | failed => cases h
  | made => cases h; rw [TokenCache.get?_cons, if_pos rfl]

/-- What a step shows of tokens: nothing, or a sequence that its keeper has, under the number of its
stamp. -/
inductive ShownAfter (s s' : Session) (step : Step) (r : Report) : Prop
  | same (hshown : s'.shown = s.shown) (hr : ∀ n ts, r.result ≠ .ok (.tokens n ts))
  | shows {k : Keeper} {template : String} {q : TokenSequence}
    (ha : step.asks? = some (k, template)) (hk : s'.kept k template = some q)
    (hshown : s'.shown = if q.stamp ∈ s.shown then s.shown else s.shown ++ [q.stamp])
    (hr : r.result = .ok (.tokens (s'.shown.idxOf q.stamp) q.tokens))

theorem shownAfter_report {σ : Type} {s₁ : Session} {out : Outcome σ TokenSequence} {r : Report}
    (k : Keeper) (template : String) (ha : step.asks? = some (k, template))
    (hs : s₁.shown = s.shown)
    (hk : ∀ q, out.result = .ok q → (s₁.report out showTokens).1.kept k template = some q)
    (hr : r.result = (s₁.report out showTokens).2.result) :
    ShownAfter s (s₁.report out showTokens).1 step r := by
  unfold report at hk hr ⊢
  cases ho : out.result with
  | error e =>
    rw [ho] at hr
    exact .same hs fun n ts h => by rw [hr] at h; cases h
  | ok q =>
    rw [ho] at hk hr
    refine .shows (q := q) ha (hk q rfl) ?_ hr
    rw [← hs]
    rfl

theorem shownAfter_runBuilder {b : Builder} (hb : s.builders[number]? = some b)
    (request : Builder.Request) :
    ShownAfter s (s.runBuilder number b request).1 (.builder number request)
      (s.runBuilder number b request).2 := by
  by_cases hq : ∃ template, request = .tokens template
  · obtain ⟨template, rfl⟩ := hq
    refine shownAfter_report (.builder number) template rfl rfl ?_ rfl
    intro q hq
    have ho := onlyShows_report
      { s with builders := s.builders.set number (b.tokens s.stamp template).state }
      (b.tokens s.stamp template) showTokens fun q _ s => s.onlyShows_showTokens q
    rw [kept, ho.cacheOf, cacheOf_set_builder hb, if_pos rfl]
    exact get?_of_result_tokens hq
  · rw [runBuilder_eq hb]
    unfold builderReport report
    cases hf : (b.respond s.stamp request).result with
    | error e => exact .same rfl (by rintro _ _ ⟨⟩)
    | ok f =>
      have hs := Builder.shown_respond (fun t ht => hq ⟨t, ht⟩) hf
      exact .same (hs _).1 fun n ts h => (hs _).2 n ts (Except.ok.inj h)

theorem shownAfter_runTokenCache {c : TokenCache} (hc : s.tokenCaches[number]? = some c)
    (request : TokenCache.Request) :
    ShownAfter s (s.runTokenCache number c request).1 (.tokenCache number request)
      (s.runTokenCache number c request).2 := by
  cases request with
  | contains template => exact .same rfl (by rintro _ _ ⟨⟩)
  | tokens template o =>
    refine shownAfter_report (.cache number) template rfl rfl ?_ rfl
    intro q hq
    have ho := onlyShows_report
      { s with tokenCaches := s.tokenCaches.set number (c.tokens o s.stamp template).state }
      (c.tokens o s.stamp template) showTokens fun q _ s => s.onlyShows_showTokens q
    rw [kept, ho.cacheOf, cacheOf_set_cache hc, if_pos rfl]
    exact get?_of_result_tokens hq

/-- A step shows no tokens, or the ones that it asked for. -/
theorem shownAfter_run (s : Session) (step : Step) :
    ShownAfter s (s.run step).1 step (s.run step).2 := by
  cases step with
  | newBuilder config =>
    rw [run]
    cases config.builder <;> exact .same rfl (by rintro _ _ ⟨⟩)
  | builder number request =>
    rw [run]
    cases hb : s.builders[number]? with
    | none => exact .same rfl (by rintro _ _ ⟨⟩)
    | some b => exact shownAfter_runBuilder hb request
  | matchTemplate number text =>
    rw [run]
    cases s.templates[number]? <;> exact .same rfl (by rintro _ _ ⟨⟩)
  | newTokenCache => exact .same rfl (by rintro _ _ ⟨⟩)
  | newRegexCache => exact .same rfl (by rintro _ _ ⟨⟩)
  | tokenCache number request =>
    rw [run]
    cases hc : s.tokenCaches[number]? with
    | none => exact .same rfl (by rintro _ _ ⟨⟩)
    | some c => exact shownAfter_runTokenCache hc request
  | regexCache number request =>
    rw [run]
    cases s.regexCaches[number]? with
    | none => exact .same rfl (by rintro _ _ ⟨⟩)
    | some c =>
      cases request with
      | clear => exact .same rfl (by rintro _ _ ⟨⟩)
      | regex source =>
        dsimp only [runRegexCache]
        unfold report
        cases (c.regex {} source).result <;> exact .same rfl (by rintro _ _ ⟨⟩)

/-- The keeper has the tokens for the template, and they have been shown under the number. -/
def IsShown (s : Session) (k : Keeper) (template : String) (n : Nat) (ts : List Token) : Prop :=
  ∃ q, s.kept k template = some q ∧ s.shown[n]? = some q.stamp ∧ q.tokens = ts

variable {k k' : Keeper} {template template' : String} {n n' : Nat} {ts ts' : List Token}
  {r : Report}

theorem CachesAfter.kept_eq_some (h : CachesAfter s s' step) {q : TokenSequence}
    (hq : s.kept k template = some q) : s'.kept k template = some q := by
  rcases h.kept with ⟨-, hk⟩ | ⟨k₀, template₀, ts, -, hnone, -, hk⟩
  · rw [hk, hq]
  · rw [hk, if_neg, hq]
    rintro ⟨rfl, rfl⟩
    rw [hnone] at hq
    cases hq

theorem ShownAfter.prefix (h : ShownAfter s s' step r) : s.shown <+: s'.shown := by
  cases h with
  | same hshown => rw [hshown]
  | shows ha hk hshown =>
    rw [hshown]
    split
    · exact List.prefix_rfl
    · exact List.prefix_append _ _

theorem ShownAfter.nodup (h : ShownAfter s s' step r) (hs : s.shown.Nodup) : s'.shown.Nodup := by
  cases h with
  | same hshown => rwa [hshown]
  | shows ha hk hshown =>
    rw [hshown]
    split
    · exact hs
    · next hm =>
      rw [← List.concat_eq_append]
      exact List.Nodup.concat hm hs

theorem IsShown.after (h : s.IsShown k template n ts) (hc : CachesAfter s s' step)
    (hshown : ShownAfter s s' step r) : s'.IsShown k template n ts := by
  obtain ⟨q, hq, hn, hts⟩ := h
  obtain ⟨hlt, -⟩ := List.getElem?_eq_some_iff.1 hn
  obtain ⟨later, he⟩ := hshown.prefix
  refine ⟨q, hc.kept_eq_some hq, ?_, hts⟩
  rw [← he, List.getElem?_append_left hlt, hn]

/-- What a step shows is what the keeper that it asks has for the template. -/
theorem ShownAfter.isShown (h : ShownAfter s s' step r) (hr : r.result = .ok (.tokens n ts)) :
    ∃ k template, step.asks? = some (k, template) ∧ s'.IsShown k template n ts := by
  cases h with
  | same _ hnone => exact absurd hr (hnone n ts)
  | @shows k template q ha hk hshown hr' =>
    rw [hr'] at hr
    cases hr
    refine ⟨k, template, ha, q, hk, ?_, rfl⟩
    have hm : q.stamp ∈ s'.shown := by
      rw [hshown]
      split
      · assumption
      · exact List.mem_append_right _ (List.mem_singleton_self _)
    rw [List.getElem?_idxOf hm]

theorem IsShown.number_eq (hs : s.shown.Nodup) (h : s.IsShown k template n ts)
    (h' : s.IsShown k template n' ts') : n = n' ∧ ts = ts' := by
  obtain ⟨q, hq, hn, rfl⟩ := h
  obtain ⟨q', hq', hn', rfl⟩ := h'
  obtain rfl : q = q' := Option.some.inj (hq.symm.trans hq')
  obtain ⟨hlt, -⟩ := List.getElem?_eq_some_iff.1 hn
  exact ⟨(List.getElem?_inj hlt hs).1 (hn.trans hn'.symm), rfl⟩

theorem IsShown.keeper_eq (hs : s.IsOrderly) (h : s.IsShown k template n ts)
    (h' : s.IsShown k' template' n ts') : k = k' ∧ template = template' := by
  obtain ⟨q, hq, hn, rfl⟩ := h
  obtain ⟨q', hq', hn', rfl⟩ := h'
  exact hs.unique hq hq' (Option.some.inj (hn.symm.trans hn'))

/-! ## The history of a cache -/

/-- What a cache was asked for the template with, and what it answered, if it had an answer. -/
def served? (number : Nat) (template : String) : Step × Report → Option (Options × Answer)
  | (.tokenCache k (.tokens t o), r) =>
    if k = number ∧ t = template then r.result.toOption.map (o, ·) else none
  | _ => none

/-- The first answer says what is kept for the template. -/
def TellsOf (s : Session) (k : Keeper) (template : String) : Option (Options × Answer) → Prop
  | none => s.kept k template = none
  | some (o, answer) => ∃ n ts, answer = .tokens n ts ∧ Token.ofTemplate o template = .ok ts ∧
      s.IsShown k template n ts

/-- What comes of asking a cache of tokens. -/
theorem run_tokens {c : TokenCache} (hc : s.tokenCaches[number]? = some c) (template : String)
    (o : Options) :
    match s.kept (.cache number) template with
    | some _ => ∃ n ts, (s.run (.tokenCache number (.tokens template o))).2 =
        ⟨.ok (.tokens n ts), [.tokensKnown template], some c.size⟩
    | none =>
      match Token.ofTemplate o template with
      | .error e => s.run (.tokenCache number (.tokens template o)) =
          (s, ⟨.error (.error (.template e)), [], some c.size⟩)
      | .ok ts => ∃ n, (s.run (.tokenCache number (.tokens template o))).2 =
          ⟨.ok (.tokens n ts), [.tokenized template ts.length], some (c.size + 1)⟩ := by
  rw [kept_cache hc, run, hc]
  dsimp only [runTokenCache]
  have hr := c.reply o s.stamp template
  generalize c.tokens o s.stamp template = out at hr
  cases hr with
  | known hk =>
    rw [hk]
    exact ⟨_, _, rfl⟩
  | failed hk ht =>
    obtain ⟨hlt, rfl⟩ := List.getElem?_eq_some_iff.1 hc
    rw [hk, ht]
    dsimp only [report]
    rw [List.set_getElem_self hlt]
    rfl
  | made hk ht =>
    rw [hk, ht]
    exact ⟨_, rfl⟩

theorem served?_eq_some_iff {x : Step × Report} {o : Options} {answer : Answer} :
    served? number template x = some (o, answer) ↔
      x.1 = .tokenCache number (.tokens template o) ∧ x.2.result = .ok answer := by
  obtain ⟨step, r⟩ := x
  cases step with
  | tokenCache k request =>
    cases request with
    | contains t => exact iff_of_false (by rintro ⟨⟩) (by rintro ⟨⟨⟩, -⟩)
    | tokens t o' =>
      cases hr : r.result <;> simp [served?, hr, Except.toOption, and_assoc]
  | _ => exact iff_of_false (by rintro ⟨⟩) (by rintro ⟨⟨⟩, -⟩)

theorem served?_eq_none_of_error {x : Step × Report} {e : Failure} (h : x.2.result = .error e) :
    served? number template x = none := by
  refine Option.eq_none_iff_forall_ne_some.2 fun y hs => ?_
  have hr := (served?_eq_some_iff.1 hs).2
  rw [h] at hr
  cases hr

theorem Step.asks?_eq_cache_iff : step.asks? = some (.cache number, template) ↔
    ∃ o, step = .tokenCache number (.tokens template o) := by
  cases step with
  | tokenCache k request => cases request <;> simp [asks?]
  | builder k request => cases request <;> simp [asks?, Builder.Request.template?]
  | _ => simp [asks?]

theorem isShown_of_run_tokens {o : Options}
    (hr : (s.run (.tokenCache number (.tokens template o))).2.result = .ok (.tokens n ts)) :
    (s.run (.tokenCache number (.tokens template o))).1.IsShown (.cache number) template n ts := by
  obtain ⟨k, template', ha, h⟩ := (shownAfter_run s _).isShown hr
  cases ha
  exact h

/-- As long as a cache has nothing for a template, what it answers to it tells what it has then. -/
theorem tellsOf_run_tokens (hk : s.kept (.cache number) template = none) (o : Options) :
    let step : Step := .tokenCache number (.tokens template o)
    (s.run step).1.TellsOf (.cache number) template
      (served? number template (step, (s.run step).2)) := by
  dsimp only
  cases hc : s.tokenCaches[number]? with
  | none =>
    have hrun : s.run (.tokenCache number (.tokens template o)) =
        (s, { result := .error .noSuchObject }) := by rw [run, hc]
    rw [hrun, served?_eq_none_of_error rfl]
    exact hk
  | some c =>
    have hrun := run_tokens hc template o
    rw [hk] at hrun
    cases ht : Token.ofTemplate o template with
    | error e =>
      rw [ht] at hrun
      rw [hrun, served?_eq_none_of_error rfl]
      exact hk
    | ok ts =>
      rw [ht] at hrun
      obtain ⟨n, hrun⟩ := hrun
      have hr := congrArg Report.result hrun
      rw [served?_eq_some_iff.2 ⟨rfl, hr⟩]
      exact ⟨n, ts, rfl, ht, isShown_of_run_tokens hr⟩

/-- As long as a cache has nothing for a template, every step tells what it has then. -/
theorem tellsOf_run (hk : s.kept (.cache number) template = none) (step : Step) :
    (s.run step).1.TellsOf (.cache number) template
      (served? number template (step, (s.run step).2)) := by
  by_cases hstep : ∃ o, step = .tokenCache number (.tokens template o)
  · obtain ⟨o, rfl⟩ := hstep
    exact tellsOf_run_tokens hk o
  · have hs : served? number template (step, (s.run step).2) = none := by
      refine Option.eq_none_iff_forall_ne_some.2 fun y hy => hstep ?_
      exact ⟨y.1, (served?_eq_some_iff.1 hy).1⟩
    rw [hs]
    show (s.run step).1.kept (.cache number) template = none
    rcases (cachesAfter_run s step).kept with ⟨-, hkept⟩ | ⟨k, template', ts, ha, -, -, hkept⟩
    · rw [hkept, hk]
    · rw [hkept, if_neg, hk]
      rintro ⟨rfl, rfl⟩
      exact hstep (Step.asks?_eq_cache_iff.1 ha)

/-- What a session and its history have to do with each other. -/
structure Recalls (s : Session) (h : List (Step × Report)) : Prop where
  orderly : s.IsOrderly
  nodup : s.shown.Nodup
  shown : ∀ x ∈ h, ∀ n ts, x.2.result = .ok (.tokens n ts) →
    ∃ k template, x.1.asks? = some (k, template) ∧ s.IsShown k template n ts
  first : ∀ number template,
    s.TellsOf (.cache number) template (h.findSome? (served? number template))

theorem recalls_empty : Recalls {} [] where
  orderly := isOrderly_empty
  nodup := List.nodup_nil
  shown _ hx := absurd hx List.not_mem_nil
  first _ _ := rfl

variable {h : List (Step × Report)}

theorem Recalls.after (hs : s.Recalls h) (step : Step) :
    (s.run step).1.Recalls (h ++ [(step, (s.run step).2)]) := by
  have hc := cachesAfter_run s step
  have hshown := shownAfter_run s step
  refine ⟨hs.orderly.after hc, hshown.nodup hs.nodup, ?_, ?_⟩
  · intro x hx n ts hr
    rcases List.mem_append.1 hx with hx | hx
    · obtain ⟨k, template, ha, hk⟩ := hs.shown x hx n ts hr
      exact ⟨k, template, ha, hk.after hc hshown⟩
    · obtain rfl := List.mem_singleton.1 hx
      exact hshown.isShown hr
  · intro number template
    have hf := hs.first number template
    rw [List.findSome?_append, List.findSome?_singleton]
    cases hfirst : h.findSome? (served? number template) with
    | none =>
      rw [hfirst] at hf
      exact tellsOf_run hf step
    | some first =>
      rw [hfirst] at hf
      obtain ⟨n, ts, ha, ht, hk⟩ := hf
      exact ⟨n, ts, ha, ht, hk.after hc hshown⟩

theorem HasHistory.recalls (hs : s.HasHistory h) : s.Recalls h := by
  induction hs with
  | start => exact recalls_empty
  | step hs step ih => exact ih.after step

theorem Recalls.contains_iff (hs : s.Recalls h) {c : TokenCache}
    (hc : s.tokenCaches[number]? = some c) (template : String) :
    c.contains template = true ↔ ∃ x ∈ h, (served? number template x).isSome = true := by
  have hf := hs.first number template
  rw [← List.findSome?_isSome_iff, TokenCache.contains, ← kept_cache hc]
  cases hfirst : h.findSome? (served? number template) with
  | none =>
    rw [hfirst] at hf
    rw [hf, Option.isSome_none, Option.isSome_none]
  | some first =>
    rw [hfirst] at hf
    obtain ⟨n, ts, -, -, q, hq, -⟩ := hf
    rw [hq]
    exact iff_of_true rfl rfl

theorem IsOrderly.encard_contains (hs : s.IsOrderly) {c : TokenCache}
    (hc : s.tokenCaches[number]? = some c) :
    {template | c.contains template = true}.encard = c.size := by
  have hset : {template | c.contains template = true} = c.templates.toFinset := by
    ext template
    rw [List.coe_toFinset]
    exact TokenCache.mem_templates_iff.symm
  rw [hset, Set.encard_coe_eq_coe_finsetCard,
    List.toFinset_card_of_nodup (hs.nodup (.cache number) c hc), TokenCache.templates,
    List.length_map]
  rfl

/-- What a cache has shown is shown again, under the same number. -/
theorem Recalls.run_tokens_of_isShown (hs : s.Recalls h) {c : TokenCache}
    (hc : s.tokenCaches[number]? = some c) (hk : s.IsShown (.cache number) template n ts)
    (o : Options) : (s.run (.tokenCache number (.tokens template o))).2 =
      ⟨.ok (.tokens n ts), [.tokensKnown template], some c.size⟩ := by
  have hrun := run_tokens hc template o
  have hnext := hs.after (.tokenCache number (.tokens template o))
  have hk' := hk.after (cachesAfter_run s (.tokenCache number (.tokens template o)))
    (shownAfter_run s _)
  obtain ⟨q, hq, -⟩ := hk
  rw [hq] at hrun
  obtain ⟨n', ts', hrun⟩ := hrun
  have hshown := isShown_of_run_tokens (congrArg Report.result hrun)
  obtain ⟨rfl, rfl⟩ := hk'.number_eq hnext.nodup hshown
  exact hrun

/-- A cache of tokens goes by the first answer that it had for each template. `s` is any session
with its history `h`, in which caches were asked for any templates with any options, with success or
without, and `number` is one of the caches.

The cache contains the templates that it had an answer for, and counts each of them once. Asked
again for one of them with any options, it gives the answer that came first, which is what the
options made of the template that came with it, and tells that it was known. Asked for another
template, it fails with the fault under the options that come now, and then nothing changes and
nothing is told, or it gives what they make of the template, and tells that it was split.

Sequences of tokens are the same, which is what their numbers say, exactly if the same cache or
builder was asked for the same template. -/
theorem tokens_by_history {c : TokenCache} (hs : s.HasHistory h)
    (hc : s.tokenCaches[number]? = some c) :
    (∀ template, c.contains template = true ↔
        ∃ x ∈ h, (served? number template x).isSome = true) ∧
      {template | ∃ x ∈ h, (served? number template x).isSome = true}.encard = c.size ∧
      (∀ template o, match h.findSome? (served? number template) with
        | some (o₁, answer) => ∃ n ts, answer = .tokens n ts ∧
          Token.ofTemplate o₁ template = .ok ts ∧
          (s.run (.tokenCache number (.tokens template o))).2 =
            ⟨.ok answer, [.tokensKnown template], some c.size⟩
        | none => match Token.ofTemplate o template with
          | .error e => s.run (.tokenCache number (.tokens template o)) =
              (s, ⟨.error (.error (.template e)), [], some c.size⟩)
          | .ok ts => ∃ n, (s.run (.tokenCache number (.tokens template o))).2 =
              ⟨.ok (.tokens n ts), [.tokenized template ts.length], some (c.size + 1)⟩) ∧
      ∀ x ∈ h, ∀ y ∈ h, ∀ n n' ts ts', x.2.result = .ok (.tokens n ts) →
        y.2.result = .ok (.tokens n' ts') → ∃ a b, x.1.asks? = some a ∧ y.1.asks? = some b ∧
          (n = n' ↔ a = b) ∧ (a = b → ts = ts') := by
  have hr := hs.recalls
  refine ⟨hr.contains_iff hc, ?_, fun template o => ?_, ?_⟩
  · rw [← hr.orderly.encard_contains hc]
    simp only [hr.contains_iff hc]
  · have hf := hr.first number template
    have hrun := run_tokens hc template o
    cases hfirst : h.findSome? (served? number template) with
    | none =>
      rw [hfirst] at hf
      rw [show s.kept (.cache number) template = none from hf] at hrun
      exact hrun
    | some first =>
      rw [hfirst] at hf
      obtain ⟨n, ts, ha, ht, hk⟩ := hf
      refine ⟨n, ts, ha, ht, ?_⟩
      rw [ha]
      exact hr.run_tokens_of_isShown hc hk o
  · intro x hx y hy n n' ts ts' hrx hry
    obtain ⟨k, template, hax, hkx⟩ := hr.shown x hx n ts hrx
    obtain ⟨k', template', hay, hky⟩ := hr.shown y hy n' ts' hry
    refine ⟨_, _, hax, hay, ⟨?_, ?_⟩, ?_⟩
    · rintro rfl
      obtain ⟨rfl, rfl⟩ := hkx.keeper_eq hr.orderly hky
      rfl
    · rintro ⟨⟩
      exact (hkx.number_eq hr.nodup hky).1
    · rintro ⟨⟩
      exact (hkx.number_eq hr.nodup hky).2

/-- A step that asks for a template which opens a placeholder and does not end it. -/
def asksUnclosed (o : Options) : Step :=
  .tokenCache 0 (.tokens "\x7bx" o)

/-- A session that asked so with the usual markers and then with others. -/
def unclosed : Session :=
  ((({} : Session).run .newTokenCache).1.run (asksUnclosed {})).1.run
    (asksUnclosed { startMarker := '<', endMarker := '>' }) |>.1

/-- A template that opens a placeholder without an end is at fault, but it has tokens if other
characters are the markers. Once it has been asked for with these, it has them for all options. -/
theorem tokens_by_history_other_markers :
    Token.ofTemplate {} "\x7bx" = .error (.unterminated 0) ∧
      (∃ h c, unclosed.HasHistory h ∧ unclosed.tokenCaches[0]? = some c ∧ c.size = 1) ∧
      (unclosed.run (asksUnclosed {})).2 =
        ⟨.ok (.tokens 0 [.literal "\x7bx"]), [.tokensKnown "\x7bx"], some 1⟩ := by
  have hs : unclosed.HasHistory _ := ((HasHistory.start.step .newTokenCache).step _).step _
  have hc : unclosed.tokenCaches[0]? = some ⟨[("\x7bx", ⟨0, [.literal "\x7bx"]⟩)]⟩ := by
    decide +kernel
  refine ⟨by decide +kernel, ⟨_, _, hs, hc, rfl⟩, ?_⟩
  have hnext := (tokens_by_history hs hc).2.2.1 "\x7bx" {}
  split at hnext
  · next o answer hfirst =>
    have ha : some (o, answer) = some (({ startMarker := '<', endMarker := '>' } : Options),
        Answer.tokens 0 [.literal "\x7bx"]) := hfirst.symm.trans (by decide +kernel)
    cases ha
    obtain ⟨-, -, -, -, hrun⟩ := hnext
    exact hrun
  · next hfirst => exact absurd hfirst (by decide +kernel)

end Session

end PathTemplate
