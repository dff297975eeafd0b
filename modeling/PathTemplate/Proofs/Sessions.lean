import Mathlib.Data.List.Forall2
import PathTemplate.Proofs.Anew
import PathTemplate.Session
/-!
# Nothing kept shows in a session

A ledger of a session notes which options each builder was made with, and how each compiled template
was asked for. It keeps nothing that was worked out. Still it tells the result of every step with a
builder or a compiled template, whatever steps came before, up to the numbers that sequences of
tokens are shown under: a session goes on to go by its ledger (`Session.GoesBy.run`).
-/

namespace PathTemplate

/-- What a compiled template was asked for with. -/
structure Recipe where
  options : Options
  template : String
  overrides : Overrides
  deriving DecidableEq, Repr, Inhabited

/-- The compiled template, worked out anew. -/
def Recipe.compile (r : Recipe) : Except Error CompiledTemplate :=
  Anew.compile {} r.options r.template r.overrides

/-- The options of the builders of a session, and the recipes of its compiled templates. -/
structure Ledger where
  builders : List Options := []
  templates : List Recipe := []
  deriving DecidableEq, Repr, Inhabited

namespace Ledger

open Session

/-- What a builder with the given options answers. `number` is the number of the next compiled
template. -/
def answer (o : Options) (number : Nat) : Builder.Request → Except Error Answer
  | .options => .ok (.options o)
  | .tokens template => (Anew.tokens o template).map (.tokens 0)
  | .namesOf template => (Anew.tokens o template).map fun ts => .names (Token.names ts)
  | .source template overrides =>
    (Anew.tokens o template).map fun ts => .text (Source.ofTokens o overrides ts)
  | .compile template overrides => (Anew.compile {} o template overrides).map (.template number)
  | .isMatch source text => (Anew.regex {} source).map fun r => .truth (r.isMatch text)
  | .extract source text => (Anew.regex {} source).map fun r => .values (r.extract text)
  | .clearRegexes => .ok .nothing

/-- What a step answers, if it is one with a builder or a compiled template. -/
def result? (l : Ledger) : Step → Option (Except Failure Answer)
  | .newBuilder config =>
    some ((config.builder.map fun _ => .number l.builders.length).mapError .error)
  | .builder number request =>
    match l.builders[number]? with
    | none => some (.error .noSuchObject)
    | some o => some ((answer o l.templates.length request).mapError .error)
  | .matchTemplate number text =>
    match l.templates[number]? with
    | none => some (.error .noSuchObject)
    | some recipe =>
      some ((recipe.compile.map fun t => .matched (t.isMatch text) (t.values text)).mapError .error)
  | _ => none

/-- Notes a step. -/
def next (l : Ledger) : Step → Ledger
  | .newBuilder config =>
    match config.builder with
    | .ok b => { l with builders := l.builders ++ [b.options] }
    | .error _ => l
  | .builder number (.compile template overrides) =>
    match l.builders[number]? with
    | none => l
    | some o =>
      match Anew.compile {} o template overrides with
      | .ok _ => { l with templates := l.templates ++ [⟨o, template, overrides⟩] }
      | .error _ => l
  | _ => l

/-- Noting a step takes nothing back. -/
theorem prefix_next (l : Ledger) (step : Step) :
    l.builders <+: (l.next step).builders ∧ l.templates <+: (l.next step).templates := by
  unfold next
  split
  · split
    · exact ⟨List.prefix_append _ _, List.prefix_rfl⟩
    · exact ⟨List.prefix_rfl, List.prefix_rfl⟩
  · split
    · exact ⟨List.prefix_rfl, List.prefix_rfl⟩
    · split
      · exact ⟨List.prefix_rfl, List.prefix_append _ _⟩
      · exact ⟨List.prefix_rfl, List.prefix_rfl⟩
  · exact ⟨List.prefix_rfl, List.prefix_rfl⟩

/-- What steps answer one after the other. -/
def results (l : Ledger) : List Step → List (Option (Except Failure Answer))
  | [] => []
  | step :: steps => l.result? step :: (l.next step).results steps

end Ledger

namespace Session

/-- An answer without the number of the sequence of tokens, which tells when it was shown first. -/
def Answer.unnumbered : Answer → Answer
  | .tokens _ ts => .tokens 0 ts
  | answer => answer

/-- A session goes by a ledger if its builders have the options that are noted and keep only what
is right, and its compiled templates are what their recipes give. -/
structure GoesBy (s : Session) (l : Ledger) : Prop where
  builders : s.builders.map (·.options) = l.builders
  faithful : ∀ b ∈ s.builders, b.IsFaithful ∧ b.limits = {}
  templates : l.templates.map Recipe.compile = s.templates.map .ok

/-- The report agrees with what a ledger tells of the step, if it tells anything. -/
def Report.Agrees (r : Report) (expected : Option (Except Failure Answer)) : Prop :=
  ∀ e ∈ expected, r.result.map Answer.unnumbered = e

variable {s : Session} {l : Ledger} {number : Nat} {b : Builder}

theorem GoesBy.length_templates (h : s.GoesBy l) : l.templates.length = s.templates.length := by
  simpa using congrArg List.length h.templates

theorem GoesBy.getElem?_builders (h : s.GoesBy l) :
    l.builders[number]? = s.builders[number]?.map (·.options) := by
  rw [← h.builders, List.getElem?_map]

theorem GoesBy.getElem?_templates (h : s.GoesBy l) :
    l.templates[number]?.map Recipe.compile = s.templates[number]?.map .ok := by
  rw [← List.getElem?_map, h.templates, List.getElem?_map]

/-- What goes by a ledger is only the builders and the compiled templates. -/
theorem GoesBy.of_eq (h : s.GoesBy l) {s' : Session} (hb : s'.builders = s.builders)
    (ht : s'.templates = s.templates) : s'.GoesBy l :=
  ⟨by rw [hb, h.builders], by rw [hb]; exact h.faithful, by rw [ht, h.templates]⟩

/-- A builder may be replaced by a later state of it. -/
theorem GoesBy.set (h : s.GoesBy l) (hb : s.builders[number]? = some b) {b' : Builder}
    (hp : b.Precedes b') : { s with builders := s.builders.set number b' }.GoesBy l := by
  obtain ⟨hlt, hb⟩ := List.getElem?_eq_some_iff.1 hb
  have hm : b ∈ s.builders := hb ▸ List.getElem_mem hlt
  refine ⟨?_, ?_, h.templates⟩
  · have hlm : number < (s.builders.map (·.options)).length := by simpa using hlt
    have he : b'.options = (s.builders.map (·.options))[number] := by
      rw [List.getElem_map, hb, hp.options]
    rw [← h.builders, List.map_set, he, List.set_getElem_self]
  · intro c hc
    rcases List.mem_or_eq_of_mem_set hc with hc | rfl
    · exact h.faithful c hc
    · exact ⟨hp.faithful (h.faithful b hm).1, hp.limits.trans (h.faithful b hm).2⟩

/-! ## Steps with a builder -/

section Report

variable {σ α : Type} {answer : Session → α → Session × Answer}

/-- The report of an outcome tells its result, up to the numbers of sequences of tokens. -/
theorem result_builderReport {o : Outcome Builder α} {f : α → Answer}
    (hf : ∀ s' a, s'.templates = s.templates → (answer s' a).2.unnumbered = f a) :
    (s.builderReport number o answer).2.result.map Answer.unnumbered =
      (o.result.map f).mapError .error := by
  unfold builderReport report
  cases o.result with
  | error e => rfl
  | ok a => exact congrArg Except.ok (hf _ a rfl)

/-- An answer that only shows something leaves builders and compiled templates as noted. -/
theorem GoesBy.report (h : s.GoesBy l) (o : Outcome σ α) (answer : Session → α → Session × Answer)
    (ha : ∀ s a, (answer s a).1.builders = s.builders ∧ (answer s a).1.templates = s.templates) :
    (s.report o answer).1.GoesBy l := by
  unfold Session.report
  cases o.result with
  | error e => exact h.of_eq rfl rfl
  | ok a => exact h.of_eq (ha _ a).1 (ha _ a).2

theorem GoesBy.builderReport (h : s.GoesBy l) (hb : s.builders[number]? = some b)
    {o : Outcome Builder α} (hp : b.Precedes o.state)
    (ha : ∀ s a, (answer s a).1.builders = s.builders ∧ (answer s a).1.templates = s.templates) :
    (s.builderReport number o answer).1.GoesBy l :=
  (h.set hb hp).report o answer ha

end Report

/-- A builder's answers are those that its options give, whatever it keeps. -/
theorem result_runBuilder (hb : b.IsFaithful) (hl : b.limits = {}) (request : Builder.Request) :
    (s.runBuilder number b request).2.result.map Answer.unnumbered =
      (Ledger.answer b.options s.templates.length request).mapError .error := by
  cases request with
  | options => rfl
  | clearRegexes => rfl
  | tokens template =>
    have hr := Builder.result_tokens hb s.stamp template
    rw [runBuilder, result_builderReport (f := fun sequence => .tokens 0 sequence.tokens)
      (fun _ _ _ => rfl), Ledger.answer, ← hr]
    cases (b.tokens s.stamp template).result <;> rfl
  | namesOf template =>
    have hr := Builder.result_namesOf hb s.stamp template
    rw [runBuilder, result_builderReport (f := .names) (fun _ _ _ => rfl), Ledger.answer, hr]
    cases Anew.tokens b.options template <;> rfl
  | source template overrides =>
    have hr := Builder.result_source hb s.stamp template overrides
    rw [runBuilder, result_builderReport (f := .text) (fun _ _ _ => rfl), Ledger.answer, hr]
    cases Anew.tokens b.options template <;> rfl
  | compile template overrides =>
    have hr := Builder.result_compile hb s.stamp template overrides
    rw [runBuilder, result_builderReport (f := .template s.templates.length)
      (fun s' t hs => by rw [addTemplate, hs]; rfl), Ledger.answer, hr, hl]
  | isMatch source text =>
    have hr := Builder.result_regex hb source
    rw [runBuilder, result_builderReport (f := .truth) (fun _ _ _ => rfl), Ledger.answer,
      Builder.isMatch, Outcome.map, hr, hl]
    cases Anew.regex {} source <;> rfl
  | extract source text =>
    have hr := Builder.result_regex hb source
    rw [runBuilder, result_builderReport (f := .values) (fun _ _ _ => rfl), Ledger.answer,
      Builder.extract, Outcome.map, hr, hl]
    cases Anew.regex {} source <;> rfl

/-- A step with a builder leaves the session as it is noted in the ledger. -/
theorem GoesBy.runBuilder (h : s.GoesBy l) (hb : s.builders[number]? = some b)
    (request : Builder.Request) :
    (s.runBuilder number b request).1.GoesBy (l.next (.builder number request)) := by
  cases request with
  | options => exact h
  | clearRegexes => exact h.set hb b.precedes_clearRegexes
  | tokens template =>
    exact h.builderReport hb (b.precedes_tokens _ _) fun _ _ => ⟨rfl, rfl⟩
  | namesOf template =>
    exact h.builderReport hb (b.precedes_tokens _ _) fun _ _ => ⟨rfl, rfl⟩
  | source template overrides =>
    exact h.builderReport hb (b.precedes_source _ _ _) fun _ _ => ⟨rfl, rfl⟩
  | isMatch source text =>
    exact h.builderReport hb (b.precedes_regex _) fun _ _ => ⟨rfl, rfl⟩
  | extract source text =>
    exact h.builderReport hb (b.precedes_regex _) fun _ _ => ⟨rfl, rfl⟩
  | compile template overrides =>
    -- A recipe is noted exactly if the builder has a compiled template to hand out.
    have hm : b ∈ s.builders := List.mem_of_getElem? hb
    have hr := Builder.result_compile (h.faithful b hm).1 s.stamp template overrides
    rw [(h.faithful b hm).2] at hr
    have hs : l.builders[number]? = some b.options := by rw [h.getElem?_builders, hb]; rfl
    have hp := b.precedes_compile s.stamp template overrides
    rw [Session.runBuilder, Ledger.next, hs]
    dsimp only
    unfold Session.builderReport Session.report
    rw [← hr]
    cases ho : (b.compile s.stamp template overrides).result with
    | error e => exact (h.set hb hp).of_eq rfl rfl
    | ok t =>
      refine ⟨(h.set hb hp).builders, (h.set hb hp).faithful, ?_⟩
      dsimp only [addTemplate]
      rw [List.map_append, List.map_append, h.templates, List.map_singleton, List.map_singleton,
        Recipe.compile, ← hr, ho]

/-! ## All steps -/

/-- A new builder keeps nothing. -/
theorem Config.eq_of_builder {config : Config} (h : config.builder = .ok b) :
    b = { options := b.options } := by
  have hn : ∀ o, Builder.new o = .ok b → b = { options := b.options } := by
    intro o h
    rw [Builder.new] at h
    split at h
    · cases h
    · cases h
      rfl
  cases config with
  | standard =>
    cases h
    rfl
  | given o => exact hn o h
  | settings text =>
    rw [builder] at h
    cases ho : Options.ofSettings text with
    | error e => rw [ho] at h; cases h
    | ok o => rw [ho] at h; exact hn o h

/-- Caches of their own are kept apart from the builders. -/
theorem GoesBy.runTokenCache (h : s.GoesBy l) (c : TokenCache) (request : TokenCache.Request) :
    (s.runTokenCache number c request).1.GoesBy l := by
  cases request with
  | contains template => exact h
  | tokens template o =>
    refine GoesBy.report ?_ (c.tokens o s.stamp template) showTokens ?_
    · exact h.of_eq rfl rfl
    · exact fun _ _ => ⟨rfl, rfl⟩

theorem GoesBy.runRegexCache (h : s.GoesBy l) (c : RegexCache) (request : RegexCache.Request) :
    (s.runRegexCache number c request).1.GoesBy l := by
  cases request with
  | clear => exact h.of_eq rfl rfl
  | regex source =>
    refine GoesBy.report ?_ (c.regex {} source) (fun s r => (s, .regex r)) ?_
    · exact h.of_eq rfl rfl
    · exact fun _ _ => ⟨rfl, rfl⟩

/-- Any step leaves the session as it is noted in the ledger. -/
theorem GoesBy.run (h : s.GoesBy l) (step : Step) : (s.run step).1.GoesBy (l.next step) := by
  cases step with
  | newBuilder config =>
    rw [Session.run, Ledger.next]
    cases hc : config.builder with
    | error e => exact h
    | ok b =>
      refine ⟨by simp [h.builders], ?_, h.templates⟩
      intro c hm
      rcases List.mem_append.1 hm with hm | hm
      · exact h.faithful c hm
      · rw [List.mem_singleton.1 hm, Config.eq_of_builder hc]
        exact ⟨Builder.isFaithful_of_options b.options, rfl⟩
  | builder number request =>
    rw [Session.run]
    cases hb : s.builders[number]? with
    | some b => exact h.runBuilder hb request
    | none =>
      have hs : l.builders[number]? = none := by rw [h.getElem?_builders, hb]; rfl
      cases request <;> simpa [Ledger.next, hs] using h
  | matchTemplate number text =>
    rw [Session.run]
    cases s.templates[number]? <;> exact h
  | newTokenCache => exact h.of_eq rfl rfl
  | newRegexCache => exact h.of_eq rfl rfl
  | tokenCache number request =>
    rw [Session.run]
    split
    · exact h
    · exact h.runTokenCache _ request
  | regexCache number request =>
    rw [Session.run]
    split
    · exact h
    · exact h.runRegexCache _ request

/-- Any step is reported as the ledger tells. -/
theorem GoesBy.agrees (h : s.GoesBy l) (step : Step) :
    (s.run step).2.Agrees (l.result? step) := by
  rintro e he
  cases step with
  | newBuilder config =>
    obtain rfl := Option.some.inj he
    rw [Session.run, ← h.builders, List.length_map]
    cases config.builder <;> rfl
  | builder number request =>
    rw [Ledger.result?, h.getElem?_builders] at he
    rw [Session.run]
    cases hb : s.builders[number]? with
    | none =>
      rw [hb] at he
      obtain rfl := Option.some.inj he
      rfl
    | some b =>
      obtain ⟨hf, hl⟩ := h.faithful b (List.mem_of_getElem? hb)
      rw [hb] at he
      obtain rfl := Option.some.inj he
      rw [h.length_templates]
      exact result_runBuilder hf hl request
  | matchTemplate number text =>
    have ht : l.templates[number]?.map Recipe.compile = s.templates[number]?.map .ok :=
      h.getElem?_templates
    rw [Ledger.result?] at he
    rw [Session.run]
    cases hl : l.templates[number]? with
    | none =>
      rw [hl] at he ht
      obtain rfl := Option.some.inj he
      rw [Option.map_eq_none_iff.1 ht.symm]
      rfl
    | some recipe =>
      rw [hl] at he ht
      obtain rfl := Option.some.inj he
      obtain ⟨t, hs, hc⟩ := Option.map_eq_some_iff.1 ht.symm
      rw [hs, ← hc]
      rfl
  | newTokenCache => cases he
  | newRegexCache => cases he
  | tokenCache number request => cases he
  | regexCache number request => cases he

/-- The reports of a session are those that its ledger tells. -/
theorem GoesBy.forall₂_agrees (steps : List Step) : ∀ {s : Session} {l : Ledger}, s.GoesBy l →
    List.Forall₂ Report.Agrees (s.runAll steps) (l.results steps) := by
  induction steps with
  | nil => intro _ _ _; exact .nil
  | cons step steps ih =>
    intro s l h
    exact .cons (h.agrees step) (ih (h.run step))

/-- Every step of a session with a builder or a compiled template has the result that is worked out
anew from the options of that builder, whatever steps with whatever builders, compiled templates and
caches came before. No step takes back what that is worked out from: the options of a builder and
the recipe of a compiled template stay as they were noted. -/
theorem runAll_results (steps : List Step) :
    List.Forall₂ Report.Agrees (runAll {} steps) (Ledger.results {} steps) ∧
      ∀ (l : Ledger) (step : Step),
        l.builders <+: (l.next step).builders ∧ l.templates <+: (l.next step).templates :=
  ⟨GoesBy.forall₂_agrees steps ⟨rfl, nofun, rfl⟩, Ledger.prefix_next⟩

end Session

end PathTemplate
