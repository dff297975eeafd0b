import Mathlib.Data.List.DropRight
import PathTemplate.Proofs.Histories
/-!
# Which regular expressions a builder keeps

A builder keeps the regular expressions that it was asked for since it was told to drop them, and no
others: those of the templates that it compiled, and those that a text was matched against or read
with. A source that is no regular expression leaves nothing behind, and neither does a template that
is at fault (`Session.regexes_by_history`).

There are three ways for a request to go on (`Builder.Gain`), apart from the one to drop everything:
it gets no regular expression, since it needs none or there is none, or it gets one that is kept, or
one is compiled for it.
-/

namespace PathTemplate

/-! ## The sources of a cache -/

namespace Event

/-- The source of the regular expression that was compiled, if one was. -/
def compiled? : Event → Option String
  | compiledRegex source => some source
  | _ => none

theorem mem_filterMap_compiled? {events : List Event} {source : String} :
    source ∈ events.filterMap compiled? ↔ compiledRegex source ∈ events := by
  rw [List.mem_filterMap]
  constructor
  · rintro ⟨e, he, hs⟩
    cases e with
    | compiledRegex source' =>
      cases hs
      exact he
    | _ => cases hs
  · exact fun he => ⟨_, he, rfl⟩

end Event

namespace RegexCache

/-- The sources that regular expressions are kept for, latest first. -/
def sources (c : RegexCache) : List String :=
  c.entries.map (·.1)

theorem mem_sources_iff {c : RegexCache} {source : String} :
    source ∈ c.sources ↔ (c.get? source).isSome = true := by
  rw [get?, List.lookup_isSome_iff, sources, List.mem_map]
  simp only [beq_iff_eq, eq_comm (a := source)]

/-- What can come of asking for the regular expression with a source: it is kept, or there is none,
or it is compiled. -/
inductive Reply (c : RegexCache) (limits : Regex.Limits) (source : String) :
    Outcome RegexCache Regex → Prop
  | kept {r : Regex} (hm : source ∈ c.sources) (hk : c.get? source = some r) :
    Reply c limits source ⟨.ok r, c, []⟩
  | failed (hr : Regex.compile? limits source = none) :
    Reply c limits source ⟨.error .regex, c, []⟩
  | compiled {r : Regex} (hm : source ∉ c.sources) (hr : Regex.compile? limits source = some r) :
    Reply c limits source ⟨.ok r, ⟨(source, r) :: c.entries⟩, [.compiledRegex source]⟩

theorem reply (c : RegexCache) (limits : Regex.Limits) (source : String) :
    Reply c limits source (c.regex limits source) := by
  rw [regex]
  split
  · next hk => exact .kept (mem_sources_iff.2 (by rw [hk]; rfl)) hk
  · next hk =>
    split
    · next hr => exact .failed hr
    · next hr =>
      refine .compiled ?_ hr
      rw [mem_sources_iff, hk]
      exact Bool.false_ne_true

end RegexCache

/-! ## What a request needs and what it gets -/

namespace Builder

/-- The source of the regular expression that a request needs, unless it fails before it comes to
that. -/
def Request.neededSource? (o : Options) : Request → Option String
  | .compile template overrides =>
    (Token.ofTemplate o template).toOption.map (Source.ofTokens o overrides)
  | .isMatch src _ => some src
  | .extract src _ => some src
  | _ => none

/-- The source of the regular expression that an answered request made use of. -/
def Request.usedSource? : Request → Except Session.Failure Session.Answer → Option String
  | .compile _ _, .ok (.template _ t) => some t.regex.source
  | .isMatch src _, .ok _ => some src
  | .extract src _, .ok _ => some src
  | _, _ => none

/-- How a request can go on. It says which regular expressions are kept then, which were compiled,
and which source was made use of. -/
inductive Gain (b : Builder) (request : Request) :
    RegexCache → List String → Option String → Prop
  | nothing (hn : ∀ source, request.neededSource? b.options = some source →
      Regex.compile? b.limits source = none) :
    Gain b request b.regexCache [] none
  | kept {source : String} (hn : request.neededSource? b.options = some source)
    (hm : source ∈ b.regexCache.sources) :
    Gain b request b.regexCache [] (some source)
  | compiled {source : String} {r : Regex} (hn : request.neededSource? b.options = some source)
    (hm : source ∉ b.regexCache.sources) (hr : Regex.compile? b.limits source = some r) :
    Gain b request ⟨(source, r) :: b.regexCache.entries⟩ [source] (some source)

variable {b : Builder} {request : Request}

/-- What is compiled is what is needed, if it is a regular expression and not kept yet. -/
theorem Gain.mem_compiled_iff {c : RegexCache} {compiled : List String} {used : Option String}
    (hg : b.Gain request c compiled used) (source : String) :
    source ∈ compiled ↔ request.neededSource? b.options = some source ∧
      (Regex.compile? b.limits source).isSome = true ∧ source ∉ b.regexCache.sources := by
  cases hg with
  | nothing hn =>
    refine iff_of_false List.not_mem_nil ?_
    rintro ⟨hs, hv, -⟩
    rw [hn source hs] at hv
    cases hv
  | kept hn hm =>
    refine iff_of_false List.not_mem_nil ?_
    rintro ⟨hs, -, hnot⟩
    rw [hn] at hs
    cases hs
    exact hnot hm
  | compiled hn hm hr =>
    rw [List.mem_singleton, hn]
    constructor
    · rintro rfl
      exact ⟨rfl, by rw [hr]; rfl, hm⟩
    · rintro ⟨⟨⟩, -⟩
      rfl

theorem Gain.eq_of_unused {c : RegexCache} {compiled : List String}
    (hg : b.Gain request c compiled none) : c = b.regexCache := by
  cases hg
  rfl

/-- A request that needs no regular expression leaves them as they are. -/
theorem gain_of_idle (hn : request.neededSource? b.options = none) {c : RegexCache}
    (hc : c = b.regexCache) {compiled : List String} (he : compiled = []) {used : Option String}
    (hu : used = none) : b.Gain request c compiled used := by
  subst hc he hu
  refine .nothing fun source h => ?_
  rw [hn] at h
  cases h

/-- A request that needs a regular expression goes on as the cache answers. -/
theorem gain_of_regex {source : String} (hn : request.neededSource? b.options = some source)
    {used : Option String}
    (hu : used = (b.regexCache.regex b.limits source).result.toOption.map fun _ => source) :
    b.Gain request (b.regexCache.regex b.limits source).state
      ((b.regexCache.regex b.limits source).events.filterMap Event.compiled?) used := by
  subst hu
  have hr := b.regexCache.reply b.limits source
  generalize b.regexCache.regex b.limits source = out at hr
  cases hr with
  | kept hm hk => exact .kept hn hm
  | failed hr =>
    refine .nothing fun source' hn' => ?_
    obtain rfl : source = source' := Option.some.inj (hn.symm.trans hn')
    exact hr
  | compiled hm hr => exact .compiled hn hm hr

/-- Splitting a template into tokens has nothing to do with regular expressions. -/
theorem regexCache_tokens (b : Builder) (stamp : Nat) (template : String) :
    (b.tokens stamp template).state.regexCache = b.regexCache ∧
      (b.tokens stamp template).events.filterMap Event.compiled? = [] := by
  rw [tokens, TokenCache.tokens]
  split
  · exact ⟨rfl, rfl⟩
  · split <;> exact ⟨rfl, rfl⟩

theorem regexCache_source (b : Builder) (stamp : Nat) (template : String) (overrides : Overrides) :
    (b.source stamp template overrides).state.regexCache = b.regexCache ∧
      (b.source stamp template overrides).events.filterMap Event.compiled? = [] := by
  obtain ⟨hc, he⟩ := b.regexCache_tokens stamp template
  rw [source, Outcome.andThen]
  split
  · exact ⟨hc, he⟩
  · refine ⟨hc, ?_⟩
    dsimp only
    rw [List.filterMap_append, he]
    rfl

/-- The answer that a session gives to what came of a request. -/
def answerOf (result : Except Error (Session → Session × Session.Answer)) (s : Session) :
    Except Session.Failure Session.Answer :=
  (result.map fun f => (f s).2).mapError .error

theorem gain_compile (hb : b.IsFaithful) (stamp : Nat) (template : String) (overrides : Overrides)
    (s : Session) :
    let out := b.respond stamp (.compile template overrides)
    b.Gain (.compile template overrides) out.state.regexCache
      (out.events.filterMap Event.compiled?)
      (Request.usedSource? (.compile template overrides) (answerOf out.result s)) := by
  obtain ⟨hc, he⟩ := b.regexCache_tokens stamp template
  have hp := b.precedes_tokens stamp template
  have ht := Builder.result_tokens hb stamp template
  dsimp only [respond]
  rw [compile, Outcome.andThen]
  generalize b.tokens stamp template = out at hc he hp ht
  cases hr : out.result with
  | error e =>
    refine gain_of_idle ?_ hc he rfl
    rw [hr] at ht
    rw [Request.neededSource?]
    cases hts : Token.ofTemplate b.options template with
    | error e => rfl
    | ok ts =>
      rw [Anew.tokens_eq_ok.2 hts] at ht
      cases ht
  | ok q =>
    have hts : Token.ofTemplate b.options template = .ok q.tokens := by
      rw [hr] at ht
      exact Anew.tokens_eq_ok.1 ht.symm
    dsimp only [Outcome.map, regex, Outcome.within]
    rw [List.filterMap_append, he, List.nil_append, hc, hp.limits, hp.options]
    refine gain_of_regex ?_ ?_
    · rw [Request.neededSource?, hts]
      rfl
    · -- A regular expression bears the source that it was compiled from.
      generalize Source.ofTokens b.options overrides q.tokens = source
      have hreg : (b.regexCache.regex b.limits source).result = Anew.regex b.limits source :=
        Builder.result_regex hb source
      obtain ⟨r, hr, hs⟩ | hr := Anew.regex_cases b.limits source
      · rw [hreg, hr]
        exact congrArg some hs
      · rw [hreg, hr]
        rfl

/-- A request other than to drop the regular expressions goes on in one of three ways. -/
theorem gain_respond (hb : b.IsFaithful) (stamp : Nat) (hq : request ≠ .clearRegexes)
    (s : Session) :
    b.Gain request (b.respond stamp request).state.regexCache
      ((b.respond stamp request).events.filterMap Event.compiled?)
      (request.usedSource? (answerOf (b.respond stamp request).result s)) := by
  cases request with
  | options => exact gain_of_idle rfl rfl rfl rfl
  | clearRegexes => exact absurd rfl hq
  | tokens template =>
    obtain ⟨hc, he⟩ := b.regexCache_tokens stamp template
    exact gain_of_idle rfl hc he rfl
  | namesOf template =>
    obtain ⟨hc, he⟩ := b.regexCache_tokens stamp template
    exact gain_of_idle rfl hc he rfl
  | source template overrides =>
    obtain ⟨hc, he⟩ := b.regexCache_source stamp template overrides
    exact gain_of_idle rfl hc he rfl
  | compile template overrides => exact gain_compile hb stamp template overrides s
  | isMatch source text =>
    refine gain_of_regex rfl ?_
    dsimp only [respond, isMatch, regex, Outcome.map, Outcome.within]
    cases (b.regexCache.regex b.limits source).result <;> rfl
  | extract source text =>
    refine gain_of_regex rfl ?_
    dsimp only [respond, extract, regex, Outcome.map, Outcome.within]
    cases (b.regexCache.regex b.limits source).result <;> rfl

end Builder

namespace Session

/-! ## Requests since regular expressions were dropped -/

/-- What a builder was asked in a step, with the report. -/
def asked? (number : Nat) : Step × Report → Option (Builder.Request × Report)
  | (.builder k request, r) => if k = number then some (request, r) else none
  | _ => none

/-- What a builder was asked after it was last told to drop its regular expressions, or all that it
was ever asked. -/
def sinceCleared (number : Nat) (h : List (Step × Report)) : List (Builder.Request × Report) :=
  (h.filterMap (asked? number)).rtakeWhile (·.1 ≠ .clearRegexes)

/-- The cache holds the regular expressions that the requests made use of. -/
structure Retains (c : RegexCache) (recent : List (Builder.Request × Report)) : Prop where
  nodup : c.sources.Nodup
  mem : ∀ source, source ∈ c.sources ↔
    ∃ x ∈ recent, x.1.usedSource? x.2.result = some source
  /-- They are in the order in which they were compiled, the latest first. -/
  compiled : (recent.flatMap fun x => x.2.events.filterMap Event.compiled?) = c.sources.reverse

variable {recent : List (Builder.Request × Report)} {c : RegexCache} {b : Builder}
  {request : Builder.Request} {r : Report}

theorem retains_empty : Retains {} [] where
  nodup := List.nodup_nil
  mem source := by simp [RegexCache.sources]
  compiled := rfl

/-- A request that makes use of no regular expression, or of one that is kept. -/
theorem Retains.concat (h : Retains c recent) (he : r.events.filterMap Event.compiled? = [])
    (hu : ∀ source, request.usedSource? r.result = some source → source ∈ c.sources) :
    Retains c (recent ++ [(request, r)]) where
  nodup := h.nodup
  mem source := by
    rw [h.mem]
    constructor
    · rintro ⟨x, hx, hs⟩
      exact ⟨x, List.mem_append_left _ hx, hs⟩
    · rintro ⟨x, hx, hs⟩
      rcases List.mem_append.1 hx with hx | hx
      · exact ⟨x, hx, hs⟩
      · obtain rfl := List.mem_singleton.1 hx
        exact (h.mem source).1 (hu source hs)
  compiled := by
    rw [List.flatMap_append, List.flatMap_singleton, he, List.append_nil, h.compiled]

theorem Retains.gain (h : Retains b.regexCache recent) {compiled : List String}
    (hg : b.Gain request c compiled (request.usedSource? r.result))
    (he : r.events.filterMap Event.compiled? = compiled) :
    Retains c (recent ++ [(request, r)]) := by
  generalize hu : request.usedSource? r.result = used at hg
  cases hg with
  | nothing hn => exact h.concat he fun source hs => by rw [hu] at hs; cases hs
  | kept hn hm =>
    refine h.concat he fun source hs => ?_
    rw [hu] at hs
    cases hs
    exact hm
  | @compiled source _ hn hm hr =>
    refine ⟨List.nodup_cons.2 ⟨hm, h.nodup⟩, fun source' => ?_, ?_⟩
    · rw [RegexCache.sources, List.map_cons, List.mem_cons, ← RegexCache.sources, h.mem]
      simp only [List.mem_append, List.mem_singleton, or_and_right, exists_or, exists_eq_left, hu,
        Option.some.injEq, or_comm, eq_comm]
    · rw [List.flatMap_append, List.flatMap_singleton, he, h.compiled]
      exact (List.reverse_cons).symm

/-! ## The history of a builder -/

variable {s : Session} {number : Nat} {h : List (Step × Report)}

/-- The regular expressions of a builder, none if there is no builder. -/
def regexesOf (s : Session) (number : Nat) : RegexCache :=
  match s.builders[number]? with
  | none => {}
  | some b => b.regexCache

theorem regexesOf_eq (hb : s.builders[number]? = some b) : s.regexesOf number = b.regexCache := by
  rw [regexesOf, hb]

/-- No step with something else touches them. -/
theorem regexesOf_run_of_ne {step : Step} (hne : ∀ request, step ≠ .builder number request) :
    (s.run step).1.regexesOf number = s.regexesOf number := by
  rw [regexesOf, builders_run, regexesOf]
  cases step with
  | newBuilder config =>
    dsimp only
    cases hc : config.builder with
    | error e => rw [Except.toOption, Option.toList, List.append_nil]
    | ok b =>
      obtain hg | ⟨hnone, hg⟩ := getElem?_concat_cases s.builders b number
      · rw [Except.toOption, Option.toList, hg]
      · rw [Except.toOption, Option.toList, hg, hnone, Config.eq_of_builder hc]
  | builder k request =>
    have hk : k ≠ number := by
      rintro rfl
      exact hne request rfl
    dsimp only
    cases s.builders[k]? with
    | none => rfl
    | some b =>
      dsimp only
      rw [List.getElem?_set_ne hk]
  | _ => rfl

theorem regexesOf_run (hb : s.builders[number]? = some b) (request : Builder.Request) :
    (s.run (.builder number request)).1.regexesOf number =
      (b.after s.stamp request).regexCache := by
  obtain ⟨hlt, -⟩ := List.getElem?_eq_some_iff.1 hb
  rw [regexesOf, builders_run]
  dsimp only
  rw [hb]
  dsimp only
  rw [List.getElem?_set_self hlt]

theorem sinceCleared_concat (number : Nat) (h : List (Step × Report)) (x : Step × Report) :
    sinceCleared number (h ++ [x]) =
      match asked? number x with
      | none => sinceCleared number h
      | some y => if y.1 = .clearRegexes then [] else sinceCleared number h ++ [y] := by
  rw [sinceCleared, List.filterMap_append, List.filterMap_cons, List.filterMap_nil]
  cases asked? number x with
  | none => exact congrArg _ (List.append_nil _)
  | some y =>
    dsimp only
    rw [List.rtakeWhile_concat]
    by_cases hy : y.1 = .clearRegexes
    · rw [if_pos hy, if_neg (by simpa using hy)]
    · rw [if_neg hy, if_pos (by simpa using hy)]
      rfl

/-- The report of a request is what came of it. -/
theorem run_builder_snd (hb : s.builders[number]? = some b) (request : Builder.Request) :
    ∃ s', (s.run (.builder number request)).2 =
      ⟨Builder.answerOf (b.respond s.stamp request).result s', (b.respond s.stamp request).events,
        none⟩ := by
  rw [run, hb]
  dsimp only
  rw [runBuilder_eq hb, builderReport, report_snd]
  exact ⟨_, rfl⟩

theorem gain_run (hb : s.builders[number]? = some b) (hf : b.IsFaithful)
    (hq : request ≠ .clearRegexes) :
    b.Gain request ((s.run (.builder number request)).1.regexesOf number)
      ((s.run (.builder number request)).2.events.filterMap Event.compiled?)
      (request.usedSource? (s.run (.builder number request)).2.result) := by
  obtain ⟨s', hr⟩ := run_builder_snd hb request
  rw [regexesOf_run hb, hr, ← Builder.state_respond]
  exact Builder.gain_respond hf s.stamp hq s'

theorem HasHistory.retains (hs : s.HasHistory h) (number : Nat) :
    Retains (s.regexesOf number) (sinceCleared number h) := by
  induction hs with
  | start => exact retains_empty
  | @step s h hs step ih =>
    rw [sinceCleared_concat]
    by_cases hstep : ∃ request, step = .builder number request
    · obtain ⟨request, rfl⟩ := hstep
      rw [asked?, if_pos rfl]
      dsimp only
      cases hb : s.builders[number]? with
      | none =>
        have hrun : s.run (.builder number request) =
            (s, { result := .error .noSuchObject }) := by rw [run, hb]
        have hnone : s.regexesOf number = {} := by rw [regexesOf, hb]
        rw [hrun]
        split
        · rw [hnone]
          exact retains_empty
        · refine ih.concat rfl fun source hu => ?_
          cases request <;> cases hu
      | some b =>
        have hf := (hs.isStateOf b (List.mem_of_getElem? hb)).isFaithful
        rw [regexesOf_eq hb] at ih
        split
        · next hq =>
          obtain rfl : request = .clearRegexes := hq
          rw [regexesOf_run hb]
          exact retains_empty
        · next hq => exact ih.gain (gain_run hb hf hq) rfl
    · have hne : ∀ request, step ≠ .builder number request := fun q hq => hstep ⟨q, hq⟩
      have ha : asked? number (step, (s.run step).2) = none := by
        cases step with
        | builder k request =>
          refine if_neg ?_
          rintro rfl
          exact hne request rfl
        | _ => rfl
      rw [regexesOf_run_of_ne hne, ha]
      exact ih

/-! ## What a step shows of it -/

theorem mem_events_run_iff (hb : s.builders[number]? = some b) (hs : b.IsStateOf b.options)
    (request : Builder.Request) (source : String) :
    .compiledRegex source ∈ (s.run (.builder number request)).2.events ↔
      request.neededSource? b.options = some source ∧
        (Regex.compile? {} source).isSome = true ∧ source ∉ b.regexCache.sources := by
  have hlimits : b.limits = {} := hs.precedes.limits
  rw [← Event.mem_filterMap_compiled?, ← hlimits]
  by_cases hq : request = .clearRegexes
  · subst hq
    rw [run, hb]
    exact iff_of_false List.not_mem_nil (by rintro ⟨⟨⟩, -⟩)
  · exact (gain_run hb hs.isFaithful hq).mem_compiled_iff source

/-- A step that fails leaves the regular expressions of every builder. -/
theorem regexesOf_run_of_error (hb : s.builders[number]? = some b) (hf : b.IsFaithful) {step : Step}
    {e : Failure} (he : (s.run step).2.result = .error e) :
    (s.run step).1.regexesOf number = s.regexesOf number := by
  by_cases hstep : ∃ request, step = .builder number request
  · obtain ⟨request, rfl⟩ := hstep
    have hq : request ≠ .clearRegexes := by
      rintro rfl
      rw [run, hb] at he
      cases he
    have hg := gain_run hb hf hq
    have hu : request.usedSource? (.error e) = none := by cases request <;> rfl
    rw [he, hu] at hg
    rw [hg.eq_of_unused, regexesOf_eq hb]
  · exact regexesOf_run_of_ne fun q hq => hstep ⟨q, hq⟩

theorem map_tokenCache_set_clearRegexes (hb : s.builders[number]? = some b) :
    (s.builders.set number b.clearRegexes).map (·.tokenCache) =
      s.builders.map (·.tokenCache) := by
  obtain ⟨hlt, rfl⟩ := List.getElem?_eq_some_iff.1 hb
  have hlt' : number < (s.builders.map (·.tokenCache)).length := by rwa [List.length_map]
  have he : s.builders[number].clearRegexes.tokenCache =
      (s.builders.map (·.tokenCache))[number] := by
    rw [List.getElem_map]
    rfl
  rw [List.map_set, he, List.set_getElem_self]

/-- A builder keeps the regular expressions that were asked for since they were dropped. `s` is any
session with its history `h`, and `number` is one of its builders.

The sources that it keeps are all different. They are those of the compiled templates, and of the
texts that were matched against or read with a source, that it had an answer for since it was told
to drop them; and each of them was compiled once in that time. A request compiles a source exactly
if it needs it, it is a regular expression, and it is not kept. A step that fails leaves what is
kept, whatever it changed of the tokens. To drop the regular expressions takes no tokens from
anyone, and the templates that were compiled stay and answer as before. -/
theorem regexes_by_history (hs : s.HasHistory h) (hb : s.builders[number]? = some b) :
    let sources := (s.regexesOf number).sources
    let recent := sinceCleared number h
    sources.Nodup ∧
      (∀ source, source ∈ sources ↔
        ∃ x ∈ recent, x.1.usedSource? x.2.result = some source) ∧
      (recent.flatMap fun x => x.2.events.filterMap Event.compiled?) = sources.reverse ∧
      (∀ request source,
        .compiledRegex source ∈ (s.run (.builder number request)).2.events ↔
          request.neededSource? b.options = some source ∧
            (Regex.compile? {} source).isSome = true ∧ source ∉ sources) ∧
      (∀ step e, (s.run step).2.result = .error e →
        (s.run step).1.regexesOf number = s.regexesOf number) ∧
      let cleared := (s.run (.builder number .clearRegexes)).1
      cleared.builders.map (·.tokenCache) = s.builders.map (·.tokenCache) ∧
        cleared.tokenCaches = s.tokenCaches ∧ cleared.templates = s.templates ∧
        ∀ k text, (cleared.run (.matchTemplate k text)).2 = (s.run (.matchTemplate k text)).2 := by
  have hstate := hs.isStateOf b (List.mem_of_getElem? hb)
  have hret := hs.retains number
  have hrun : (s.run (.builder number .clearRegexes)).1 =
      { s with builders := s.builders.set number b.clearRegexes } := by
    rw [run, hb]
    rfl
  refine ⟨hret.nodup, hret.mem, hret.compiled, fun request source => ?_, fun step e he => ?_, ?_⟩
  · rw [regexesOf_eq hb]
    exact mem_events_run_iff hb hstate request source
  · exact regexesOf_run_of_error hb hstate.isFaithful he
  · rw [hrun]
    refine ⟨map_tokenCache_set_clearRegexes hb, rfl, rfl, fun k text => ?_⟩
    rw [run, run]
    cases s.templates[k]? <;> rfl

/-- A session with a builder that matched a text and then dropped its regular expressions. -/
def dropped : Session :=
  ((({} : Session).run (.newBuilder .standard)).1.run (.builder 0 (.isMatch "x" "x"))).1.run
    (.builder 0 .clearRegexes) |>.1

/-- What was dropped is compiled again, and a template whose override is at fault leaves its tokens
but no regular expression. -/
theorem regexes_by_history_dropped :
    (∃ h b, dropped.HasHistory h ∧ dropped.builders[0]? = some b) ∧
      .compiledRegex "x" ∈ (dropped.run (.builder 0 (.isMatch "x" "x"))).2.events ∧
      ((dropped.run (.builder 0 (.compile "a/{x}" [("x", "(")]))).2.result =
          .error (.error .regex) ∧
        (dropped.run (.builder 0 (.compile "a/{x}" [("x", "(")]))).1.regexesOf 0 =
          dropped.regexesOf 0) := by
  have hs : dropped.HasHistory _ := ((HasHistory.start.step (.newBuilder .standard)).step _).step _
  have hb : dropped.builders[0]? = some ({} : Builder) := by decide +kernel
  have he : (dropped.run (.builder 0 (.compile "a/{x}" [("x", "(")]))).2.result =
      .error (.error .regex) := by decide +kernel
  obtain ⟨-, -, -, hcompiled, hfailed, -⟩ := regexes_by_history hs hb
  exact ⟨⟨_, _, hs, hb⟩, (hcompiled _ _).2 ⟨rfl, by decide +kernel, by decide +kernel⟩, he,
    hfailed _ _ he⟩

end Session

end PathTemplate
