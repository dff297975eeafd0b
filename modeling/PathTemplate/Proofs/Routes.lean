import PathTemplate.Proofs.Sessions
/-!
# The two routes to a match

A builder matches a text against a template in two ways. It compiles the template and asks the
result, or it writes the source for the template and is asked about that source, which goes through
the regular expressions that it keeps. Both ways say the same in every state that a builder can come
into, also if it changes in between (`Builder.compile_iff_source`): what a builder answers
depends on its options only, since it keeps nothing but what is right.
-/

namespace PathTemplate

namespace Anew

variable {o : Options} {template : String} {e : Error} {limits : Regex.Limits}

theorem isTemplate_of_tokens (h : tokens o template = .error e) : e.isTemplate = true := by
  unfold tokens at h
  cases ht : Token.ofTemplate o template with
  | error cause =>
    rw [ht] at h
    cases h
    rfl
  | ok ts =>
    rw [ht] at h
    cases h

/-- A source either has a regular expression, which bears that source, or it is at fault. -/
theorem regex_cases (limits : Regex.Limits) (source : String) :
    (∃ r, regex limits source = .ok r ∧ r.source = source) ∨
      regex limits source = .error .regex := by
  cases hc : Regex.compile? limits source with
  | none =>
    right
    rw [regex, hc]
  | some r =>
    left
    refine ⟨r, regex_eq_ok.2 hc, ?_⟩
    simp only [Regex.compile?, Option.bind_eq_bind, Option.bind_eq_some_iff] at hc
    obtain ⟨e, -, tree, -, hc⟩ := hc
    split at hc
    · cases hc
      rfl
    · cases hc

end Anew

namespace Builder

variable {o : Options} {b b' : Builder}

/-! ## The states of a builder -/

/-- The state after a request. `stamp` is the stamp for tokens that the request makes. -/
def after (b : Builder) (stamp : Nat) : Request → Builder
  | .options => b
  | .tokens template => (b.tokens stamp template).state
  | .namesOf template => (b.namesOf stamp template).state
  | .source template overrides => (b.source stamp template overrides).state
  | .compile template overrides => (b.compile stamp template overrides).state
  | .isMatch source text => (b.isMatch source text).state
  | .extract source text => (b.extract source text).state
  | .clearRegexes => b.clearRegexes

/-- The states that a builder with the given options comes into, by any requests. -/
inductive IsStateOf (o : Options) : Builder → Prop
  | new {b : Builder} (h : Builder.new o = .ok b) : IsStateOf o b
  | after {b : Builder} (h : IsStateOf o b) (stamp : Nat) (request : Request) :
    IsStateOf o (b.after stamp request)

theorem precedes_after (b : Builder) (stamp : Nat) (request : Request) :
    b.Precedes (b.after stamp request) := by
  cases request with
  | options => exact .refl b
  | tokens template => exact b.precedes_tokens stamp template
  | namesOf template => exact b.precedes_tokens stamp template
  | source template overrides => exact b.precedes_source stamp template overrides
  | compile template overrides => exact b.precedes_compile stamp template overrides
  | isMatch source text => exact b.precedes_regex source
  | extract source text => exact b.precedes_regex source
  | clearRegexes => exact b.precedes_clearRegexes

/-- Whatever a builder is asked, it is a later state of a new one. -/
theorem IsStateOf.precedes (h : b.IsStateOf o) : Precedes { options := o } b := by
  induction h with
  | new h =>
    rw [Builder.new] at h
    split at h
    · cases h
    · cases h
      exact .refl _
  | after h stamp request ih => exact ih.trans (precedes_after _ stamp request)

theorem IsStateOf.isFaithful (h : b.IsStateOf o) : b.IsFaithful :=
  h.precedes.faithful (isFaithful_of_options o)

theorem IsStateOf.of_new (h : Builder.new o = .ok b) : b.IsStateOf b.options := by
  have hb := (IsStateOf.new h).precedes.options
  rw [hb]
  exact .new h

/-! ## The routes -/

theorem IsStateOf.result_source (h : b.IsStateOf o) (stamp : Nat) (template : String)
    (overrides : Overrides) : (b.source stamp template overrides).result =
      (Anew.tokens o template).map (Source.ofTokens o overrides) := by
  rw [Builder.result_source h.isFaithful, h.precedes.options]

theorem IsStateOf.result_namesOf (h : b.IsStateOf o) (stamp : Nat) (template : String) :
    (b.namesOf stamp template).result = (Anew.tokens o template).map Token.names := by
  rw [Builder.result_namesOf h.isFaithful, h.precedes.options]

theorem IsStateOf.result_compile (h : b.IsStateOf o) (stamp : Nat) (template : String)
    (overrides : Overrides) :
    (b.compile stamp template overrides).result = Anew.compile {} o template overrides := by
  rw [Builder.result_compile h.isFaithful, h.precedes.options, h.precedes.limits]

theorem IsStateOf.result_isMatch (h : b.IsStateOf o) (source text : String) :
    (b.isMatch source text).result = (Anew.regex {} source).map (·.isMatch text) := by
  rw [isMatch, Outcome.map, result_regex h.isFaithful, h.precedes.limits]

theorem IsStateOf.result_extract (h : b.IsStateOf o) (source text : String) :
    (b.extract source text).result = (Anew.regex {} source).map (·.extract text) := by
  rw [extract, Outcome.map, result_regex h.isFaithful, h.precedes.limits]

/-- What a template is compiled to against what is said of its source, in any states of builders
with the same options. Both fail in the same way on the text of a template; a template is compiled
exactly if its source can be asked about, and then says the same as the source; and it fails for its
regular expression exactly if its source fails in the same way whatever it is asked. -/
theorem compile_iff_source {b₁ b₂ b₃ b₄ b₅ : Builder} (h₁ : b₁.IsStateOf o) (h₂ : b₂.IsStateOf o)
    (h₃ : b₃.IsStateOf o) (h₄ : b₄.IsStateOf o) (h₅ : b₅.IsStateOf o) (stamp₁ stamp₂ stamp₃ : Nat)
    (template : String) (overrides : Overrides) (text : String) :
    let compiled := (b₁.compile stamp₁ template overrides).result
    let source := (b₂.source stamp₂ template overrides).result
    let names := (b₃.namesOf stamp₃ template).result
    let isMatch (s : String) := (b₄.isMatch s text).result
    let values (s : String) := (b₅.extract s text).result
    (∀ e, compiled = .error e ∧ e.isTemplate = true ↔ source = .error e) ∧
      ((∃ t, compiled = .ok t) ↔ ∃ s, source = .ok s ∧ ∃ holds, isMatch s = .ok holds) ∧
      (∀ t, compiled = .ok t → source = .ok t.regex.source ∧ names = .ok t.names ∧
        isMatch t.regex.source = .ok (t.isMatch text) ∧
        values t.regex.source = .ok (t.values text)) ∧
      (compiled = .error .regex ↔
        ∃ s, source = .ok s ∧ isMatch s = .error .regex ∧ values s = .error .regex) := by
  dsimp only
  simp only [h₁.result_compile, h₂.result_source, h₃.result_namesOf, h₄.result_isMatch,
    h₅.result_extract]
  unfold Anew.compile
  cases ht : Anew.tokens o template with
  | error e =>
    have he := Anew.isTemplate_of_tokens ht
    refine ⟨fun e' => ⟨?_, ?_⟩, ?_, nofun, ?_⟩
    · rintro ⟨⟨⟩, -⟩
      rfl
    · rintro ⟨⟩
      exact ⟨rfl, he⟩
    · exact iff_of_false (by rintro ⟨_, ⟨⟩⟩) (by rintro ⟨_, ⟨⟩, -⟩)
    · refine iff_of_false ?_ (by rintro ⟨_, ⟨⟩, -⟩)
      rintro ⟨⟩
      cases he
  | ok ts =>
    simp only [Except.bind, Except.map, Except.ok.injEq, exists_eq_left']
    obtain ⟨r, hr, hs⟩ | hr := Anew.regex_cases {} (Source.ofTokens o overrides ts)
    · rw [hr]
      refine ⟨by simp, by simp, ?_, by simp⟩
      rintro t ⟨⟩
      dsimp only
      rw [hs, hr]
      exact ⟨rfl, rfl, rfl, rfl⟩
    · rw [hr]
      refine ⟨?_, by simp, by simp, by simp⟩
      intro e
      refine iff_of_false ?_ nofun
      rintro ⟨⟨⟩, ⟨⟩⟩

/-- A builder that has compiled a template and dropped its regular expressions. -/
def cleared : Builder :=
  (after {} 0 (.compile "a/{x}" [])).after 1 .clearRegexes

/-- An override that is no regular expression makes both routes fail, the one at once and the other
when the source is asked about. -/
theorem compile_iff_source_cleared :
    (cleared.compile 2 "a/{x}" [("x", "(")]).result = .error .regex ∧
      ∃ s, (cleared.source 3 "a/{x}" [("x", "(")]).result = .ok s ∧
        (cleared.isMatch s "a/b").result = .error .regex ∧
        (cleared.extract s "a/b").result = .error .regex := by
  have h : cleared.IsStateOf {} := .after (.after (.new rfl) 0 _) 1 .clearRegexes
  have hc : (cleared.compile 2 "a/{x}" [("x", "(")]).result = .error .regex := by
    decide +kernel
  exact ⟨hc, (compile_iff_source h h h h h 2 3 4 _ _ "a/b").2.2.2.1 hc⟩

end Builder

namespace Session

variable {s : Session} {number : Nat} {b : Builder}

/-! ## Builders of sessions -/

theorem builders_report {σ α : Type} (s : Session) (o : Outcome σ α)
    {answer : Session → α → Session × Answer} (ha : ∀ s a, (answer s a).1.builders = s.builders) :
    (s.report o answer).1.builders = s.builders := by
  unfold report
  cases o.result with
  | error e => rfl
  | ok a => exact ha _ a

theorem builders_runBuilder (hb : s.builders[number]? = some b) (request : Builder.Request) :
    (s.runBuilder number b request).1.builders =
      s.builders.set number (b.after s.stamp request) := by
  cases request with
  | options =>
    obtain ⟨hlt, rfl⟩ := List.getElem?_eq_some_iff.1 hb
    exact (List.set_getElem_self hlt).symm
  | clearRegexes => rfl
  | _ => exact builders_report _ _ fun _ _ => rfl

theorem Config.exists_new_eq {config : Config} (h : config.builder = .ok b) :
    ∃ o, Builder.new o = .ok b := by
  cases config with
  | standard => exact ⟨{}, h⟩
  | given o => exact ⟨o, h⟩
  | settings text =>
    rw [builder] at h
    cases ho : Options.ofSettings text with
    | error e => rw [ho] at h; cases h
    | ok o => rw [ho] at h; exact ⟨o, h⟩

/-- A step leaves the builders of a session states of builders. -/
theorem isStateOf_run (h : ∀ b ∈ s.builders, b.IsStateOf b.options) (step : Step) :
    ∀ b ∈ (s.run step).1.builders, b.IsStateOf b.options := by
  cases step with
  | newBuilder config =>
    rw [run]
    cases hc : config.builder with
    | error e => exact h
    | ok c =>
      intro b hb
      rcases List.mem_append.1 hb with hb | hb
      · exact h b hb
      · obtain rfl := List.mem_singleton.1 hb
        obtain ⟨o, ho⟩ := Config.exists_new_eq hc
        exact .of_new ho
  | builder number request =>
    rw [run]
    cases hc : s.builders[number]? with
    | none => exact h
    | some c =>
      dsimp only
      rw [builders_runBuilder hc]
      intro b hb
      rcases List.mem_or_eq_of_mem_set hb with hb | rfl
      · exact h b hb
      · rw [(Builder.precedes_after c s.stamp request).options]
        exact .after (h c (List.mem_of_getElem? hc)) s.stamp request
  | matchTemplate number text =>
    rw [run]
    cases s.templates[number]? <;> exact h
  | newTokenCache => exact h
  | newRegexCache => exact h
  | tokenCache number request =>
    rw [run]
    split
    · exact h
    · cases request with
      | contains template => exact h
      | tokens template o =>
        dsimp only [runTokenCache]
        rw [builders_report _ _ fun _ _ => rfl]
        exact h
  | regexCache number request =>
    rw [run]
    split
    · exact h
    · cases request with
      | clear => exact h
      | regex source =>
        dsimp only [runRegexCache]
        rw [builders_report _ _ fun _ _ => rfl]
        exact h

end Session

end PathTemplate
