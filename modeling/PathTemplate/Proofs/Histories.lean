import PathTemplate.Proofs.Routes
/-!
# Histories

A history of a session is all that happened in it since it was empty: its steps in order, each with
its report. It is what the reports of a whole run tell (`Session.exists_hasHistory`), so what holds
of every session with its history holds after any steps, and between any two of them.

What a builder does with a request is said once for all requests (`Builder.respond`): it comes to a
result, a new state and events, and the result still has to be shown in the session.
-/

namespace PathTemplate

/-! ## Requests to builders -/

/-- What comes of a request. The result says how the session shows its answer. `stamp` is the stamp
for tokens that the request makes. -/
def Builder.respond (b : Builder) (stamp : Nat) :
    Request → Outcome Builder (Session → Session × Session.Answer)
  | .options => ⟨.ok fun s => (s, .options b.options), b, []⟩
  | .tokens template => (b.tokens stamp template).map fun sequence s => s.showTokens sequence
  | .namesOf template => (b.namesOf stamp template).map fun names s => (s, .names names)
  | .source template overrides =>
    (b.source stamp template overrides).map fun source s => (s, .text source)
  | .compile template overrides =>
    (b.compile stamp template overrides).map fun t s => s.addTemplate t
  | .isMatch source text => (b.isMatch source text).map fun holds s => (s, .truth holds)
  | .extract source text => (b.extract source text).map fun values s => (s, .values values)
  | .clearRegexes => ⟨.ok fun s => (s, .nothing), b.clearRegexes, []⟩

theorem Builder.state_respond (b : Builder) (stamp : Nat) (request : Request) :
    (b.respond stamp request).state = b.after stamp request := by
  cases request <;> rfl

namespace Session

variable {s : Session} {number : Nat} {b : Builder}

theorem builderReport_map {α β : Type} (o : Outcome Builder α) (f : α → β)
    (answer : Session → β → Session × Answer) :
    s.builderReport number (o.map f) answer =
      s.builderReport number o fun s a => answer s (f a) := by
  unfold builderReport report Outcome.map
  cases o.result <;> rfl

theorem runBuilder_eq (hb : s.builders[number]? = some b) (request : Builder.Request) :
    s.runBuilder number b request =
      s.builderReport number (b.respond s.stamp request) fun s show' => show' s := by
  obtain ⟨hlt, rfl⟩ := List.getElem?_eq_some_iff.1 hb
  cases request with
  | options =>
    have hs : s.builders.set number s.builders[number] = s.builders := List.set_getElem_self hlt
    rw [builderReport, Builder.respond, hs]
    rfl
  | clearRegexes => rfl
  | _ =>
    rw [Builder.respond, builderReport_map]
    rfl

/-! ## Sessions with their histories -/

/-- What happened in a session since it was empty: the steps, each with its report. -/
inductive HasHistory : Session → List (Step × Report) → Prop
  | start : HasHistory {} []
  | step {s : Session} {h : List (Step × Report)} (hs : HasHistory s h) (step : Step) :
    HasHistory (s.run step).1 (h ++ [(step, (s.run step).2)])

variable {h : List (Step × Report)}

theorem HasHistory.exists_append (hs : s.HasHistory h) (steps : List Step) :
    ∃ s' h', HasHistory s' (h ++ h') ∧ h'.map (·.1) = steps ∧ h'.map (·.2) = s.runAll steps := by
  induction steps generalizing s h with
  | nil => exact ⟨s, [], by rwa [List.append_nil], rfl, rfl⟩
  | cons step steps ih =>
    obtain ⟨s', h', hs', h₁, h₂⟩ := ih (hs.step step)
    refine ⟨s', (step, (s.run step).2) :: h', ?_, ?_, ?_⟩
    · rwa [List.append_assoc, List.singleton_append] at hs'
    · rw [List.map_cons, h₁]
    · rw [List.map_cons, h₂]
      rfl

/-- Any steps make a history, and it has the reports of the whole run. -/
theorem exists_hasHistory (steps : List Step) :
    ∃ s h, HasHistory s h ∧ h.map (·.1) = steps ∧ h.map (·.2) = runAll {} steps :=
  HasHistory.start.exists_append steps

theorem HasHistory.isStateOf (hs : s.HasHistory h) :
    ∀ b ∈ s.builders, b.IsStateOf b.options := by
  induction hs with
  | start => exact fun b hm => absurd hm List.not_mem_nil
  | step hs step ih => exact isStateOf_run ih step

/-! ## Builders in a step -/

/-- The report of an outcome, without the session. -/
theorem report_snd {σ α : Type} (s : Session) (o : Outcome σ α)
    (answer : Session → α → Session × Answer) :
    (s.report o answer).2 =
      { result := (o.result.map fun a =>
          (answer { s with stamp := s.stamp + madeBy o.events } a).2).mapError .error
        events := o.events } := by
  unfold report
  cases o.result <;> rfl

theorem getElem?_concat_cases {α : Type} (xs : List α) (x : α) (i : Nat) :
    (xs ++ [x])[i]? = xs[i]? ∨ xs[i]? = none ∧ (xs ++ [x])[i]? = some x := by
  rcases Nat.lt_trichotomy i xs.length with h | rfl | h
  · exact .inl (List.getElem?_append_left h)
  · exact .inr ⟨List.getElem?_eq_none (Nat.le_refl _), List.getElem?_concat_length⟩
  · left
    have hlt : (xs ++ [x]).length ≤ i := by
      rw [List.length_append]
      exact h
    rw [List.getElem?_eq_none (Nat.le_of_lt h), List.getElem?_eq_none hlt]

/-- What a step does to the builders. -/
theorem builders_run (s : Session) (step : Step) : (s.run step).1.builders =
    match step with
    | .newBuilder config => s.builders ++ config.builder.toOption.toList
    | .builder k request =>
      match s.builders[k]? with
      | none => s.builders
      | some b => s.builders.set k (b.after s.stamp request)
    | _ => s.builders := by
  cases step with
  | newBuilder config =>
    dsimp only [run]
    cases config.builder with
    | error e => exact (List.append_nil _).symm
    | ok b => rfl
  | builder k request =>
    dsimp only [run]
    cases hb : s.builders[k]? with
    | none => rfl
    | some b => exact builders_runBuilder hb request
  | matchTemplate k text =>
    dsimp only [run]
    cases s.templates[k]? <;> rfl
  | newTokenCache => rfl
  | newRegexCache => rfl
  | tokenCache k request =>
    dsimp only [run]
    cases s.tokenCaches[k]? with
    | none => rfl
    | some c =>
      cases request with
      | contains template => rfl
      | tokens template o =>
        dsimp only [runTokenCache]
        rw [builders_report _ _ fun _ _ => rfl]
  | regexCache k request =>
    dsimp only [run]
    cases s.regexCaches[k]? with
    | none => rfl
    | some c =>
      cases request with
      | clear => rfl
      | regex source =>
        dsimp only [runRegexCache]
        rw [builders_report _ _ fun _ _ => rfl]

end Session

end PathTemplate
