import PathTemplate.Proofs.Compiling
/-!
# Names that are always bound

A name has the value that was chosen at its first placeholder; the others only repeat what a text
has to look like there. So it is the first placeholder that decides whether every matching text
binds the name. To see that a mandatory placeholder further on does not help, all that can be left
out is left out and the rest is made as short as possible: then no other filling has the same text.
-/

namespace PathTemplate

open Regex

namespace Filling

variable {o : Options} {tokens : List Token} {f g : Filling} {x : Char}

/-- The number of characters of a text that are no separators. -/
def weight (o : Options) (s : String) : Nat :=
  s.toList.countP (· ≠ o.separator)

/-- Nothing for an optional placeholder, and a single character for a mandatory one. -/
def least (tokens : List Token) (x : Char) : Filling :=
  fun i => if tokens[i]?.any Token.isOptional then none else some (String.singleton x)

theorem least_of_placeholder {i : Nat} {name : String} {optional : Bool}
    (h : tokens[i]? = some (.placeholder name optional)) :
    least tokens x i = if optional then none else some (String.singleton x) := by
  simp [least, h, Token.isOptional]

theorem fits_least (hx : x ≠ o.separator) : (least tokens x).Fits o tokens := by
  intro i t h
  cases t with
  | placeholder name optional =>
    rw [least_of_placeholder h]
    cases optional with
    | true => exact rfl
    | false => exact ⟨by simp, by simpa [eq_comm] using hx⟩
  | _ => trivial

/-! ## How much a filling writes -/

/-- What can be chosen for a placeholder is more than nothing. -/
theorem weight_pos {optional : Bool} {s : String} (h : o.Accepts optional (some s)) :
    0 < weight o s := by
  obtain ⟨hn, hs⟩ := h
  obtain ⟨c, hc⟩ := List.exists_mem_of_ne_nil s.toList (by simpa using hn)
  refine List.countP_pos_iff.2 ⟨c, hc, ?_⟩
  have : c ≠ o.separator := fun he => hs (he ▸ hc)
  simpa using this

theorem textAt_placeholder_eq {i : Nat} {name : String} {optional : Bool} :
    f.textAt o tokens i (.placeholder name optional) = (f i).getD "" :=
  rfl

/-- No filling writes less for a token than the least one. -/
theorem weight_textAt_least_le (hg : g.Fits o tokens) {i : Nat} {t : Token}
    (h : tokens[i]? = some t) : weight o ((least tokens x).textAt o tokens i t) ≤
      weight o (g.textAt o tokens i t) := by
  cases t with
  | literal s => exact Nat.le_refl _
  | separator =>
    -- A separator does not count, whether it is there or not.
    have hz : weight o ((least tokens x).textAt o tokens i .separator) = 0 := by
      unfold textAt
      split <;> simp [weight, Token.spelling]
    rw [hz]
    exact Nat.zero_le _
  | placeholder name optional =>
    rw [textAt_placeholder_eq, textAt_placeholder_eq, least_of_placeholder h]
    cases optional with
    | true => exact Nat.zero_le _
    | false =>
      have ha : o.Accepts false (g i) := hg i _ h
      cases hc : g i with
      | none =>
        rw [hc] at ha
        cases ha
      | some s =>
        rw [hc] at ha
        have h₁ : weight o (String.singleton x) ≤ 1 := by
          simpa [weight] using List.countP_le_length (p := (· ≠ o.separator)) (l := [x])
        exact Nat.le_trans h₁ (weight_pos ha)

/-- A separator more or less at the end does not count. -/
theorem Yields.weight_eq {c : String} (h : f.Yields o tokens c) :
    weight o c = weight o (f.text o tokens) := by
  have hs : weight o (String.singleton o.separator) = 0 := by simp [weight]
  have happ : ∀ s, weight o (s ++ String.singleton o.separator) = weight o s := by
    intro s
    rw [weight, String.toList_append, List.countP_append]
    exact congrArg (weight o s + ·) hs
  rcases h with _ | ⟨ha, hl⟩ | ⟨ha, hl, ho, hc⟩
  · rfl
  · exact happ _
  · rw [hc, happ]

/-- What the least filling leaves out, every filling with the same text does. -/
theorem eq_none_of_yields_least (hg : g.Fits o tokens)
    (hy : g.Yields o tokens ((least tokens x).text o tokens)) {i : Nat} {name : String}
    (hi : tokens[i]? = some (.placeholder name true)) : g i = none := by
  have he := hy.weight_eq
  rw [weight, weight, text, text, String.toList_join, String.toList_join] at he
  have hw : weight o ((least tokens x).textAt o tokens i (.placeholder name true)) =
      weight o (g.textAt o tokens i (.placeholder name true)) :=
    countP_eq_of_countP_flatMap_eq tokens (fun i t ht => weight_textAt_least_le hg ht) he i _ hi
  rw [textAt_placeholder_eq, textAt_placeholder_eq, least_of_placeholder hi] at hw
  have ha : o.Accepts true (g i) := hg i _ hi
  cases hc : g i with
  | none => rfl
  | some s =>
    rw [hc] at ha hw
    exact absurd hw (Nat.ne_of_lt (weight_pos ha))

/-- The values of a filling bind a name to some text exactly if one was chosen for it at first. -/
theorem get?_values_iff (hf : f.Fits o tokens) {name : String} (hn : name ∈ Token.names tokens) :
    (∃ v, (f.values tokens).get? name = some v ∧ v ≠ "") ↔
      (f (Token.firstIdx tokens name)).isSome = true := by
  obtain ⟨optional, hi⟩ := Token.exists_getElem?_firstIdx hn
  have ha : o.Accepts optional (f (Token.firstIdx tokens name)) := hf _ _ hi
  have hne : f.first tokens name ≠ some "" := by
    intro he
    have he : f (Token.firstIdx tokens name) = some "" := he
    rw [he] at ha
    exact ha.1 rfl
  have hv : ((f.values tokens).get? name).filter (· ≠ "") = f (Token.firstIdx tokens name) :=
    filter_get?_values hn hne
  rw [← hv]
  cases (f.values tokens).get? name with
  | none => simp
  | some v => by_cases h : v = "" <;> simp [h]

end Filling

namespace CompiledTemplate

variable {o : Options} {template : String} {tokens : List Token} {limits : Limits}
  {t : CompiledTemplate}

theorem exists_ne_separator (o : Options) : ∃ x : Char, x ≠ o.separator := by
  by_cases h : o.separator = 'x'
  · exact ⟨'y', by rw [h]; decide⟩
  · exact ⟨'x', fun he => h he.symm⟩

/-- Where case counts and lines do not, a name is bound to some text by all texts that match exactly
if its first placeholder is mandatory. -/
theorem bound_iff_first_mandatory (ho : o.fault? = none) (hd : o.defaultExpression = none)
    (hs : ∀ c ∈ o.flags.toList, c ∈ ['s', 'u', 'U'])
    (ht : Token.ofTemplate o template = .ok tokens)
    (hc : Anew.compile limits o template [] = .ok t) {name : String}
    (hn : name ∈ Token.names tokens) :
    (∀ c, t.isMatch c = true → ∃ v, (t.values c).get? name = some v ∧ v ≠ "") ↔
      tokens[Token.firstIdx tokens name]? = some (.placeholder name false) := by
  obtain ⟨hi, hl⟩ := Options.caseless_and_multiLine_of_flags hs
  have hr := Anew.tree_of_compile ho hd ht hc
  obtain ⟨optional, hp⟩ := Token.exists_getElem?_firstIdx hn
  constructor
  · intro h
    cases optional with
    | false => exact hp
    | true =>
      exfalso
      obtain ⟨x, hx⟩ := exists_ne_separator o
      have hm : t.isMatch ((Filling.least tokens x).text o tokens) = true :=
        isMatch_of_yields hr hi hl (Filling.fits_least hx) .exact
      obtain ⟨g, hg, hy, hv⟩ := exists_values hr hi hl hm
      have hv : t.values ((Filling.least tokens x).text o tokens) = g.values tokens := hv
      have hb := h _ hm
      rw [hv, Filling.get?_values_iff hg hn, Filling.eq_none_of_yields_least hg hy hp] at hb
      cases hb
  · intro hf c hm
    obtain ⟨g, hg, -, hv⟩ := exists_values hr hi hl hm
    have hv : t.values c = g.values tokens := hv
    rw [hv, Filling.get?_values_iff hg hn]
    -- A mandatory placeholder has no other choice than some text.
    have ha : o.Accepts false (g (Token.firstIdx tokens name)) := hg _ _ hf
    cases hgi : g (Token.firstIdx tokens name) with
    | some s => rfl
    | none =>
      rw [hgi] at ha
      cases ha

/-- A name whose first placeholder is mandatory is bound, though its second one is optional. -/
theorem bound_iff_first_mandatory_repeated :
    ∃ t, Anew.compile { weight := none } { flags := "U" } "\x7bb?\x7d/\x7ba\x7d/\x7ba?\x7d" [] =
        .ok t ∧
      ∀ c, t.isMatch c = true → ∃ v, (t.values c).get? "a" = some v ∧ v ≠ "" := by
  have ht : Token.ofTemplate { flags := "U" } "\x7bb?\x7d/\x7ba\x7d/\x7ba?\x7d" =
      .ok [.placeholder "b" true, .separator, .placeholder "a" false, .separator,
        .placeholder "a" true] := by rfl
  obtain ⟨t, hc⟩ := Anew.exists_compile (by decide) rfl ht
  exact ⟨t, hc, (bound_iff_first_mandatory (by decide) rfl (by simp) ht hc (by decide)).2 rfl⟩

/-- What a template is compiled to whose only name comes as an optional placeholder first and as a
mandatory one then. -/
def repeated : CompiledTemplate where
  regex :=
    { source := Source.ofTokens {} [] [.placeholder "a" true, .separator, .placeholder "a" false]
      tree := Source.tree {} [.placeholder "a" true, .separator, .placeholder "a" false] }
  names := ["a"]

/-- A mandatory placeholder that repeats a name need not bind it: the text `/x` leaves `a` without a
value, for only the first placeholder of the name could give it one. -/
theorem exists_unbound_mandatory :
    ¬ ∀ (o : Options) (template : String) (tokens : List Token) (limits : Limits)
      (t : CompiledTemplate) (c name : String), o.fault? = none → o.defaultExpression = none →
        (∀ c ∈ o.flags.toList, c ∈ ['s', 'u', 'U']) → Token.ofTemplate o template = .ok tokens →
          Anew.compile limits o template [] = .ok t → t.isMatch c = true →
            .placeholder name false ∈ tokens → ∃ v, (t.values c).get? name = some v ∧ v ≠ "" := by
  intro h
  have ht : Token.ofTemplate {} "\x7ba?\x7d/\x7ba\x7d" =
      .ok [.placeholder "a" true, .separator, .placeholder "a" false] := by rfl
  have hc : Anew.compile { weight := none } {} "\x7ba?\x7d/\x7ba\x7d" [] = .ok repeated :=
    Anew.compile_eq_ok.2
      ⟨_, ht, rfl, Source.compile?_eq_some rfl rfl (by decide) (by decide) rfl⟩
  have hm : repeated.isMatch "/x" = true := by decide +kernel
  have hv : (repeated.values "/x").get? "a" = none := by decide +kernel
  obtain ⟨v, hs, -⟩ := h {} _ _ _ repeated "/x" "a" rfl rfl (by simp) ht hc hm (by decide)
  rw [hv] at hs
  cases hs

end CompiledTemplate

end PathTemplate
