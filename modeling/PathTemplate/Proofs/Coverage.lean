import PathTemplate.Proofs.Compiling
/-!
# What a match covers

The regular expression of a template is bounded by the start and the end of a line. Unless a flag
makes every line count, these are the ends of the text, and a match is the text as a whole. With
that flag a match is made of whole lines.
-/

namespace PathTemplate

open Regex

namespace Regex

variable {text : Array Char} {p q : Progress}

/-! ## A match goes forward and stays in the text -/

theorem Times.place_le {R : Progress → Progress → Prop}
    (hR : ∀ {p q}, R p q → p.place ≤ text.size → p.place ≤ q.place ∧ q.place ≤ text.size)
    (n : Nat) : ∀ {p q}, Times R n p q → p.place ≤ text.size →
      p.place ≤ q.place ∧ q.place ≤ text.size := by
  induction n with
  | zero =>
    rintro p _ rfl hp
    exact ⟨Nat.le_refl _, hp⟩
  | succ n ih =>
    rintro p q ⟨m, hm, hq⟩ hp
    have h₁ := hR hm hp
    have h₂ := ih hq h₁.2
    exact ⟨Nat.le_trans h₁.1 h₂.1, h₂.2⟩

theorem Tree.Matches.place_le {r : Tree} : ∀ {p q}, r.Matches text p q → p.place ≤ text.size →
    p.place ≤ q.place ∧ q.place ≤ text.size := by
  induction r with
  | empty =>
    rintro p _ rfl hp
    exact ⟨Nat.le_refl _, hp⟩
  | set s =>
    intro p q h hp
    obtain ⟨c, -, hc, rfl⟩ := matches_set_iff.1 h
    obtain ⟨hlt, -⟩ := Array.getElem?_eq_some_iff.1 (at_singleton.1 hc)
    simp only [Progress.place_past, List.length_singleton]
    omega
  | look l =>
    rintro p _ ⟨-, rfl⟩ hp
    exact ⟨Nat.le_refl _, hp⟩
  | cat a b iha ihb =>
    rintro p q ⟨m, hm, hq⟩ hp
    have h₁ := iha hm hp
    have h₂ := ihb hq h₁.2
    exact ⟨Nat.le_trans h₁.1 h₂.1, h₂.2⟩
  | alt a b iha ihb =>
    rintro p q (h | h) hp
    · exact iha h hp
    · exact ihb h hp
  | group index name r ih =>
    -- Noting where the group starts and ends leaves the place as it is.
    rintro p _ ⟨m, hm, rfl⟩ hp
    have h := ih hm hp
    exact h
  | rep min max greedy r ih =>
    rintro p q ⟨n, -, h⟩ hp
    exact Times.place_le ih _ h hp

/-! ## The ends of lines -/

theorem Progress.meets_lineStart_iff (hp : p.place ≤ text.size) :
    p.meets text (.lineStart false) = true ↔
      p.place = 0 ∨ text[p.place - 1]? = some '\n' := by
  rw [meets, Look.holds, before?]
  by_cases h : p.place = 0
  · simp [h]
  · have hlt : p.place - 1 < text.size := by omega
    simp [h, hlt]

theorem Progress.meets_lineEnd_iff (hp : p.place ≤ text.size) :
    p.meets text (.lineEnd false) = true ↔
      p.place = text.size ∨ text[p.place]? = some '\n' := by
  rw [meets, Look.holds, after?]
  by_cases h : p.place = text.size
  · simp [h]
  · have hlt : p.place < text.size := by omega
    simp [h, hlt]

end Regex

namespace Options

variable {o : Options}

/-- Carriage returns are no line breaks in a template: there is no flag that makes them so. -/
theorem crlf_regexFlags (ho : o.fault? = none) : o.regexFlags.crlf = false := by
  rw [← Bool.not_eq_true]
  intro h
  rcases (apply_flagChange_iff o .crlf false).1 h with h | h
  · exact absurd (allowed_of_fault? ho _ h) (by decide)
  · cases h

end Options

/-! ## The ends of a match -/

namespace Source

variable {o : Options} {tokens : List Token} {text : Array Char} {p q : Progress}

/-- A match of a template starts and ends where its two ends are. -/
theorem meets_of_matches (h : (tree o tokens).Matches text p q) :
    p.meets text (o.regexFlags.look .lineStart) = true ∧
      q.meets text (o.regexFlags.look .lineEnd) = true := by
  rw [matches_tree_iff_chain, bounded, Tree.Chain] at h
  simp only [Tree.chain_append, Tree.chain_singleton, Tree.Matches] at h
  obtain ⟨_, ⟨hs, rfl⟩, _, -, he, rfl⟩ := h
  exact ⟨hs, he⟩

/-- A match within a text is all of it, or is made of whole lines if lines count. -/
theorem covers_of_matches (ho : o.fault? = none) (hp : p.place ≤ text.size)
    (h : (tree o tokens).Matches text p q) :
    ('m' ∉ o.flags.toList → p.place = 0 ∧ q.place = text.size) ∧
      ('m' ∈ o.flags.toList → (p.place = 0 ∨ text[p.place - 1]? = some '\n') ∧
        (q.place = text.size ∨ text[q.place]? = some '\n')) := by
  obtain ⟨hs, he⟩ := meets_of_matches h
  have hq := (h.place_le hp).2
  constructor
  · intro hm
    have hf : o.regexFlags.multiLine = false := by
      rwa [← Bool.not_eq_true, o.multiLine_regexFlags_iff]
    simp only [Flags.look, hf, Bool.false_eq_true, if_false] at hs he
    rw [Progress.meets_textStart_iff hp] at hs
    rw [Progress.meets_textEnd_iff] at he
    exact ⟨hs, Nat.le_antisymm hq he⟩
  · intro hm
    have hf : o.regexFlags.multiLine = true := o.multiLine_regexFlags_iff.2 hm
    simp only [Flags.look, hf, if_true, Options.crlf_regexFlags ho] at hs he
    exact ⟨(Progress.meets_lineStart_iff hp).1 hs, (Progress.meets_lineEnd_iff hq).1 he⟩

end Source

namespace CompiledTemplate

variable {o : Options} {template : String} {limits : Limits} {t : CompiledTemplate}

/-- The match of a text that matches is all of the text. Where the flag for lines is given, it
starts at the start of a line and ends at the end of a line. -/
theorem exists_match_covering (ho : o.fault? = none) (hd : o.defaultExpression = none)
    (hc : Anew.compile limits o template [] = .ok t) {c : String} (hm : t.isMatch c = true) :
    ∃ m, t.regex.find? c.toList.toArray = some m ∧ m.start ≤ m.stop.place ∧
      m.stop.place ≤ c.toList.length ∧
        ('m' ∉ o.flags.toList → m.start = 0 ∧ m.stop.place = c.toList.length) ∧
          ('m' ∈ o.flags.toList → (m.start = 0 ∨ c.toList[m.start - 1]? = some '\n') ∧
            (m.stop.place = c.toList.length ∨ c.toList[m.stop.place]? = some '\n')) := by
  obtain ⟨tokens, ht, -, -⟩ := Anew.compile_eq_ok.1 hc
  obtain ⟨m, hf⟩ := Option.isSome_iff_exists.1 hm
  have hs := start_le_of_find? hf
  have h := matches_of_find? hf
  rw [Anew.tree_of_compile ho hd ht hc] at h
  obtain ⟨hle, hsize⟩ := h.place_le hs
  obtain ⟨h₁, h₂⟩ := Source.covers_of_matches ho hs h
  simp only [List.getElem?_toArray, List.size_toArray] at h₁ h₂ hsize
  exact ⟨m, hf, hle, hsize, h₁, h₂⟩

/-- Where neither case nor greed counts, the text of several lines is matched as a whole. -/
theorem exists_match_covering_lines :
    ∃ t, Anew.compile { weight := none } { flags := "isU" } "x\ny/\x7bb?\x7d" [] = .ok t ∧
      ∃ m, t.regex.find? "x\ny".toList.toArray = some m ∧ m.start = 0 ∧ m.stop.place = 3 := by
  have ht : Token.ofTemplate { flags := "isU" } "x\ny/\x7bb?\x7d" =
      .ok [.literal "x\ny", .separator, .placeholder "b" true] := by rfl
  have hc := Anew.compile_eq_ofTokens (by decide) rfl ht
  have hm : (ofTokens { flags := "isU" }
      [.literal "x\ny", .separator, .placeholder "b" true]).isMatch "x\ny" = true := by
    decide +kernel
  obtain ⟨m, hf, -, -, h, -⟩ := exists_match_covering (by decide) rfl hc hm
  exact ⟨_, hc, m, hf, h (by decide)⟩

/-- Where every line counts, a match need not be all of a text: of `x/` and `y` on two lines, it is
the first line alone. -/
theorem exists_match_not_covering :
    ¬ ∀ (o : Options) (template : String) (limits : Limits) (t : CompiledTemplate) (c : String),
      o.fault? = none → o.defaultExpression = none → Anew.compile limits o template [] = .ok t →
        t.isMatch c = true → ∃ m, t.regex.find? c.toList.toArray = some m ∧ m.start = 0 ∧
          m.stop.place = c.toList.length := by
  intro h
  have ht : Token.ofTemplate { flags := "m" } "\x7ba\x7d" = .ok [.placeholder "a" false] := by rfl
  have hc := Anew.compile_eq_ofTokens (by decide) rfl ht
  have hm : (ofTokens { flags := "m" } [.placeholder "a" false]).isMatch "x/\ny" = true := by
    decide +kernel
  have hl : (Regex.find? (ofTokens { flags := "m" } [.placeholder "a" false]).regex
      "x/\ny".toList.toArray).map (·.stop.place) = some 2 := by
    decide +kernel
  obtain ⟨m, hf, -, he⟩ := h _ _ _ _ "x/\ny" (by decide) rfl hc hm
  rw [hf, Option.map_some, he] at hl
  cases hl

end CompiledTemplate

end PathTemplate
