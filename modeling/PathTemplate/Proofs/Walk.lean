import PathTemplate.Regex
/-!
# Walks over a text

What parts in a row match is told part by part. Each of the parts that a template's expression is
made of can go on from a place in just the ways that the words for it give: a character or a row of
characters as it stands, a repeated set as any word over the set.

A walk leaves notes of where groups start and end; of these only the latest for each group counts.
-/

namespace PathTemplate.Regex

/-! ## Words at a place -/

/-- Whether a word stands at a place in a text. -/
def At (text : Array Char) (i : Nat) (w : List Char) : Prop :=
  w <+: text.toList.drop i

variable {text : Array Char}

theorem at_nil (i : Nat) : At text i [] :=
  List.nil_prefix

theorem at_append {i : Nat} {u v : List Char} :
    At text i (u ++ v) ↔ At text i u ∧ At text (i + u.length) v := by
  constructor
  · rintro ⟨rest, h⟩
    rw [List.append_assoc] at h
    refine ⟨⟨v ++ rest, h⟩, ⟨rest, ?_⟩⟩
    rw [← List.drop_drop, ← h, List.drop_left]
  · rintro ⟨⟨mid, hu⟩, ⟨rest, hv⟩⟩
    refine ⟨rest, ?_⟩
    rw [← List.drop_drop, ← hu, List.drop_left] at hv
    rw [List.append_assoc, hv, hu]

theorem at_cons {i : Nat} {c : Char} {w : List Char} :
    At text i (c :: w) ↔ At text i [c] ∧ At text (i + 1) w :=
  at_append (u := [c])

theorem at_singleton {i : Nat} {c : Char} : At text i [c] ↔ text[i]? = some c := by
  rw [← Array.getElem?_toList, ← List.head?_drop, At]
  cases text.toList.drop i <;> simp [eq_comm]

/-- A word at the start of a text that reaches to its end is the whole text. -/
theorem eq_toList_of_at {w : List Char} (h : At text 0 w) (hw : text.size ≤ w.length) :
    w = text.toList :=
  h.eq_of_length_le (by simpa using hw)

theorem at_toList (text : Array Char) : At text 0 text.toList :=
  List.prefix_rfl

/-- The text between the two ends of a word is the word. -/
theorem toList_extract_of_at {i : Nat} {w : List Char} (h : At text i w) :
    (text.extract i (i + w.length)).toList = w := by
  obtain ⟨rest, h⟩ := h
  rw [Array.toList_extract, List.extract_eq_take_drop, Nat.add_sub_cancel_left, ← h, List.take_left]

/-! ## Progress -/

namespace Progress

/-- The progress past a word. -/
def past (p : Progress) (w : List Char) : Progress :=
  { p with place := p.place + w.length }

@[simp] theorem past_nil (p : Progress) : p.past [] = p :=
  rfl

@[simp] theorem place_past (p : Progress) (w : List Char) :
    (p.past w).place = p.place + w.length :=
  rfl

@[simp] theorem past_past (p : Progress) (u v : List Char) :
    (p.past u).past v = p.past (u ++ v) := by
  simp [past, Nat.add_assoc]

/-- The progress past a word that a group is noted for. -/
def captured (p : Progress) (index : Nat) (w : List Char) : Progress :=
  ((p.note (.start index)).past w).note (.stop index)

theorem group?_captured_self (p : Progress) (index : Nat) (w : List Char) :
    (p.captured index w).group? index = some (p.place, p.place + w.length) := by
  have h : (Slot.start index == Slot.stop index) = false := beq_false_of_ne nofun
  simp only [captured, note, past, group?, List.lookup_cons, BEq.rfl, h]
  rfl

theorem group?_captured_of_ne (p : Progress) {index k : Nat} (h : k ≠ index) (w : List Char) :
    (p.captured index w).group? k = p.group? k := by
  have h₁ : (Slot.start k == Slot.start index) = false := by simpa using h
  have h₂ : (Slot.stop k == Slot.stop index) = false := by simpa using h
  have h₃ : (Slot.start k == Slot.stop index) = false := beq_false_of_ne nofun
  have h₄ : (Slot.stop k == Slot.start index) = false := beq_false_of_ne nofun
  simp only [captured, note, past, group?, List.lookup_cons, h₁, h₂, h₃, h₄]

theorem meets_textStart_iff {p : Progress} (hp : p.place ≤ text.size) :
    p.meets text .textStart = true ↔ p.place = 0 := by
  rw [meets, Look.holds, before?, Option.isNone_iff_eq_none]
  by_cases h : p.place = 0
  · rw [if_pos h]
    exact iff_of_true rfl h
  · rw [if_neg h, Array.getElem?_eq_none_iff]
    omega

theorem meets_textEnd_iff {p : Progress} :
    p.meets text .textEnd = true ↔ text.size ≤ p.place := by
  rw [meets, Look.holds, after?, Option.isNone_iff_eq_none, Array.getElem?_eq_none_iff]

end Progress

/-! ## Parts -/

namespace Tree

theorem matches_set_iff {s : CharSet} {p q : Progress} :
    (set s).Matches text p q ↔
      ∃ c, s.contains c = true ∧ At text p.place [c] ∧ q = p.past [c] := by
  simp only [Matches, Progress.take?, Progress.after?, at_singleton]
  constructor
  · intro h
    split at h
    · next c hc =>
      split at h
      · next hs => exact ⟨c, hs, hc, (Option.some.inj h).symm⟩
      · cases h
    · cases h
  · rintro ⟨c, hs, hc, rfl⟩
    rw [hc]
    dsimp only
    rw [if_pos hs]
    rfl

/-- A set, a number of times, matches the words of that length over it. -/
theorem times_set_iff {s : CharSet} (n : Nat) : ∀ {p q : Progress},
    Times ((set s).Matches text) n p q ↔
      ∃ w : List Char, w.length = n ∧ (∀ c ∈ w, s.contains c = true) ∧ At text p.place w ∧
        q = p.past w := by
  induction n with
  | zero =>
    intro p q
    simp only [Times, List.length_eq_zero_iff]
    constructor
    · rintro rfl
      exact ⟨[], rfl, by simp, at_nil _, rfl⟩
    · rintro ⟨_, rfl, -, -, rfl⟩
      rfl
  | succ n ih =>
    intro p q
    simp only [Times, ih, matches_set_iff]
    constructor
    · rintro ⟨_, ⟨c, hc, hp, rfl⟩, w, rfl, hw, hm, rfl⟩
      exact ⟨c :: w, rfl, by simpa [hc] using hw, at_cons.2 ⟨hp, hm⟩, by simp⟩
    · rintro ⟨w, hn, hw, hp, rfl⟩
      obtain ⟨c, w, rfl⟩ := List.exists_cons_of_length_eq_add_one hn
      obtain ⟨hc, hw⟩ := List.forall_mem_cons.1 hw
      obtain ⟨hp, hm⟩ := at_cons.1 hp
      exact ⟨_, ⟨c, hc, hp, rfl⟩, w, by simpa using hn, hw, hm, by simp⟩

/-- A set, at least once, matches the words over it that are not empty. -/
theorem matches_rep_set_iff {s : CharSet} {greedy : Bool} {p q : Progress} :
    (rep 1 none greedy (set s)).Matches text p q ↔
      ∃ w : List Char, w ≠ [] ∧ (∀ c ∈ w, s.contains c = true) ∧ At text p.place w ∧
        q = p.past w := by
  rw [Matches]
  simp only [Option.all_none, true_and]
  constructor
  · rintro ⟨n, hn⟩
    obtain ⟨w, hl, hw⟩ := (times_set_iff _).1 hn
    refine ⟨w, ?_, hw⟩
    rintro rfl
    rw [List.length_nil] at hl
    omega
  · rintro ⟨w, hn, hw⟩
    have hl := List.length_pos_iff.2 hn
    exact ⟨w.length - 1, (times_set_iff _).2 ⟨w, by omega, hw⟩⟩

theorem matches_opt_iff {r : Tree} {greedy : Bool} {p q : Progress} :
    (rep 0 (some 1) greedy r).Matches text p q ↔ q = p ∨ r.Matches text p q := by
  simp only [Matches, Option.all_some, decide_eq_true_eq, Nat.zero_add, Nat.sub_zero]
  constructor
  · rintro ⟨n, hn, ht⟩
    match n, hn, ht with
    | 0, _, ht => exact .inl ht
    | 1, _, ⟨_, hm, rfl⟩ => exact .inr hm
  · rintro (rfl | h)
    · exact ⟨0, Nat.zero_le 1, rfl⟩
    · exact ⟨1, Nat.le_refl 1, q, h, rfl⟩

/-! ## Rows -/

/-- Parts in a row, one after the other. -/
def Chain (text : Array Char) : List Tree → Progress → Progress → Prop
  | [], p, q => q = p
  | r :: more, p, q => ∃ m, r.Matches text p m ∧ Chain text more m q

theorem chain_singleton {r : Tree} {p q : Progress} :
    Chain text [r] p q ↔ r.Matches text p q := by
  simp [Chain]

theorem chain_append {rs ss : List Tree} : ∀ {p q : Progress},
    Chain text (rs ++ ss) p q ↔ ∃ m, Chain text rs p m ∧ Chain text ss m q := by
  induction rs with
  | nil => simp [Chain]
  | cons r rs ih =>
    intro p q
    simp only [List.cons_append, Chain, ih]
    constructor
    · rintro ⟨x, hx, m, hm, hq⟩
      exact ⟨m, ⟨x, hx, hm⟩, hq⟩
    · rintro ⟨m, ⟨x, hx, hm⟩, hq⟩
      exact ⟨x, hx, m, hm, hq⟩

theorem matches_ofParts_iff {rs : List Tree} : ∀ {p q : Progress},
    (ofParts rs).Matches text p q ↔ Chain text rs p q := by
  induction rs with
  | nil => exact Iff.rfl
  | cons r rs ih =>
    intro p q
    cases rs with
    | nil => exact chain_singleton.symm
    | cons s rs =>
      rw [ofParts, Matches, Chain]
      · simp only [ih]
      · simp

end Tree

end PathTemplate.Regex
