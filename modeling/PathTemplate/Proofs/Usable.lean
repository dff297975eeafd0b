import Mathlib.Data.List.Nodup
import Mathlib.Data.Prod.Lex
import PathTemplate.Builder
/-!
# Usable options

Which options can be used, and which fault is reported of those that cannot, said of the options as
a whole. Markers clash in pairs and flags are at fault by position. The first pair counts, or the
first position if the markers are apart, so no options have two first faults
(`Options.IsFirstFault.unique`). The passes over markers and flags stop at that fault, and a builder
is made exactly where there is none (`Builder.new_iff_usable`).
-/

namespace PathTemplate

/-- The place of a marker in the order in which markers are compared. -/
def Marker.rank : Marker → Nat
  | start => 0
  | stop => 1
  | separator => 2
  | optional => 3

theorem Marker.rank_injective : Function.Injective rank := by
  intro m n h
  cases m <;> cases n <;> first | rfl | cases h

namespace Options

/-- The character of a marker. -/
def char (o : Options) : Marker → Char
  | .start => o.startMarker
  | .stop => o.endMarker
  | .separator => o.separator
  | .optional => o.optionalMarker

/-- Options with four different markers and with known flags that are given once. -/
structure IsUsable (o : Options) : Prop where
  markers : Function.Injective o.char
  flags : ∀ c ∈ o.flags.toList, c ∈ ['i', 'm', 's', 'u', 'U']
  once : o.flags.toList.Nodup

/-- Two markers have the same character, and the first one comes first. -/
def Clashes (o : Options) (first second : Marker) : Prop :=
  first.rank < second.rank ∧ o.char first = o.char second

/-- What is wrong with the flag at a position: it is none, or it is one that stands at an earlier
position as well. -/
inductive FlagFault (flags : List Char) : Nat → OptionsError → Prop
  | unsupported {i : Nat} {c : Char} (hc : flags[i]? = some c) (hn : c ∉ allowedFlags) :
    FlagFault flags i (.unsupportedFlag c)
  | duplicate {i j : Nat} {c : Char} (hc : flags[i]? = some c) (ha : c ∈ allowedFlags) (hj : j < i)
    (hd : flags[j]? = some c) : FlagFault flags i (.duplicateFlag c)

/-- The fault that counts. Clashes come before flags, and among clashes the one with the first
marker that has any, and with the first marker that it has it with. -/
inductive IsFirstFault (o : Options) : OptionsError → Prop
  | clash {first second : Marker} (h : o.Clashes first second)
    (hf : ∀ m n, o.Clashes m n → toLex (first.rank, second.rank) ≤ toLex (m.rank, n.rank)) :
    IsFirstFault o (.clash first second (o.char first))
  | flag {i : Nat} {e : OptionsError} (hm : ∀ m n, ¬ o.Clashes m n)
    (h : FlagFault o.flags.toList i e) (hf : ∀ j < i, ∀ e', ¬ FlagFault o.flags.toList j e') :
    IsFirstFault o e

variable {o : Options} {e e' : OptionsError}

/-! ## One first fault -/

theorem FlagFault.unique {flags : List Char} {i : Nat} (h : FlagFault flags i e)
    (h' : FlagFault flags i e') : e = e' := by
  cases h with
  | unsupported hc hn =>
    cases h' with
    | unsupported hc' => rw [Option.some.inj (hc.symm.trans hc')]
    | duplicate hc' ha => exact absurd (Option.some.inj (hc.symm.trans hc') ▸ ha) hn
  | duplicate hc ha =>
    cases h' with
    | unsupported hc' hn => exact absurd (Option.some.inj (hc.symm.trans hc') ▸ ha) hn
    | duplicate hc' => rw [Option.some.inj (hc.symm.trans hc')]

theorem IsFirstFault.unique (h : o.IsFirstFault e) (h' : o.IsFirstFault e') : e = e' := by
  cases h with
  | clash h hf =>
    cases h' with
    | clash h' hf' =>
      have hp := le_antisymm (hf _ _ h') (hf' _ _ h)
      obtain ⟨hm, hn⟩ := Prod.mk.inj (toLex_inj.1 hp)
      rw [Marker.rank_injective hm, Marker.rank_injective hn]
    | flag hm => exact absurd h (hm _ _)
  | flag hm h hf =>
    cases h' with
    | clash h' => exact absurd h' (hm _ _)
    | flag _ h' hf' =>
      have hi := Nat.le_antisymm (Nat.le_of_not_lt fun hi => hf _ hi _ h')
        (Nat.le_of_not_lt fun hi => hf' _ hi _ h)
      subst hi
      exact h.unique h'

/-! ## Clashes by position -/

/-- Entries at two positions that have the same character, the first position being the earlier. -/
structure Meets (ms : List (Marker × Char)) (i j : Nat) (first second : Marker) (c : Char) :
    Prop where
  lt : i < j
  first : ms[i]? = some (first, c)
  second : ms[j]? = some (second, c)

section Meets

variable {ms : List (Marker × Char)} {p : Marker × Char} {i j : Nat} {first second : Marker}
  {c : Char}

theorem Meets.cons (h : Meets ms i j first second c) :
    Meets (p :: ms) (i + 1) (j + 1) first second c :=
  ⟨Nat.succ_lt_succ h.lt, h.first, h.second⟩

/-- Two entries meet if the first of all meets a later one, or if two later ones meet. -/
theorem Meets.cases (h : Meets (p :: ms) i j first second c) :
    (∃ k, i = 0 ∧ j = k + 1 ∧ p = (first, c) ∧ ms[k]? = some (second, c)) ∨
      ∃ k l, i = k + 1 ∧ j = l + 1 ∧ Meets ms k l first second c := by
  obtain ⟨hlt, hf, hs⟩ := h
  obtain ⟨l, rfl⟩ := Nat.exists_eq_succ_of_ne_zero (Nat.ne_zero_of_lt hlt)
  cases i with
  | zero => exact .inl ⟨l, rfl, rfl, Option.some.inj hf, hs⟩
  | succ k => exact .inr ⟨k, l, rfl, rfl, Nat.lt_of_succ_lt_succ hlt, hf, hs⟩

/-- The search over the markers stops at the first two that meet. -/
theorem firstClash?_spec (ms : List (Marker × Char)) :
    (firstClash? ms = none ∧ ∀ i j m n c, ¬ Meets ms i j m n c) ∨
      ∃ i j m n c, firstClash? ms = some (.clash m n c) ∧ Meets ms i j m n c ∧
        ∀ i' j' m' n' c', Meets ms i' j' m' n' c' → toLex (i, j) ≤ toLex (i', j') := by
  induction ms with
  | nil => exact .inl ⟨rfl, fun i j m n c h => by cases h.first⟩
  | cons p ms ih =>
    obtain ⟨first, c⟩ := p
    rw [firstClash?]
    split
    · next second d h =>
      right
      obtain ⟨hd, j, hj, he, hb⟩ := List.find?_eq_some_iff_getElem.1 h
      obtain rfl : d = c := of_decide_eq_true hd
      refine ⟨0, j + 1, first, second, d, rfl, ⟨Nat.succ_pos j, rfl, ?_⟩, ?_⟩
      · rw [List.getElem?_cons_succ, List.getElem?_eq_getElem hj, he]
      · intro i' j' m n d' hm
        obtain ⟨k, rfl, rfl, hp, hk⟩ | ⟨k, l, rfl, -, -⟩ := hm.cases
        · obtain ⟨rfl, rfl⟩ := Prod.mk.inj hp
          refine Prod.Lex.toLex_le_toLex.2 (.inr ⟨rfl, Nat.succ_le_succ (Nat.le_of_not_lt ?_)⟩)
          intro hlt
          obtain ⟨hk, hn⟩ := List.getElem?_eq_some_iff.1 hk
          have := hb k hlt
          simp [hn] at this
        · exact Prod.Lex.toLex_le_toLex.2 (.inl (Nat.succ_pos k))
    · next h =>
      have hn : ∀ (k : Nat) n, ms[k]? ≠ some (n, c) := by
        intro k n hk
        exact List.find?_eq_none.1 h _ (List.mem_of_getElem? hk) (decide_eq_true rfl)
      have hr : ∀ {i j m n d}, Meets ((first, c) :: ms) i j m n d →
          ∃ k l, i = k + 1 ∧ j = l + 1 ∧ Meets ms k l m n d := by
        intro i j m n d hm
        obtain ⟨k, -, -, hp, hk⟩ | hm := hm.cases
        · exact absurd ((Prod.mk.inj hp).2 ▸ hk) (hn k n)
        · exact hm
      rcases ih with ⟨he, hm⟩ | ⟨i, j, m, n, d, he, hm, hf⟩
      · refine .inl ⟨he, fun i j m n d h => ?_⟩
        obtain ⟨k, l, -, -, h⟩ := hr h
        exact hm _ _ _ _ _ h
      · refine .inr ⟨i + 1, j + 1, m, n, d, he, hm.cons, fun i' j' m' n' d' h => ?_⟩
        obtain ⟨k, l, rfl, rfl, hk⟩ := hr h
        have := Prod.Lex.toLex_le_toLex.1 (hf _ _ _ _ _ hk)
        refine Prod.Lex.toLex_le_toLex.2 ?_
        dsimp only at this ⊢
        omega

end Meets

/-- The markers are listed by their rank. -/
theorem getElem?_markers_iff {i : Nat} {m : Marker} {c : Char} :
    o.markers[i]? = some (m, c) ↔ i = m.rank ∧ c = o.char m := by
  constructor
  · intro h
    match i, h with
    | 0, rfl => exact ⟨rfl, rfl⟩
    | 1, rfl => exact ⟨rfl, rfl⟩
    | 2, rfl => exact ⟨rfl, rfl⟩
    | 3, rfl => exact ⟨rfl, rfl⟩
  · rintro ⟨rfl, rfl⟩
    cases m <;> rfl

theorem meets_markers_iff {i j : Nat} {m n : Marker} {c : Char} :
    Meets o.markers i j m n c ↔ i = m.rank ∧ j = n.rank ∧ c = o.char m ∧ o.Clashes m n := by
  constructor
  · rintro ⟨hlt, hm, hn⟩
    obtain ⟨rfl, rfl⟩ := getElem?_markers_iff.1 hm
    obtain ⟨rfl, he⟩ := getElem?_markers_iff.1 hn
    exact ⟨rfl, rfl, rfl, hlt, he⟩
  · rintro ⟨rfl, rfl, rfl, hlt, he⟩
    exact ⟨hlt, getElem?_markers_iff.2 ⟨rfl, rfl⟩, getElem?_markers_iff.2 ⟨rfl, he⟩⟩

theorem injective_char_iff : Function.Injective o.char ↔ ∀ m n, ¬ o.Clashes m n := by
  constructor
  · intro h m n hc
    exact absurd (congrArg Marker.rank (h hc.2)) (Nat.ne_of_lt hc.1)
  · intro h m n he
    rcases Nat.lt_trichotomy m.rank n.rank with hlt | heq | hlt
    · exact absurd ⟨hlt, he⟩ (h m n)
    · exact Marker.rank_injective heq
    · exact absurd ⟨hlt, he.symm⟩ (h n m)

/-! ## Flags by position -/

/-- The pass over the flags stops at the first one that is at fault. It goes on from flags that it
has seen, latest first. -/
theorem firstFlagFault?_spec (flags : List Char) : ∀ seen : List Char,
    (firstFlagFault? seen flags = none ∧
        ∀ i, seen.length ≤ i → ∀ e, ¬ FlagFault (seen.reverse ++ flags) i e) ∨
      ∃ i e, firstFlagFault? seen flags = some e ∧ FlagFault (seen.reverse ++ flags) i e ∧
        ∀ j, seen.length ≤ j → j < i → ∀ e', ¬ FlagFault (seen.reverse ++ flags) j e' := by
  induction flags with
  | nil =>
    refine fun seen => .inl ⟨rfl, fun i hi e h => ?_⟩
    have hn : (seen.reverse ++ [])[i]? = none := by simpa using hi
    cases h with
    | unsupported hc => rw [hn] at hc; cases hc
    | duplicate hc => rw [hn] at hc; cases hc
  | cons c flags ih =>
    intro seen
    have hc : (seen.reverse ++ c :: flags)[seen.length]? = some c := by
      rw [List.getElem?_append_right (by simp)]
      simp
    rw [firstFlagFault?]
    split
    · next ha =>
      refine .inr ⟨seen.length, _, rfl, .unsupported hc ha, fun j hj hlt => ?_⟩
      exact absurd hlt (Nat.not_lt.2 hj)
    · next ha =>
      have ha := Decidable.not_not.1 ha
      split
      · next hs =>
        obtain ⟨j, hj⟩ := List.getElem?_of_mem (List.mem_reverse.2 hs)
        have hlt := (List.getElem?_eq_some_iff.1 hj).1
        refine .inr ⟨seen.length, _, rfl, .duplicate (j := j) hc ha ?_ ?_, fun j hj hlt => ?_⟩
        · simpa using hlt
        · rw [List.getElem?_append_left hlt, hj]
        · exact absurd hlt (Nat.not_lt.2 hj)
      · next hs =>
        -- This flag is not at fault, so the first fault is that of the flags after it.
        have hn : ∀ e, ¬ FlagFault (seen.reverse ++ c :: flags) seen.length e := by
          intro e h
          cases h with
          | unsupported hc' hn => exact hn (Option.some.inj (hc.symm.trans hc') ▸ ha)
          | duplicate hc' ha' hj hd =>
            rw [List.getElem?_append_left (by simpa using hj)] at hd
            have := List.mem_reverse.1 (List.mem_of_getElem? hd)
            exact hs (Option.some.inj (hc.symm.trans hc') ▸ this)
        have hi := ih (c :: seen)
        rw [List.reverse_cons, List.append_assoc, List.singleton_append, List.length_cons] at hi
        rcases hi with ⟨he, hf⟩ | ⟨i, e, he, h, hf⟩
        · refine .inl ⟨he, fun i hi e h => ?_⟩
          rcases Nat.eq_or_lt_of_le hi with rfl | hi
          · exact hn e h
          · exact hf i hi e h
        · refine .inr ⟨i, e, he, h, fun j hj hlt e' h' => ?_⟩
          rcases Nat.eq_or_lt_of_le hj with rfl | hj
          · exact hn e' h'
          · exact hf j hj hlt e' h'

theorem no_flagFault_iff {flags : List Char} : (∀ i e, ¬ FlagFault flags i e) ↔
    (∀ c ∈ flags, c ∈ allowedFlags) ∧ flags.Nodup := by
  constructor
  · intro h
    have ha : ∀ c ∈ flags, c ∈ allowedFlags := by
      intro c hc
      obtain ⟨i, hi⟩ := List.getElem?_of_mem hc
      exact Decidable.not_not.1 fun hn => h i _ (.unsupported hi hn)
    refine ⟨ha, List.nodup_iff_getElem?_ne_getElem?.2 fun i j hij hj he => ?_⟩
    have hc := List.getElem?_eq_getElem hj
    exact h j _ (.duplicate hc (ha _ (List.getElem_mem hj)) hij (he.trans hc))
  · rintro ⟨ha, hn⟩ i e (⟨hc, hna⟩ | ⟨hc, -, hj, hd⟩)
    · exact hna (ha _ (List.mem_of_getElem? hc))
    · exact List.nodup_iff_getElem?_ne_getElem?.1 hn _ _ hj (List.getElem?_eq_some_iff.1 hc).1
        (hd.trans hc.symm)

/-! ## The fault that is found -/

theorem isUsable_iff : o.IsUsable ↔
    (∀ m n, ¬ o.Clashes m n) ∧ ∀ i e, ¬ FlagFault o.flags.toList i e := by
  rw [← injective_char_iff, no_flagFault_iff]
  exact ⟨fun h => ⟨h.markers, h.flags, h.once⟩, fun ⟨hm, hf, ho⟩ => ⟨hm, hf, ho⟩⟩

/-- Options can be used and have no fault, or they have a first fault, and that is found. -/
theorem fault?_spec (o : Options) :
    (o.fault? = none ∧ o.IsUsable) ∨ ∃ e, o.fault? = some e ∧ o.IsFirstFault e := by
  rw [fault?]
  rcases firstClash?_spec o.markers with ⟨hn, hm⟩ | ⟨i, j, m, n, c, he, hm, hf⟩
  · have hm : ∀ m n, ¬ o.Clashes m n :=
      fun m n h => hm _ _ m n _ (meets_markers_iff.2 ⟨rfl, rfl, rfl, h⟩)
    rw [hn]
    rcases firstFlagFault?_spec o.flags.toList [] with ⟨hn, hf⟩ | ⟨i, e, he, h, hf⟩
    · exact .inl ⟨hn, isUsable_iff.2 ⟨hm, fun i => hf i (Nat.zero_le i)⟩⟩
    · exact .inr ⟨e, he, .flag hm h fun j => hf j (Nat.zero_le j)⟩
  · obtain ⟨rfl, rfl, rfl, h⟩ := meets_markers_iff.1 hm
    rw [he]
    exact .inr ⟨_, rfl, .clash h fun m' n' h' =>
      hf _ _ m' n' _ (meets_markers_iff.2 ⟨rfl, rfl, rfl, h'⟩)⟩

theorem IsFirstFault.not_isUsable (h : o.IsFirstFault e) : ¬ o.IsUsable := by
  intro hu
  obtain ⟨hm, hn⟩ := isUsable_iff.1 hu
  cases h with
  | clash h => exact hm _ _ h
  | flag _ h => exact hn _ _ h

theorem fault?_eq_none_iff : o.fault? = none ↔ o.IsUsable := by
  rcases o.fault?_spec with ⟨hn, hu⟩ | ⟨e, he, hf⟩
  · exact iff_of_true hn hu
  · exact iff_of_false (by rw [he]; nofun) hf.not_isUsable

theorem fault?_eq_some_iff : o.fault? = some e ↔ o.IsFirstFault e := by
  rcases o.fault?_spec with ⟨hn, hu⟩ | ⟨e', he, hf⟩
  · exact iff_of_false (by rw [hn]; nofun) fun h => h.not_isUsable hu
  · rw [he, Option.some.injEq]
    exact ⟨fun h => h ▸ hf, fun h => hf.unique h⟩

end Options

/-- Options have no fault exactly if they can be used; otherwise the fault that is found is their
first one. A builder is made, with those options, exactly if there is no fault, and otherwise the
fault is why it is not. -/
theorem Builder.new_iff_usable (o : Options) :
    (o.fault? = none ↔ o.IsUsable) ∧ (∀ e, o.fault? = some e ↔ o.IsFirstFault e) ∧
      (∀ b, Builder.new o = .ok b ↔ o.IsUsable ∧ b = { options := o }) ∧
      ∀ e, Builder.new o = .error e ↔ ∃ fault, o.IsFirstFault fault ∧ e = .options fault := by
  refine ⟨Options.fault?_eq_none_iff, fun e => Options.fault?_eq_some_iff, ?_⟩
  rw [Builder.new]
  rcases o.fault?_spec with ⟨hn, hu⟩ | ⟨fault, he, hf⟩
  · rw [hn]
    refine ⟨fun b => ?_, fun e => iff_of_false nofun ?_⟩
    · rw [Except.ok.injEq, eq_comm]
      exact (and_iff_right hu).symm
    · rintro ⟨fault, hf, -⟩
      exact hf.not_isUsable hu
  · rw [he]
    refine ⟨fun b => iff_of_false nofun fun h => hf.not_isUsable h.1, fun e => ?_⟩
    rw [Except.error.injEq, eq_comm]
    constructor
    · exact fun h => ⟨fault, hf, h⟩
    · rintro ⟨fault', hf', rfl⟩
      rw [hf.unique hf']

/-- The pair with the earlier first marker counts, though the other pair is closer together. -/
example : ({ startMarker := 'a', optionalMarker := 'a', endMarker := '/', flags := "x" } :
    Options).fault? = some (.clash .start .optional 'a') := by
  decide

end PathTemplate
