import PathTemplate.Proofs.Layout
/-!
# The search finds a match if there is one

What is found is a match (`Search.ends_of_find?`), it starts as far to the left as one can
(`Search.not_ends_before`), and where nothing is found there is no match
(`Search.find?_eq_none_iff`).

The record of what has been run is closed: what comes of an entry that has been run is an entry that
has been run, or still waits. When nothing waits any more, no entry in the record leads to the end
of a match.
-/

namespace PathTemplate.Regex

variable {program : Array Instr} {text : Array Char}

namespace Thread

/-- Threads at the same instruction and the same place. -/
def Alike (t u : Thread) : Prop :=
  t.instr = u.instr ∧ t.place = u.place

theorem Alike.symm {t u : Thread} (h : t.Alike u) : u.Alike t :=
  ⟨h.1.symm, h.2.symm⟩

/-- What comes of a thread differs at most in the notes from what comes of a thread like it. -/
theorem next_alike {t t' : Thread} (h : t.Alike t') {x : Instr} {u : Thread}
    (hu : u ∈ t.next text x) : ∃ u' ∈ t'.next text x, u.Alike u' := by
  obtain ⟨⟨p, ns⟩, i⟩ := t
  obtain ⟨⟨p', ns'⟩, i'⟩ := t'
  obtain ⟨rfl, rfl⟩ : i = i' ∧ p = p' := h
  cases x with
  | take s =>
    cases hc : text[p]? with
    | none => simp [next, Progress.take?, Progress.after?, hc] at hu
    | some c =>
      by_cases hs : s.contains c = true
      · simp only [next, Progress.take?, Progress.after?, hc, hs] at hu ⊢
        simp only [if_true, Option.toList_some, List.map_cons, List.map_nil, List.mem_singleton]
          at hu ⊢
        exact ⟨_, rfl, hu ▸ ⟨rfl, rfl⟩⟩
      · simp [next, Progress.take?, Progress.after?, hc, hs] at hu
  | look l =>
    by_cases hl : Progress.meets text ⟨p, ns⟩ l = true
    · have hl' : Progress.meets text ⟨p, ns'⟩ l = true := hl
      simp only [next, hl, hl', if_true, List.mem_singleton] at hu ⊢
      exact ⟨_, rfl, hu ▸ ⟨rfl, rfl⟩⟩
    · simp [next, hl] at hu
  | save slot =>
    simp only [next, List.mem_singleton] at hu ⊢
    exact ⟨_, rfl, hu ▸ ⟨rfl, rfl⟩⟩
  | split first second =>
    simp only [next, List.mem_cons, List.not_mem_nil, or_false] at hu ⊢
    rcases hu with rfl | rfl
    · exact ⟨_, .inl rfl, rfl, rfl⟩
    · exact ⟨_, .inr rfl, rfl, rfl⟩
  | jump target =>
    simp only [next, List.mem_singleton] at hu ⊢
    exact ⟨_, rfl, hu ▸ ⟨rfl, rfl⟩⟩
  | accept => simp [next] at hu

theorem length_next_le (text : Array Char) (t : Thread) (x : Instr) :
    (t.next text x).length ≤ 2 := by
  cases x with
  | take s => cases h : t.take? text s <;> simp [next, h]
  | look l => simp only [next]; split <;> simp
  | _ => simp [next]

/-- No thread leaves the text. -/
theorem place_next_le {t : Thread} (ht : t.place ≤ text.size) {x : Instr} {u : Thread}
    (hu : u ∈ t.next text x) : u.place ≤ text.size := by
  cases x with
  | take s =>
    simp only [next, Progress.take?, Progress.after?] at hu
    cases hc : text[t.place]? with
    | none => simp [hc] at hu
    | some c =>
      have hlt : t.place < text.size := (Array.getElem?_eq_some_iff.1 hc).1
      simp only [hc] at hu
      split at hu
      · simp only [Option.toList_some, List.map_cons, List.map_nil, List.mem_singleton] at hu
        subst hu
        exact hlt
      · simp at hu
  | look l =>
    simp only [next] at hu
    split at hu
    · simp only [List.mem_singleton] at hu
      subst hu
      exact ht
    · simp at hu
  | save slot =>
    simp only [next, List.mem_singleton] at hu
    subst hu
    exact ht
  | split first second =>
    simp only [next, List.mem_cons, List.not_mem_nil, or_false] at hu
    rcases hu with rfl | rfl <;> exact ht
  | jump target =>
    simp only [next, List.mem_singleton] at hu
    subst hu
    exact ht
  | accept => simp [next] at hu

end Thread

namespace Search

/-! ## The record -/

theorem entry_alike {t u : Thread} (h : t.Alike u) : entry text t = entry text u := by
  rw [entry, entry, h.1, h.2]

/-- Within a text, each entry is for one instruction at one place. -/
theorem alike_of_entry_eq {t u : Thread} (ht : t.place ≤ text.size) (hu : u.place ≤ text.size)
    (h : entry text t = entry text u) : t.Alike u := by
  have hp : t.place = u.place := by
    have := congrArg (· % (text.size + 1)) h
    simpa [entry, Nat.mul_add_mod', Nat.mod_eq_of_lt, Nat.lt_succ_of_le ht, Nat.lt_succ_of_le hu]
      using this
  refine ⟨?_, hp⟩
  simp only [entry, hp, Nat.add_right_cancel_iff] at h
  exact Nat.eq_of_mul_eq_mul_right (Nat.succ_pos _) h

theorem entry_lt {t : Thread} (ht : t.place ≤ text.size) (hi : t.instr < program.size) :
    entry text t < program.size * (text.size + 1) := by
  have := Nat.mul_le_mul_right (text.size + 1) (Nat.succ_le_of_lt hi)
  rw [entry]
  rw [Nat.succ_mul] at this
  omega

/-- The thread's instruction has been run at its place, or is none of the program. -/
def Seen (text : Array Char) (seen : Array Bool) (t : Thread) : Prop :=
  seen.getD (entry text t) true = true

theorem Seen.alike {seen : Array Bool} {t u : Thread} (h : t.Alike u) (ht : Seen text seen t) :
    Seen text seen u := by
  rwa [Seen, ← entry_alike h]

theorem Seen.set {seen : Array Bool} {t : Thread} (i : Nat) (h : Seen text seen t) :
    Seen text (seen.setIfInBounds i true) t := by
  simp only [Seen, Array.getD_eq_getD_getElem?, Array.getElem?_setIfInBounds] at h ⊢
  split
  · split <;> rfl
  · exact h

theorem seen_set_self {seen : Array Bool} (t : Thread) :
    Seen text (seen.setIfInBounds (entry text t) true) t := by
  by_cases h : entry text t < seen.size <;>
    simp [Seen, Array.getD_eq_getD_getElem?, h]

/-- What has been run leads to what has been run or waits, and ends no match. -/
def Closed (program : Array Instr) (text : Array Char) (seen : Array Bool) (waiting : List Thread) :
    Prop :=
  ∀ t : Thread, t.place ≤ text.size → Seen text seen t → ∀ x, program[t.instr]? = some x →
    x ≠ .accept ∧ ∀ u ∈ t.next text x, Seen text seen u ∨ ∃ w ∈ waiting, u.Alike w

/-- Where nothing waits, nothing that has been run leads to the end of a match. -/
theorem Closed.not_accepts {seen : Array Bool} (hc : Closed program text seen []) {n : Nat} :
    ∀ {t : Thread} {q : Progress}, t.place ≤ text.size → Seen text seen t →
      ¬ Accepts program text n t q := by
  induction n with
  | zero =>
    intro t q hp ht h
    cases h with
    | done h => exact (hc t hp ht _ h).1 rfl
  | succ n ih =>
    intro t q hp ht h
    cases h with
    | step hx hu h =>
      rcases (hc t hp ht _ hx).2 _ hu with hs | ⟨w, hw, -⟩
      · exact ih (Thread.place_next_le hp hu) hs h
      · cases hw

/-- What has been run stays closed when more threads wait. -/
theorem Closed.wait {seen : Array Bool} (hc : Closed program text seen []) (waiting : List Thread) :
    Closed program text seen waiting := by
  intro t ht hs x hx
  refine ⟨(hc t ht hs x hx).1, fun u hu => ?_⟩
  rcases (hc t ht hs x hx).2 u hu with h | ⟨w, hw, -⟩
  · exact .inl h
  · cases hw

section Closed

variable {seen : Array Bool} {t : Thread} {waiting : List Thread}

/-- A thread that has been run need not wait any more. -/
theorem Closed.drop (hc : Closed program text seen (t :: waiting)) (ht : Seen text seen t) :
    Closed program text seen waiting := by
  intro u hu hs x hx
  refine ⟨(hc u hu hs x hx).1, fun v hv => ?_⟩
  rcases (hc u hu hs x hx).2 v hv with hsv | ⟨w, hw, ha⟩
  · exact .inl hsv
  · rcases List.mem_cons.1 hw with rfl | hw
    · exact .inl (Seen.alike ha.symm ht)
    · exact .inr ⟨w, hw, ha⟩

/-- When the first thread that waits is run, what comes of it waits in its place. -/
theorem Closed.run (hc : Closed program text seen (t :: waiting)) (ht : t.place ≤ text.size)
    {x : Instr} (hx : program[t.instr]? = some x) (ha : x ≠ .accept) :
    Closed program text (seen.setIfInBounds (entry text t) true) (t.next text x ++ waiting) := by
  intro u hu hs y hy
  by_cases he : entry text t = entry text u
  · -- The new entry is for the thread, and for all that differ from it only in their notes.
    have hal := alike_of_entry_eq ht hu he
    obtain rfl : x = y := by
      rw [hal.1] at hx
      exact Option.some.inj (hx.symm.trans hy)
    refine ⟨ha, fun v hv => ?_⟩
    obtain ⟨w, hw, hvw⟩ := Thread.next_alike hal.symm hv
    exact .inr ⟨w, List.mem_append_left _ hw, hvw⟩
  · have hs : Seen text seen u := by
      simpa [Seen, Array.getD_eq_getD_getElem?, Array.getElem?_setIfInBounds, he] using hs
    refine ⟨(hc u hu hs y hy).1, fun v hv => ?_⟩
    rcases (hc u hu hs y hy).2 v hv with hsv | ⟨w, hw, hvw⟩
    · exact .inl (hsv.set _)
    · rcases List.mem_cons.1 hw with rfl | hw
      · exact .inl (Seen.alike hvw.symm (seen_set_self w))
      · exact .inr ⟨w, List.mem_append_right _ hw, hvw⟩

end Closed

/-- A thread outside the program counts as run. -/
theorem seen_of_size_le {seen : Array Bool} {t : Thread}
    (hs : seen.size = program.size * (text.size + 1)) (ht : program.size ≤ t.instr) :
    Seen text seen t := by
  have hout : seen.size ≤ entry text t := by
    rw [hs, entry]
    exact Nat.le_trans (Nat.mul_le_mul_right _ ht) (Nat.le_add_right _ _)
  rw [Seen, Array.getD_eq_getD_getElem?, Array.getElem?_eq_none hout]
  rfl

/-- How many threads can still be followed. -/
def remaining (seen : Array Bool) (waiting : List Thread) : Nat :=
  waiting.length + 2 * seen.toList.count false

theorem remaining_set {seen : Array Bool} {i : Nat} (h : seen.getD i true = false)
    {more : List Thread} (hm : more.length ≤ 2) (t : Thread) (waiting : List Thread) :
    remaining (seen.setIfInBounds i true) (more ++ waiting) < remaining seen (t :: waiting) := by
  have hi : i < seen.size := by
    refine Decidable.byContradiction fun hn => ?_
    rw [Array.getD_eq_getD_getElem?, Array.getElem?_eq_none (by omega)] at h
    simp at h
  have hf : seen.toList[i] = false := by
    rw [Array.getD_eq_getD_getElem?, Array.getElem?_eq_getElem hi] at h
    simpa using h
  have hpos : 0 < seen.toList.count false := List.count_pos_iff.2 (hf ▸ List.getElem_mem _)
  have hcount : (seen.setIfInBounds i true).toList.count false = seen.toList.count false - 1 := by
    rw [Array.toList_setIfInBounds, List.count_set (by simpa using hi), hf]
    simp
  simp only [remaining, List.length_append, List.length_cons, hcount]
  omega

/-! ## Following threads -/

/-- What is reached is the end of a match of one of the threads. -/
theorem ends_of_follow {fuel : Nat} : ∀ {waiting : List Thread} {seen : Array Bool} {q : Progress}
    {seen' : Array Bool}, follow program text fuel waiting seen = (some q, seen') →
      ∃ t ∈ waiting, Ends program text t q := by
  induction fuel with
  | zero => intro _ _ _ _ h; simp [follow] at h
  | succ fuel ih =>
    intro waiting seen q seen' h
    match waiting with
    | [] => simp [follow] at h
    | t :: waiting =>
      have later {s : Array Bool} (h : follow program text fuel waiting s = (some q, seen')) :
          ∃ u ∈ t :: waiting, Ends program text u q := by
        obtain ⟨u, hu, he⟩ := ih h
        exact ⟨u, List.mem_cons_of_mem _ hu, he⟩
      rw [follow] at h
      split at h
      · exact later h
      · split at h
        · exact later h
        · next hx =>
          simp only [Prod.mk.injEq, Option.some.injEq] at h
          exact ⟨t, List.mem_cons_self, 0, h.1 ▸ .done hx⟩
        · next x ha hx =>
          obtain ⟨u, hu, he⟩ := ih h
          rcases List.mem_append.1 hu with hu | hu
          · exact ⟨t, List.mem_cons_self, (ends_iff hx ha).2 ⟨u, hu, he⟩⟩
          · exact ⟨u, List.mem_cons_of_mem _ hu, he⟩

/-- With enough fuel, a search in vain leaves a record in which all the threads have been run. -/
theorem closed_of_follow {fuel : Nat} : ∀ {waiting : List Thread} {seen seen' : Array Bool},
    seen.size = program.size * (text.size + 1) → (∀ t ∈ waiting, t.place ≤ text.size) →
    Closed program text seen waiting → remaining seen waiting ≤ fuel →
    follow program text fuel waiting seen = (none, seen') →
      seen'.size = seen.size ∧ Closed program text seen' [] ∧
        (∀ t ∈ waiting, Seen text seen' t) ∧ ∀ t, Seen text seen t → Seen text seen' t := by
  induction fuel with
  | zero =>
    intro waiting seen seen' hs hp hc hr h
    obtain rfl : waiting = [] := List.eq_nil_of_length_eq_zero (by rw [remaining] at hr; omega)
    simp only [follow, Prod.mk.injEq, true_and] at h
    subst h
    exact ⟨rfl, hc, by simp, fun _ h => h⟩
  | succ fuel ih =>
    intro waiting seen seen' hs hp hc hr h
    match waiting with
    | [] =>
      simp only [follow, Prod.mk.injEq, true_and] at h
      subst h
      exact ⟨rfl, hc, by simp, fun _ h => h⟩
    | t :: waiting =>
      have hpt := hp t List.mem_cons_self
      have hpw : ∀ u ∈ waiting, u.place ≤ text.size := fun u hu => hp u (List.mem_cons_of_mem _ hu)
      rw [follow] at h
      split at h
      · next ht =>
        obtain ⟨h₁, h₂, h₃, h₄⟩ := ih hs hpw (hc.drop ht)
          (by simp only [remaining, List.length_cons] at hr ⊢; omega) h
        refine ⟨h₁, h₂, fun u hu => ?_, h₄⟩
        rcases List.mem_cons.1 hu with rfl | hu
        · exact h₄ _ ht
        · exact h₃ u hu
      · next ht =>
        split at h
        · next hx => exact absurd (seen_of_size_le hs (by simpa using hx)) ht
        · cases h
        · next x ha hx =>
          have hself : Seen text (seen.setIfInBounds (entry text t) true) t := seen_set_self t
          have hp' : ∀ u ∈ t.next text x ++ waiting, u.place ≤ text.size := by
            intro u hu
            rcases List.mem_append.1 hu with hu | hu
            · exact Thread.place_next_le hpt hu
            · exact hpw u hu
          have hr' := remaining_set (by simpa using ht) (Thread.length_next_le text t x) t waiting
          obtain ⟨h₁, h₂, h₃, h₄⟩ := ih (by simpa using hs) hp' (hc.run hpt hx ha) (by omega) h
          refine ⟨by simpa using h₁, h₂, fun u hu => ?_, fun u hu => h₄ u (hu.set _)⟩
          rcases List.mem_cons.1 hu with rfl | hu
          · exact h₄ _ hself
          · exact h₃ u (List.mem_append_right _ hu)

/-! ## Seeking a start -/

/-- The thread that starts a match at a place. -/
def startAt (start : Nat) : Thread :=
  ⟨⟨start, []⟩, 0⟩

theorem seek_spec {n : Nat} : ∀ {start : Nat} {seen : Array Bool},
    start + n = text.size + 1 → seen.size = program.size * (text.size + 1) →
    Closed program text seen [] →
    match seek program text n start seen with
    | some m => start ≤ m.start ∧ m.start ≤ text.size ∧ Ends program text (startAt m.start) m.stop ∧
        ∀ i q, start ≤ i → i < m.start → ¬ Ends program text (startAt i) q
    | none => ∀ i q, start ≤ i → i ≤ text.size → ¬ Ends program text (startAt i) q := by
  induction n with
  | zero =>
    intro start seen hn hs hc
    simp only [seek]
    intro i q h₁ h₂
    omega
  | succ n ih =>
    intro start seen hn hs hc
    rw [seek]
    cases hf : follow program text (enough program text) [⟨⟨start, []⟩, 0⟩] seen with
    | mk found seen' =>
      cases found with
      | some stop =>
        obtain ⟨t, ht, he⟩ := ends_of_follow hf
        obtain rfl := List.mem_singleton.1 ht
        exact ⟨Nat.le_refl _, by simp only; omega, he, fun i q h₁ h₂ => by simp only at h₂; omega⟩
      | none =>
        have hp : ∀ t ∈ [(⟨⟨start, []⟩, 0⟩ : Thread)], t.place ≤ text.size := by
          intro t ht
          obtain rfl := List.mem_singleton.1 ht
          simp only; omega
        have hr : remaining seen [⟨⟨start, []⟩, 0⟩] ≤ enough program text := by
          have := List.count_le_length (a := false) (l := seen.toList)
          simp only [Array.length_toList, hs] at this
          simp only [remaining, enough, List.length_cons, List.length_nil]
          omega
        obtain ⟨hs', hc', hseen, -⟩ := closed_of_follow hs hp (hc.wait _) hr hf
        -- All that comes of the thread at `start` has been run, in vain.
        have hdead : ∀ q, ¬ Ends program text (startAt start) q := by
          rintro q ⟨k, hk⟩
          exact hc'.not_accepts (hp _ (List.mem_singleton_self _))
            (hseen _ (List.mem_singleton_self _)) hk
        have := @ih (start + 1) seen' (by omega) (hs'.trans hs) hc'
        simp only
        cases hk : seek program text n (start + 1) seen' with
        | some m =>
          rw [hk] at this
          obtain ⟨h₁, h₂, h₃, h₄⟩ := this
          refine ⟨by omega, h₂, h₃, fun i q hi hlt => ?_⟩
          by_cases h : i = start
          · exact h ▸ hdead q
          · exact h₄ i q (by omega) hlt
        | none =>
          rw [hk] at this
          intro i q hi hle
          by_cases h : i = start
          · exact h ▸ hdead q
          · exact this i q (by omega) hle

/-- Before anything has been run, the record is closed. -/
theorem closed_empty : Closed program text
    (Array.replicate (program.size * (text.size + 1)) false) [] := by
  intro t ht hs x hx
  exfalso
  have hi : t.instr < program.size := (Array.getElem?_eq_some_iff.1 hx).1
  have := entry_lt ht hi
  simp only [Seen, Array.getD_eq_getD_getElem?, Array.getElem?_replicate, this] at hs
  simp at hs

theorem find?_spec (program : Array Instr) (text : Array Char) :
    match find? program text with
    | some m => m.start ≤ text.size ∧ Ends program text (startAt m.start) m.stop ∧
        ∀ i q, i < m.start → ¬ Ends program text (startAt i) q
    | none => ∀ i q, i ≤ text.size → ¬ Ends program text (startAt i) q := by
  have := @seek_spec program text (text.size + 1) 0 _ (by omega) (by simp) closed_empty
  rw [← find?] at this
  split at this
  · exact ⟨this.2.1, this.2.2.1, fun i q => this.2.2.2 i q (Nat.zero_le i)⟩
  · exact fun i q => this i q (Nat.zero_le i)

/-- What is found is a match. -/
theorem ends_of_find? {m : Match} (h : find? program text = some m) :
    m.start ≤ text.size ∧ Ends program text (startAt m.start) m.stop := by
  have := find?_spec program text
  rw [h] at this
  exact ⟨this.1, this.2.1⟩

/-- No match starts further to the left than the one that is found. -/
theorem not_ends_before {m : Match} (h : find? program text = some m) {i : Nat} {q : Progress}
    (hi : i < m.start) : ¬ Ends program text (startAt i) q := by
  have := find?_spec program text
  rw [h] at this
  exact this.2.2 i q hi

/-- Nothing is found exactly where there is no match. -/
theorem find?_eq_none_iff :
    find? program text = none ↔ ∀ i q, i ≤ text.size → ¬ Ends program text (startAt i) q := by
  constructor
  · intro h
    have := find?_spec program text
    rwa [h] at this
  · intro h
    cases hf : find? program text with
    | none => rfl
    | some m =>
      obtain ⟨h₁, h₂⟩ := ends_of_find? hf
      exact absurd h₂ (h _ _ h₁)

end Search

end PathTemplate.Regex
