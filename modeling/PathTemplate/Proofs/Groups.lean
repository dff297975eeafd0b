import Mathlib.Data.List.Nodup
import PathTemplate.Proofs.Contents
import PathTemplate.Proofs.Extraction
/-!
# The groups of a source

The groups of a source are numbered in the order in which they are opened. What is compiled from the
source has the groups that are live (`mem_groups_iff`): all but those inside a part that is repeated
at most zero times, which is dropped as a whole. Factoring drops no group, since only parts that are
spelled alike are written once, and the spelling tells the groups.

A name belongs to one group, so it tells the number of its group (`idxOf_of_groupNames`). A match
notes only groups that are compiled (`le_length_groupNames`).
-/

namespace PathTemplate.Regex

/-- The groups that have a part in what is compiled: those that are not inside anything that is
repeated at most zero times. -/
def Expr.live : Expr → List (Nat × Option String)
  | rep _ max _ e => if max = some 0 then [] else e.live
  | capture index name e => (index, name) :: e.live
  | group _ e => e.live
  | cat a b => a.live ++ b.live
  | alt a b => a.live ++ b.live
  | _ => []

theorem Expr.All.of_mem_live {A : Assertion → Prop} {C : Nat → Option String → Prop} {e : Expr}
    (h : e.All A C) : ∀ g ∈ e.live, C g.1 g.2 := by
  induction e with
  | rep min max greedy e ih =>
    intro g hg
    rw [live] at hg
    split at hg
    · cases hg
    · exact ih h g hg
  | capture index name e ih =>
    intro g hg
    rcases List.mem_cons.1 hg with rfl | hg
    · exact h.1
    · exact ih h.2 g hg
  | group change e ih => exact ih h
  | cat a b iha ihb | alt a b iha ihb =>
    intro g hg
    rcases List.mem_append.1 hg with hg | hg
    · exact iha h.1 g hg
    · exact ihb h.2 g hg
  | _ => nofun

/-! ## Factoring -/

/-- The group that begins, if one does. -/
def Mark.group? : Mark → Option (Nat × Option String)
  | group index name => some (index, name)
  | _ => none

namespace Tree

variable {r : Tree} {g : Nat × Option String}

/-- The spelling of an expression tells its groups. -/
theorem filterMap_spell (r : Tree) : ∀ inChoice,
    (r.spell inChoice).filterMap Mark.group? = r.groups := by
  induction r with
  | set s =>
    intro inChoice
    have h : (Mark.ofSet s).group? = none := by
      unfold Mark.ofSet
      split
      · rfl
      · split <;> rfl
    rw [spell, List.filterMap_cons_none h]
    rfl
  | cat a b iha ihb =>
    intro inChoice
    rw [spell, List.filterMap_append, iha, ihb, groups]
  | alt a b iha ihb =>
    intro inChoice
    have h : (a.spell true ++ .bar :: b.spell true).filterMap Mark.group? =
        a.groups ++ b.groups := by
      rw [List.filterMap_append, iha, List.filterMap_cons_none rfl, ihb]
    cases inChoice with
    | true => exact h
    | false =>
      show (Mark.choice :: (_ ++ [Mark.close])).filterMap Mark.group? = _
      rw [List.filterMap_cons_none rfl, List.filterMap_append, h]
      exact List.append_nil _
  | group index name r ih =>
    intro inChoice
    have h : (Mark.group index name).group? = some (index, name) := rfl
    rw [spell, List.filterMap_cons_some h, List.filterMap_append, ih, groups]
    exact congrArg _ (List.append_nil _)
  | rep min max greedy r ih =>
    intro inChoice
    rw [spell, List.filterMap_cons_none rfl, List.filterMap_append, ih, groups]
    exact List.append_nil _
  | _ => intro inChoice; rfl

theorem flatMap_groups_parts (r : Tree) : r.parts.flatMap groups = r.groups := by
  induction r with
  | cat a b iha ihb => rw [parts, List.flatMap_append, iha, ihb, groups]
  | empty => rfl
  | _ => exact List.flatMap_singleton ..

theorem flatMap_groups_choices (r : Tree) : r.choices.flatMap groups = r.groups := by
  induction r with
  | alt a b iha ihb => rw [choices, List.flatMap_append, iha, ihb, groups]
  | _ => exact List.flatMap_singleton ..

theorem groups_ofChoices (rs : List Tree) : (ofChoices rs).groups = rs.flatMap groups := by
  induction rs with
  | nil => rfl
  | cons r rs ih =>
    cases rs with
    | nil => simp [ofChoices]
    | cons s rs =>
      rw [ofChoices, groups, ih]
      · rfl
      · simp

/-- The groups of a row of pieces. -/
def rowGroups (row : List (List Tree)) : List (Nat × Option String) :=
  row.flatten.flatMap groups

theorem rowGroups_append (a b : List (List Tree)) :
    rowGroups (a ++ b) = rowGroups a ++ rowGroups b := by
  rw [rowGroups, List.flatten_append, List.flatMap_append, rowGroups, rowGroups]

theorem rowGroups_pieces (r : Tree) : rowGroups r.pieces = r.groups := by
  rw [rowGroups, pieces, List.flatten_splitBy, flatMap_groups_parts]

/-- Pieces that are spelled alike have the same groups. -/
theorem rowGroups_take_eq {a b : List (List Tree)} : ∀ {n : Nat}, n ≤ common a b →
    rowGroups (a.take n) = rowGroups (b.take n) := by
  induction a generalizing b with
  | nil =>
    intro n h
    obtain rfl : n = 0 := Nat.le_zero.1 h
    rfl
  | cons x a ih =>
    intro n h
    cases n with
    | zero => rfl
    | succ n =>
      cases b with
      | nil => cases h
      | cons y b =>
        rw [common, List.zip_cons_cons, List.takeWhile_cons] at h
        dsimp only at h
        split at h
        · next he =>
          have hxy := congrArg (List.filterMap Mark.group?) (of_decide_eq_true he)
          simp only [List.filterMap_flatMap, filterMap_spell] at hxy
          have hn := ih (b := b) (Nat.le_of_succ_le_succ h)
          rw [rowGroups, rowGroups] at hn ⊢
          rw [List.take_succ_cons, List.take_succ_cons, List.flatten_cons, List.flatten_cons,
            List.flatMap_append, List.flatMap_append, hxy, hn]
        · cases h

theorem le_foldl_min {α : Type} (f : α → Nat) (xs : List α) : ∀ {k n : Nat},
    k ≤ xs.foldl (fun n x => Nat.min n (f x)) n → k ≤ n ∧ ∀ x ∈ xs, k ≤ f x := by
  induction xs with
  | nil => exact fun h => ⟨h, nofun⟩
  | cons x xs ih =>
    intro k n h
    obtain ⟨hk, hxs⟩ := ih h
    obtain ⟨hn, hx⟩ := Nat.le_min.1 hk
    exact ⟨hn, List.forall_mem_cons.2 ⟨hx, hxs⟩⟩

/-- What rows begin with in common has the groups that each of them begins with. -/
theorem rowGroups_take_of_shared {rows : List (List (List Tree))} {n : Nat}
    (h : n ≤ shared rows) : ∀ row ∈ rows,
      rowGroups (row.take n) = rowGroups ((rows.headD []).take n) := by
  cases rows with
  | nil => nofun
  | cons first more =>
    rw [shared] at h
    split at h
    · refine List.forall_mem_cons.2 ⟨rfl, fun row hr => ?_⟩
      exact (rowGroups_take_eq ((le_foldl_min _ _ h).2 row hr)).symm
    · obtain rfl : n = 0 := Nat.le_zero.1 h
      exact fun _ _ => rfl

/-- Where alternatives are a set, they have no groups. -/
theorem groups_of_setOfChoices? {s : CharSet} (h : setOfChoices? r.choices = some s) :
    r.groups = [] := by
  rw [← flatMap_groups_choices, List.flatMap_eq_nil_iff]
  intro a ha
  rw [setOfChoices?] at h
  split at h
  · next hs =>
    have := List.filterMap_length_eq_length.1 hs.1 a ha
    cases a with
    | set s => rfl
    | _ => cases this
  · cases h

/-- The groups of a choice are those of the rows that it is between. -/
theorem mem_groups_iff_rows (r : Tree) :
    g ∈ r.groups ↔ ∃ row ∈ r.choices.map pieces, g ∈ rowGroups row := by
  rw [← flatMap_groups_choices, List.mem_flatMap]
  simp [rowGroups_pieces]

theorem mem_groups_ofChoices_drop {rows : List (List (List Tree))} {n : Nat} :
    g ∈ (ofChoices (rows.map fun row => ofParts (row.drop n).flatten)).groups ↔
      ∃ row ∈ rows, g ∈ rowGroups (row.drop n) := by
  rw [groups_ofChoices, List.flatMap_map, List.mem_flatMap]
  simp only [groups_ofParts, rowGroups]

/-- Writing what alternatives begin with once keeps all groups. -/
theorem mem_groups_factorFrom (fuel : Nat) : ∀ {r : Tree},
    g ∈ (factorFrom fuel r).groups ↔ g ∈ r.groups := by
  induction fuel with
  | zero => exact Iff.rfl
  | succ fuel ih =>
    intro r
    rw [factorFrom]
    dsimp only
    split
    · rfl
    split
    · next hs =>
      rw [groups_of_setOfChoices? hs]
      rfl
    split
    · rfl
    · next n hn =>
      have hfront := rowGroups_take_of_shared (Nat.le_of_eq hn.symm)
      rw [mem_groups_iff_rows r, groups_ofParts, List.flatMap_append, flatMap_groups_parts,
        List.mem_append, ih, mem_groups_ofChoices_drop]
      generalize r.choices.map pieces = rows at hfront
      constructor
      · rintro (hg | ⟨row, hr, hg⟩)
        · cases rows with
          | nil => cases hg
          | cons row rows =>
            refine ⟨row, List.mem_cons_self, ?_⟩
            rw [← List.take_append_drop (n + 1) row, rowGroups_append]
            exact List.mem_append_left _ hg
        · refine ⟨row, hr, ?_⟩
          rw [← List.take_append_drop (n + 1) row, rowGroups_append]
          exact List.mem_append_right _ hg
      · rintro ⟨row, hr, hg⟩
        rw [← List.take_append_drop (n + 1) row, rowGroups_append, hfront row hr] at hg
        exact (List.mem_append.1 hg).imp_right fun hg => ⟨row, hr, hg⟩

theorem mem_groups_factored : g ∈ r.factored.groups ↔ g ∈ r.groups :=
  mem_groups_factorFrom r.partCount

theorem mem_groups_repeated {min : Nat} {max : Option Nat} {greedy : Bool} :
    g ∈ (repeated min max greedy r).groups ↔ max ≠ some 0 ∧ g ∈ r.groups := by
  have hbounds : ∀ (min : Nat) (max : Option Nat),
      g ∈ (if max = some 0 then empty else if min = 1 ∧ max = some 1 then r
        else rep min max greedy r).groups ↔ max ≠ some 0 ∧ g ∈ r.groups := by
    intro min max
    split
    · next h => exact iff_of_false nofun fun hg => hg.1 h
    · next h => split <;> exact (and_iff_right h).symm
  unfold repeated
  cases r.isEmptyOnly with
  | false => exact hbounds min max
  | true =>
    refine (hbounds (min.min 1) (some ((max.getD 1).min 1))).trans (and_congr_left' (not_congr ?_))
    rcases max with _ | _ | n <;> simp

end Tree

/-! ## What is compiled -/

/-- The tree of an expression has the groups of the expression that are live. -/
theorem Expr.mem_groups_iff_live {g : Nat × Option String} :
    ∀ {e : Expr} {f f' : Flags} {r : Tree}, e.toTree? f = some (r, f') →
      (g ∈ r.groups ↔ g ∈ e.live) := by
  intro e
  induction e with
  | rep min max greedy e ih =>
    intro f f' r h
    obtain ⟨⟨s, f''⟩, hs, h⟩ := Option.bind_eq_some_iff.1 h
    cases h
    rw [Tree.mem_groups_repeated, ih hs, live]
    split <;> simp [*]
  | capture index name e ih =>
    intro f f' r h
    obtain ⟨⟨s, f''⟩, hs, h⟩ := Option.bind_eq_some_iff.1 h
    cases h
    rw [Tree.groups, List.mem_cons, Tree.mem_groups_factored, ih hs, live, List.mem_cons]
  | group change e ih =>
    intro f f' r h
    obtain ⟨⟨s, f''⟩, hs, h⟩ := Option.bind_eq_some_iff.1 h
    cases h
    rw [Tree.mem_groups_factored, ih hs, live]
  | cat a b iha ihb | alt a b iha ihb =>
    intro f f' r h
    obtain ⟨⟨s, f₁⟩, hs, h⟩ := Option.bind_eq_some_iff.1 h
    obtain ⟨⟨t, f₂⟩, ht, h⟩ := Option.bind_eq_some_iff.1 h
    cases h
    rw [Tree.groups, List.mem_append, iha hs, ihb ht, live, List.mem_append]
  | char c byte =>
    intro f f' r h
    rw [Expr.toTree?] at h
    split at h
    · cases h
    · cases h
      rfl
  | dot | short cls negated | property query negated | bracket negated inner =>
    intro f f' r h
    obtain ⟨s, -, h⟩ := Option.map_eq_some_iff.1 h
    cases h
    rfl
  | _ =>
    rintro f f' r ⟨⟩
    rfl

variable {limits : Limits} {source : String} {r : Regex} {e : Expr}

/-- What is compiled from a source has the groups of the source that are live. -/
theorem mem_groups_iff (h : compile? limits source = some r) (he : Expr.ofSource? source = some e)
    {g : Nat × Option String} : g ∈ r.tree.groups ↔ g ∈ e.live := by
  obtain ⟨e', he', h⟩ := Option.bind_eq_some_iff.1 h
  obtain rfl : e' = e := Option.some.inj (he'.symm.trans he)
  obtain ⟨⟨tree, f⟩, ht, h⟩ := Option.bind_eq_some_iff.1 h
  dsimp only at h
  split at h
  · cases h
    rw [Tree.mem_groups_factored, Expr.mem_groups_iff_live ht]
  · cases h

theorem exists_ofSource?_of_compile? (h : compile? limits source = some r) :
    ∃ e, Expr.ofSource? source = some e := by
  obtain ⟨e, he, -⟩ := Option.bind_eq_some_iff.1 h
  exact ⟨e, he⟩

/-! ## Names -/

namespace Assembly

variable {a a' : Assembly} {l : Lexeme}

/-- A lexeme brings the name of the group that it opens, and only if that name is new. -/
theorem names_add (h : a.add l = some a') :
    a'.names = l.captured?.join.toList ++ a.names ∧ (a.names.Nodup → a'.names.Nodup) := by
  cases l with
  | opening what =>
    cases what with
    | capture name =>
      obtain ⟨hn, rfl⟩ := enterCapture_eq_some.1 h
      refine ⟨rfl, fun ha => ?_⟩
      cases name with
      | none => exact ha
      | some name => exact List.nodup_cons.2 ⟨fun hm => hn name hm rfl, ha⟩
    | _ => cases h; exact ⟨rfl, id⟩
  | close =>
    obtain ⟨kind, before, outer, -, rfl⟩ := leave_eq_some.1 h
    exact ⟨rfl, id⟩
  | rep min max greedy =>
    obtain ⟨e, before, -, -, rfl⟩ := repeatLast_eq_some.1 h
    exact ⟨rfl, id⟩
  | _ => cases h; exact ⟨rfl, id⟩

theorem names_foldlM {ls : List Lexeme} : ∀ {a a' : Assembly}, ls.foldlM add a = some a' →
    a'.names = ((ls.filterMap Lexeme.captured?).filterMap id).reverse ++ a.names ∧
      (a.names.Nodup → a'.names.Nodup) := by
  induction ls with
  | nil =>
    intro a a' h
    cases h
    exact ⟨rfl, id⟩
  | cons l ls ih =>
    intro a a' h
    rw [List.foldlM_cons] at h
    obtain ⟨mid, hl, h⟩ := Option.bind_eq_some_iff.1 h
    obtain ⟨hn, hd⟩ := ih h
    obtain ⟨hn₁, hd₁⟩ := names_add hl
    refine ⟨?_, hd ∘ hd₁⟩
    rw [hn, hn₁, ← List.append_assoc]
    congr 1
    rcases hc : l.captured? with _ | _ | name <;> simp [hc]

end Assembly

namespace Expr

/-- In a source that can be read no two groups have the same name. -/
theorem nodup_captureNames (he : ofSource? source = some e) :
    (e.captureNames.filterMap id).Nodup := by
  obtain ⟨ls, hs, he⟩ := Option.bind_eq_some_iff.1 he
  obtain ⟨a, ha, -, -, -, ho⟩ := exists_foldlM_of_ofLexemes? (isPlain_of_scan hs) he
  obtain ⟨hn, hd⟩ := Assembly.names_foldlM ha
  rw [List.append_nil] at hn
  rw [captureNames_of_openings ho, ← List.nodup_reverse, ← hn]
  exact hd List.nodup_nil

end Expr

/-- A name that is there once tells where it is. -/
theorem idxOf_eq_of_getElem? {names : List (Option String)} (h : (names.filterMap id).Nodup) :
    ∀ {i : Nat} {name : String}, names[i]? = some (some name) → names.idxOf (some name) = i := by
  induction names with
  | nil => intro i name hi; cases hi
  | cons first names ih =>
    intro i name hi
    cases i with
    | zero =>
      cases Option.some.inj hi
      exact List.idxOf_cons_self
    | succ i =>
      rw [List.getElem?_cons_succ] at hi
      have hmem : name ∈ names.filterMap id :=
        List.mem_filterMap.2 ⟨_, List.mem_of_getElem? hi, rfl⟩
      cases first with
      | none =>
        have hne : none ≠ some name := nofun
        rw [List.idxOf_cons_ne _ hne, ih h hi]
      | some first =>
        obtain ⟨hn, h⟩ := List.nodup_cons.1 (show (first :: names.filterMap id).Nodup from h)
        have hne : some first ≠ some name := fun he => hn (Option.some.inj he ▸ hmem)
        rw [List.idxOf_cons_ne _ hne, ih h hi]

theorem mem_of_lookup {gs : List (Nat × Option String)} {k : Nat} {name : Option String}
    (h : gs.lookup k = some name) : (k, name) ∈ gs := by
  obtain ⟨l₁, l₂, rfl, -⟩ := List.lookup_eq_some_iff.1 h
  simp

section Names

variable (h : compile? limits source = some r) (he : Expr.ofSource? source = some e)
include he

/-- A group that is live has the name that it has in the source. -/
theorem getElem?_captureNames_of_mem_live {i : Nat} {name : Option String}
    (hg : (i + 1, name) ∈ e.live) : e.captureNames[i]? = some name :=
  ((Expr.all_captures_of_ofSource? he).of_mem_live _ hg).2

include h

/-- The names of the groups that are compiled are those of the groups that are live. -/
theorem getElem?_groupNames_iff {i : Nat} {name : String} :
    r.groupNames[i]? = some (some name) ↔ (i + 1, some name) ∈ e.live := by
  rw [groupNames, Tree.groupNames, List.getElem?_map, Option.map_eq_some_iff]
  constructor
  · rintro ⟨j, hj, hl⟩
    obtain ⟨hlt, hij⟩ := List.getElem?_eq_some_iff.1 hj
    rw [List.getElem_range hlt] at hij
    subst hij
    exact (mem_groups_iff h he).1 (mem_of_lookup (Option.join_eq_some_iff.1 hl))
  · intro hg
    have hle := Tree.groupCount_le_iff.1 (Nat.le_refl _) _ ((mem_groups_iff h he).2 hg)
    refine ⟨i, List.getElem?_range hle, ?_⟩
    cases hl : r.tree.groups.lookup (i + 1) with
    | none =>
      have hne := List.lookup_eq_none_iff.1 hl _ ((mem_groups_iff h he).2 hg)
      simp at hne
    | some other =>
      -- All groups of this number are the one of the source.
      have hother := getElem?_captureNames_of_mem_live he
        ((mem_groups_iff h he).1 (mem_of_lookup hl))
      rw [getElem?_captureNames_of_mem_live he hg] at hother
      exact (Option.some.inj hother).symm

/-- The names of the groups that are compiled are names of the source, each at its place there. -/
theorem idxOf_of_groupNames {i : Nat} {name : String} (hi : r.groupNames[i]? = some (some name)) :
    e.captureNames.idxOf (some name) = i :=
  idxOf_eq_of_getElem? (Expr.nodup_captureNames he)
    (getElem?_captureNames_of_mem_live he ((getElem?_groupNames_iff h he).1 hi))

/-- They come in the order of the source. -/
theorem pairwise_groupNames : (r.groupNames.filterMap id).Pairwise fun x y =>
    e.captureNames.idxOf (some x) < e.captureNames.idxOf (some y) := by
  rw [List.pairwise_filterMap, List.pairwise_iff_getElem]
  intro i j hi hj hij x hx y hy
  rw [idxOf_of_groupNames h he (List.getElem?_eq_some_iff.2 ⟨hi, hx⟩),
    idxOf_of_groupNames h he (List.getElem?_eq_some_iff.2 ⟨hj, hy⟩)]
  exact hij

end Names

/-! ## Groups in a match -/

section Matching

variable {text : Array Char} {I : Progress → Prop}

theorem Times.invariant {R : Progress → Progress → Prop} (hR : ∀ p q, R p q → I p → I q)
    (n : Nat) : ∀ {p q}, Times R n p q → I p → I q := by
  induction n with
  | zero =>
    rintro p _ rfl h
    exact h
  | succ n ih =>
    rintro p q ⟨m, hm, hq⟩ h
    exact ih hq (hR p m hm h)

/-- What holds of a progress still holds after each group. -/
def Tree.Preserves (text : Array Char) (I : Progress → Prop) : Tree → Prop
  | cat a b => a.Preserves text I ∧ b.Preserves text I
  | alt a b => a.Preserves text I ∧ b.Preserves text I
  | group index name r => ∀ {p q}, (group index name r).Matches text p q → I p → I q
  | rep _ _ _ r => r.Preserves text I
  | _ => True

/-- What does not depend on the place, and is kept by groups, is kept by the whole expression. -/
theorem Tree.Matches.invariant (hI : ∀ {p i}, I p → I { p with place := i }) {r : Tree} :
    ∀ {p q}, r.Preserves text I → r.Matches text p q → I p → I q := by
  induction r with
  | empty =>
    rintro p _ - rfl h
    exact h
  | set s =>
    intro p q _ hm h
    obtain ⟨c, -, -, rfl⟩ := matches_set_iff.1 hm
    exact hI h
  | look l =>
    rintro p _ - ⟨-, rfl⟩ h
    exact h
  | cat a b iha ihb =>
    rintro p q ⟨ha, hb⟩ ⟨m, hm, hq⟩ h
    exact ihb hb hq (iha ha hm h)
  | alt a b iha ihb =>
    rintro p q ⟨ha, hb⟩ (hm | hm) h
    · exact iha ha hm h
    · exact ihb hb hm h
  | group index name r ih =>
    intro p q hr hm h
    exact hr hm h
  | rep min max greedy r ih =>
    rintro p q hr ⟨n, -, hm⟩ h
    exact Times.invariant (R := r.Matches text) (fun _ _ hm h => ih hr hm h) _ hm h

/-- All groups that have been noted as complete are among the given numbers. -/
def Progress.Notes (K : Nat → Prop) (p : Progress) : Prop :=
  ∀ k, (p.notes.lookup (.stop k)).isSome = true → K k

theorem Tree.preserves_notes {K : Nat → Prop} {r : Tree} :
    (∀ g ∈ r.groups, K g.1) → r.Preserves text (Progress.Notes K) := by
  induction r with
  | cat a b iha ihb | alt a b iha ihb =>
    intro h
    exact ⟨iha fun g hg => h g (List.mem_append_left _ hg),
      ihb fun g hg => h g (List.mem_append_right _ hg)⟩
  | group index name r ih =>
    rintro h p _ ⟨m, hm, rfl⟩ hp k hk
    have hstart : (p.note (.start index)).Notes K := by
      intro k hk
      refine hp k ?_
      have hne : (Slot.stop k == Slot.start index) = false := beq_false_of_ne nofun
      simpa [Progress.note, List.lookup_cons, hne] using hk
    by_cases hi : k = index
    · subst hi
      exact h _ List.mem_cons_self
    · refine Matches.invariant id (ih fun g hg => h g (List.mem_cons_of_mem _ hg)) hm hstart k ?_
      have hne : (Slot.stop k == Slot.stop index) = false := by simpa using hi
      simpa [Progress.note, List.lookup_cons, hne] using hk
  | rep min max greedy r ih => exact fun h => ih h
  | _ => exact fun _ => trivial

/-- A group that took part in a match is one of the groups that are compiled. -/
theorem le_length_groupNames {m : Match} (hf : r.find? text = some m) {k : Nat}
    (hk : (m.stop.group? k).isSome = true) : k ≤ r.groupNames.length := by
  have hK := Tree.groupCount_le_iff.1 (Nat.le_refl r.tree.groupCount)
  have hp : r.tree.Preserves text (Progress.Notes (· ≤ r.tree.groupCount)) :=
    Tree.preserves_notes hK
  have hn := Tree.Matches.invariant id hp (matches_of_find? hf) nofun
  rw [groupNames, Tree.groupNames, List.length_map, List.length_range]
  refine hn k ?_
  obtain ⟨g, hg⟩ := Option.isSome_iff_exists.1 hk
  obtain ⟨start, -, hg⟩ := Option.bind_eq_some_iff.1 hg
  obtain ⟨stop, hs, -⟩ := Option.bind_eq_some_iff.1 hg
  rw [hs]
  rfl

end Matching

end PathTemplate.Regex
