import Mathlib.Data.List.DropRight
import PathTemplate.Proofs.Fragments
import PathTemplate.Proofs.RoundTrip
/-!
# The names of values

The values that a text gives bear the names of groups in the order of their numbers, up to the last
group that took part. Expressions that placeholders are given may have groups of their own; those
have no names, and the groups of the template are numbered around them. So the names of the values
are the names of the template, or the first of them (`Builder.names_values_prefix`).
-/

namespace PathTemplate

open Regex

namespace Regex

/-! ## Numbered groups -/

/-- The groups are numbered from `n + 1` to `m`, and those with a name have the names, in the order
of their numbers. -/
structure Numbers (gs : List (Nat × Option String)) (n m : Nat) (names : List String) : Prop where
  le : n ≤ m
  range : ∀ g ∈ gs, n < g.1 ∧ g.1 ≤ m
  names : (List.range' (n + 1) (m - n)).filterMap (fun i => (gs.lookup i).join) = names

namespace Numbers

variable {gs hs : List (Nat × Option String)} {n k m : Nat} {names more : List String}

theorem lookup_eq_none (h : ∀ g ∈ gs, n < g.1 ∧ g.1 ≤ m) {i : Nat} (hi : i ≤ n ∨ m < i) :
    gs.lookup i = none := by
  rw [List.lookup_eq_none_iff]
  intro g hg
  have := h g hg
  rw [bne_iff_ne]
  omega

theorem range'_split (h₁ : n ≤ k) (h₂ : k ≤ m) : List.range' (n + 1) (m - n) =
    List.range' (n + 1) (k - n) ++ List.range' (k + 1) (m - k) := by
  have hk : k + 1 = n + 1 + (k - n) := by omega
  have hm : m - n = k - n + (m - k) := by omega
  rw [hm, hk, List.range'_append_1]

theorem append (h₁ : Numbers gs n k names) (h₂ : Numbers hs k m more) :
    Numbers (gs ++ hs) n m (names ++ more) where
  le := Nat.le_trans h₁.le h₂.le
  range := by
    intro g hg
    rcases List.mem_append.1 hg with hg | hg
    · exact ⟨(h₁.range g hg).1, Nat.le_trans (h₁.range g hg).2 h₂.le⟩
    · exact ⟨Nat.lt_of_le_of_lt h₁.le (h₂.range g hg).1, (h₂.range g hg).2⟩
  names := by
    rw [range'_split h₁.le h₂.le, List.filterMap_append, ← h₁.names, ← h₂.names]
    congr 1
    · apply List.filterMap_congr
      intro i hi
      rw [List.mem_range'_1] at hi
      rw [List.lookup_append, lookup_eq_none h₂.range (by omega), Option.or_none]
    · apply List.filterMap_congr
      intro i hi
      rw [List.mem_range'_1] at hi
      rw [List.lookup_append, lookup_eq_none h₁.range (by omega), Option.none_or]

theorem of_eq_nil (h : gs = []) (n : Nat) : Numbers gs n n [] := by
  subst h
  exact ⟨Nat.le_refl n, nofun, by simp⟩

theorem single (n : Nat) (name : String) : Numbers [(n + 1, some name)] n (n + 1) [name] := by
  refine ⟨Nat.le_succ n, ?_, ?_⟩
  · intro g hg
    rw [List.mem_singleton.1 hg]
    exact ⟨Nat.lt_succ_self n, Nat.le_refl _⟩
  · simp

theorem of_unnamed (hle : n ≤ m) (h : ∀ g ∈ gs, (n < g.1 ∧ g.1 ≤ m) ∧ g.2 = none) :
    Numbers gs n m [] := by
  refine ⟨hle, fun g hg => (h g hg).1, ?_⟩
  rw [List.filterMap_eq_nil_iff]
  intro i _
  cases hl : gs.lookup i with
  | none => rfl
  | some name =>
    obtain ⟨l₁, l₂, rfl, -⟩ := List.lookup_eq_some_iff.1 hl
    exact (h (i, name) (by simp)).2

/-- Where no group has a higher number, the numbers may end. -/
theorem restrict (h : Numbers gs n m names) (hn : n ≤ k) (hk : k ≤ m) (hg : ∀ g ∈ gs, g.1 ≤ k) :
    Numbers gs n k names := by
  have hr : ∀ g ∈ gs, n < g.1 ∧ g.1 ≤ k := fun g hm => ⟨(h.range g hm).1, hg g hm⟩
  refine ⟨hn, hr, ?_⟩
  have hnil : (List.range' (k + 1) (m - k)).filterMap (fun i => (gs.lookup i).join) = [] := by
    rw [List.filterMap_eq_nil_iff]
    intro i hi
    rw [List.mem_range'_1] at hi
    rw [lookup_eq_none hr (by omega)]
    rfl
  rw [← h.names, range'_split hn hk, List.filterMap_append, hnil, List.append_nil]

end Numbers

/-- The names of an expression's groups are those that its groups are numbered with. -/
theorem Tree.filterMap_groupNames {r : Tree} {m : Nat} {names : List String}
    (h : Numbers r.groups 0 m names) : r.groupNames.filterMap id = names := by
  have hle : r.groupCount ≤ m := Tree.groupCount_le_iff.2 fun g hg => (h.range g hg).2
  have hg : ∀ g ∈ r.groups, g.1 ≤ r.groupCount := Tree.groupCount_le_iff.1 (Nat.le_refl _)
  have hn := (h.restrict (Nat.zero_le _) hle hg).names
  rw [Nat.zero_add, Nat.sub_zero, List.range'_eq_map_range, List.filterMap_map] at hn
  rw [groupNames, List.filterMap_map, ← hn]
  apply List.filterMap_congr
  intro i _
  simp [Nat.add_comm 1 i]

/-! ## The groups that took part -/

/-- The names and the texts of all groups, from number 1 on. -/
def slots (r : Regex) (text : Array Char) (m : Match) : List (Option String × Option String) :=
  r.groupNames.zip ((List.range r.groupNames.length).map fun i => groupText? text m (i + 1))

section Slots

variable {r : Regex} {text : Array Char} {m : Match}

theorem map_fst_slots (r : Regex) (text : Array Char) (m : Match) :
    (r.slots text m).map (·.1) = r.groupNames :=
  List.map_fst_zip (by simp)

theorem exists_of_mem_slots {g : Option String × Option String} (h : g ∈ r.slots text m) :
    ∃ i, r.groupNames[i]? = some g.1 ∧ groupText? text m (i + 1) = g.2 := by
  obtain ⟨i, hi⟩ := List.mem_iff_getElem?.1 h
  obtain ⟨hname, htext⟩ := List.getElem?_zip_eq_some.1 hi
  refine ⟨i, hname, ?_⟩
  rw [List.getElem?_map, Option.map_eq_some_iff] at htext
  obtain ⟨j, hj, htext⟩ := htext
  obtain ⟨hlt, hij⟩ := List.getElem?_eq_some_iff.1 hj
  rw [List.getElem_range hlt] at hij
  rwa [hij]

/-- The groups that are left out are those after the last one that took part. -/
theorem exists_slots_eq_append (r : Regex) (text : Array Char) (m : Match) : ∃ rest,
    r.slots text m = r.participants text m ++ rest ∧ ∀ g ∈ rest, g.2 = none := by
  refine ⟨(r.slots text m).rtakeWhile fun g => g.2.isNone, ?_, fun g hg => ?_⟩
  · rw [participants, List.rtakeWhile, slots, ← List.reverse_append,
      List.takeWhile_append_dropWhile, List.reverse_reverse]
  · have hp := List.mem_rtakeWhile_imp hg
    exact Option.isNone_iff_eq_none.1 hp

end Slots

/-- The names of the values are the names of the groups that count as taking part. -/
theorem names_extract {r : Regex} {c : String} {m : Match}
    (h : r.find? c.toList.toArray = some m) :
    (r.extract c).names = (r.participants c.toList.toArray m).filterMap (·.1) := by
  simp only [extract, h, Values.names, List.map_filterMap]
  apply List.filterMap_congr
  rintro ⟨name, text⟩ -
  cases name <;> rfl

/-- The names of the values are the first names of groups. They are all of them if every group with
a name took part. -/
theorem names_extract_prefix (r : Regex) (c : String) :
    (r.extract c).names <+: r.groupNames.filterMap id ∧
      ∀ m, r.find? c.toList.toArray = some m →
        (∀ i name, r.groupNames[i]? = some (some name) →
          (groupText? c.toList.toArray m (i + 1)).isSome = true) →
        (r.extract c).names = r.groupNames.filterMap id := by
  cases hf : r.find? c.toList.toArray with
  | none =>
    refine ⟨?_, nofun⟩
    simp [extract, hf, Values.names]
  | some m =>
    obtain ⟨rest, hs, hrest⟩ := r.exists_slots_eq_append c.toList.toArray m
    have hn : r.groupNames.filterMap id = (r.extract c).names ++ rest.filterMap (·.1) := by
      rw [names_extract hf, ← List.filterMap_append, ← hs, ← r.map_fst_slots c.toList.toArray m,
        List.filterMap_map]
      rfl
    rw [hn]
    refine ⟨List.prefix_append _ _, ?_⟩
    rintro _ ⟨⟩ hall
    suffices hnil : rest.filterMap (·.1) = [] by rw [hnil, List.append_nil]
    rw [List.filterMap_eq_nil_iff]
    intro g hg
    obtain ⟨i, hname, htext⟩ := exists_of_mem_slots (hs ▸ List.mem_append_right _ hg)
    cases hg₁ : g.1 with
    | none => rfl
    | some name =>
      -- A group with a name took part, but one that is left out did not.
      have h := hall i name (hg₁ ▸ hname)
      rw [htext, hrest g hg] at h
      cases h

end Regex

/-! ## The groups of a template -/

namespace Piece

variable {f : Flags} {o : Options}

/-- The groups of a placeholder: its own, if it has a name, and then those of its expression. -/
theorem numbers_holder {x : Fragment} (hx : x.IsUsable o) (name : Option String) (n : Nat) :
    Numbers (holder f name x n).groups n (n + (name.toList.length + x.groups)) name.toList := by
  have hall : ∀ n, (x.tree f n).All (fun _ => True) fun index name =>
      (n < index ∧ index ≤ n + x.groups) ∧ name = none := fun n =>
    Fragment.all_tree (hx.numbered n) fun _ _ _ => trivial
  cases name with
  | none =>
    rw [Option.toList_none, List.length_nil, Nat.zero_add]
    exact .of_unnamed (Nat.le_add_right n _) (hall n).of_mem_groups
  | some name =>
    have h := (Numbers.single n name).append
      (.of_unnamed (Nat.le_add_right (n + 1) x.groups) (hall (n + 1)).factored.of_mem_groups)
    rw [Nat.add_assoc] at h
    exact h

theorem numbers_cons {G : Option String → Fragment → Nat → Tree} {p : Piece} {ps : List Piece}
    {n : Nat} {names more : List String}
    (h₁ : Numbers ((p.treesBy f o G).flatMap Tree.groups) n (n + p.groups) names)
    (h₂ : Numbers ((ps.flatMap (treesBy f o G)).flatMap Tree.groups) (n + p.groups)
      (n + p.groups + groupCount ps) more) :
    Numbers (((p :: ps).flatMap (treesBy f o G)).flatMap Tree.groups) n
      (n + groupCount (p :: ps)) (names ++ more) := by
  rw [List.flatMap_cons, List.flatMap_append, groupCount, ← Nat.add_assoc]
  exact h₁.append h₂

/-- The groups of a layout are numbered on, and the names among them are its new names. -/
theorem numbers_layout {x : String → Fragment} (tokens : List Token)
    (hx : ∀ t ∈ tokens, ∀ name ∈ t.name?, (x name).IsUsable o) : ∀ before bound n,
      Numbers (((layout o x before bound n tokens).flatMap (treesBy f o (holder f))).flatMap
        Tree.groups) n (n + groupCount (layout o x before bound n tokens))
          (Token.newNames bound tokens) := by
  induction tokens with
  | nil => exact fun _ _ n => .of_eq_nil rfl n
  | cons t tokens ih =>
    intro before bound n
    have ih := ih fun t ht => hx t (List.mem_cons_of_mem _ ht)
    cases t with
    | literal s =>
      exact numbers_cons (p := text s.toList) (.of_eq_nil (groups_text _) n) (ih _ bound n)
    | separator =>
      rw [layout]
      split
      · exact numbers_cons (p := nothing) (.of_eq_nil rfl n) (ih _ bound n)
      · exact numbers_cons (p := separator _) (.of_eq_nil (groups_separator _) n) (ih _ bound n)
    | placeholder name optional =>
      have hu := hx _ List.mem_cons_self name rfl
      have hp : ∀ shape y, Numbers (((unit shape y optional (x name) n).treesBy f o
          (holder f)).flatMap Tree.groups) n (n + (unit shape y optional (x name) n).groups)
            y.toList := by
        intro shape y
        rw [groups_unit]
        exact numbers_holder hu y n
      rw [Token.newNames]
      by_cases hb : name ∈ bound
      · rw [if_pos hb, layout_of_mem hb]
        exact numbers_cons (hp _ none) (ih _ bound _)
      · rw [if_neg hb, layout_of_not_mem hb]
        exact numbers_cons (hp _ (some name)) (ih _ _ _)

/-- The groups of a template with a name bear its names, in the order of their numbers. -/
theorem exists_numbers_ofTokens {x : String → Fragment} {tokens : List Token}
    (hx : ∀ t ∈ tokens, ∀ name ∈ t.name?, (x name).IsUsable o) :
    ∃ m, Numbers (((ofTokens o x tokens).flatMap (treesBy f o (holder f))).flatMap Tree.groups) 0 m
      (Token.names tokens) := by
  have h := numbers_layout (f := f) tokens hx [] [] 0
  have hs := h.append (.of_eq_nil (groups_separator (f := f) (o := o) (G := holder f) true) _)
  rw [List.append_nil] at hs
  rw [ofTokens, List.flatMap_append, List.flatMap_append, Token.names_eq_newNames]
  split
  · exact ⟨_, by rwa [List.flatMap_singleton]⟩
  · exact ⟨_, by rwa [List.flatMap_nil, List.flatMap_nil, List.append_nil]⟩

end Piece

/-! ## The names of values -/

namespace Builder

/-- The names of the values of a text are the first names of the template, without duplicates. They
are all names of the template if every group with a name took part in the match. Expressions that
placeholders are given may have groups, as long as those have no names. -/
theorem names_values_prefix {b : Builder} (hb : b.IsFaithful) (ho : b.options.fault? = none)
    {stamp : Nat} {template : String} {overrides : Overrides} {t : CompiledTemplate}
    (hc : (b.compile stamp template overrides).result = .ok t)
    (hx : ∀ name ∈ t.names, ∀ text ∈ Source.given? b.options overrides name,
      ∃ e, Options.IsEmbeddable {} text e) (c : String) :
    (t.values c).names <+: t.names ∧ (t.values c).names.Nodup ∧
      ∀ m, t.regex.find? c.toList.toArray = some m →
        (∀ i name, t.regex.groupNames[i]? = some (some name) →
          (groupText? c.toList.toArray m (i + 1)).isSome = true) →
        (t.values c).names = t.names := by
  rw [result_compile hb, Anew.compile_eq_ok] at hc
  obtain ⟨tokens, ht, hnames, hr⟩ := hc
  have hu : ∀ t ∈ tokens, ∀ name ∈ t.name?,
      (Source.fragment b.options overrides name).IsUsable b.options := by
    intro u hm name hname
    refine Source.isUsable_fragment (hx name ?_)
    rw [hnames, Token.mem_names_iff]
    exact List.mem_filterMap.2 ⟨u, hm, hname⟩
  have htree := (Source.tree_eq_framed ho (Token.validName_of_ofTemplate ho ht) hu hr).2
  obtain ⟨m, hm⟩ := Piece.exists_numbers_ofTokens (f := b.options.regexFlags) hu
  have hg : t.regex.groupNames.filterMap id = t.names := by
    rw [groupNames, htree, hnames]
    exact Tree.filterMap_groupNames (Source.groups_framed b.options _ ▸ hm)
  obtain ⟨hp, hall⟩ := t.regex.names_extract_prefix c
  rw [hg] at hp hall
  refine ⟨hp, ?_, hall⟩
  refine hp.sublist.nodup ?_
  rw [hnames]
  exact Token.nodup_names tokens

/-- A builder that compiles expressions of any size. -/
def unweighed : Builder where
  options := {}
  limits := { weight := none }

/-- A group without a name that took no part, between two with names that did. -/
theorem names_values_prefix_alternation :
    ∃ t, (unweighed.compile 0 "\x7ba\x7d/\x7bb?\x7d" [("a", "x|(y)(?i)z")]).result = .ok t ∧
      t.regex.groupNames = [some "a", none, some "b"] ∧ (t.values "x/k").names = ["a", "b"] := by
  have hx : ∀ name ∈ ["a", "b"], ∀ text ∈ Source.given? {} [("a", "x|(y)(?i)z")] name,
      ∃ e, Options.IsEmbeddable {} text e := by
    simp only [List.forall_mem_cons]
    refine ⟨?_, nofun, nofun⟩
    rintro _ ⟨⟩
    exact ⟨Source.alternation, Source.isEmbeddable_alternation.of_options {}⟩
  have h : (unweighed.compile 0 "\x7ba\x7d/\x7bb?\x7d" [("a", "x|(y)(?i)z")]).result.toOption.any
      (fun t => t.names = ["a", "b"] ∧ t.regex.groupNames = [some "a", none, some "b"] ∧
        (t.regex.find? "x/k".toList.toArray).any fun m =>
          (groupText? "x/k".toList.toArray m 1).isSome ∧
            (groupText? "x/k".toList.toArray m 3).isSome) = true := by
    decide +kernel
  cases hc : (unweighed.compile 0 "\x7ba\x7d/\x7bb?\x7d" [("a", "x|(y)(?i)z")]).result with
  | error e =>
    rw [hc] at h
    cases h
  | ok t =>
    rw [hc] at h
    obtain ⟨hn, hg, hm⟩ := of_decide_eq_true h
    obtain ⟨m, hf, hm⟩ := (Option.any_eq_true _ _).1 hm
    obtain ⟨h₁, h₃⟩ := of_decide_eq_true hm
    have hb : unweighed.IsFaithful := ⟨nofun, nofun⟩
    obtain ⟨-, -, hall⟩ := names_values_prefix hb (by decide) hc (hn ▸ hx) "x/k"
    refine ⟨t, rfl, hg, hn ▸ hall m hf ?_⟩
    intro i name hi
    rw [hg] at hi
    match i with
    | 0 => exact h₁
    | 1 => cases hi
    | 2 => exact h₃
    | _ + 3 => cases hi

end Builder

end PathTemplate
