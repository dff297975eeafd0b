import PathTemplate.Proofs.Language
/-!
# The values of a text

The groups of a template are its names, in the order of their first occurrence, and each keeps the
text that was chosen there. So the values that a matching text gives are the choices of a filling
that stands for the text, up to the last name that has one.
-/

namespace PathTemplate

open Regex

namespace Filling

/-- The choice for a name: that at its first occurrence. -/
def first (f : Filling) (tokens : List Token) (name : String) : Option String :=
  f (tokens.findIdx fun t => t.name? = some name)

/-- The values that a filling gives to the names, up to the last name that is not left out. A name
before it that is left out has the empty text. -/
def values (f : Filling) (tokens : List Token) : Values where
  pairs := ((Token.names tokens).reverse.dropWhile fun name =>
    (f.first tokens name).isNone).reverse.map fun name => (name, (f.first tokens name).getD "")

theorem first_cons_self (f : Filling) (name : String) (optional : Bool) (tokens : List Token) :
    f.first (.placeholder name optional :: tokens) name = f 0 := by
  simp [first, List.findIdx_cons, Token.name?]

theorem first_cons_of_ne {f : Filling} {t : Token} {name : String} (h : t.name? ≠ some name)
    (tokens : List Token) : f.first (t :: tokens) name = f.next.first tokens name := by
  simp [first, next, List.findIdx_cons, h]

/-- What comes first matters only to its own name. -/
theorem bind_first_cons {f : Filling} {t : Token} {names : List String}
    (h : ∀ name ∈ names, t.name? ≠ some name) (tokens : List Token) (j : Nat) :
    names[j]?.bind (f.first (t :: tokens)) = names[j]?.bind (f.next.first tokens) := by
  cases hj : names[j]? with
  | none => rfl
  | some name => exact first_cons_of_ne (h name (List.mem_of_getElem? hj)) tokens

end Filling

/-! ## Names and groups -/

namespace Regex

/-- The groups for names, numbered from `n` on. -/
def namedGroups (n : Nat) (names : List String) : List (Nat × Option String) :=
  (names.zipIdx n).map fun (name, i) => (i, some name)

theorem namedGroups_cons (n : Nat) (name : String) (names : List String) :
    namedGroups n (name :: names) = (n, some name) :: namedGroups (n + 1) names :=
  rfl

theorem lookup_namedGroups (names : List String) : ∀ n i,
    (namedGroups n names).lookup (n + i) = names[i]?.map some := by
  induction names with
  | nil => intro n i; rfl
  | cons name names ih =>
    intro n i
    rw [namedGroups_cons]
    cases i with
    | zero => simp
    | succ i =>
      have h : (n + (i + 1) == n) = false := by simp
      rw [List.lookup_cons, h, ← Nat.add_assoc, Nat.add_right_comm]
      exact ih (n + 1) i

theorem foldl_max_le_iff (xs : List Nat) : ∀ m n,
    xs.foldl Nat.max m ≤ n ↔ m ≤ n ∧ ∀ x ∈ xs, x ≤ n := by
  induction xs with
  | nil => simp
  | cons x xs ih =>
    intro m n
    rw [List.foldl_cons, ih, List.forall_mem_cons, ← and_assoc]
    exact and_congr Nat.max_le Iff.rfl

/-- The count of the groups is the least that no number of a group is above. -/
theorem Tree.groupCount_le_iff {r : Tree} {n : Nat} :
    r.groupCount ≤ n ↔ ∀ g ∈ r.groups, g.1 ≤ n := by
  rw [groupCount, foldl_max_le_iff, List.forall_mem_map]
  exact and_iff_right (Nat.zero_le n)

theorem forall_namedGroups_le_iff (names : List String) : ∀ {m n : Nat}, m ≤ n →
    ((∀ g ∈ namedGroups (m + 1) names, g.1 ≤ n) ↔ m + names.length ≤ n) := by
  induction names with
  | nil => exact fun hm => iff_of_true nofun hm
  | cons name names ih =>
    intro m n hm
    rw [namedGroups_cons, List.forall_mem_cons, List.length_cons]
    constructor
    · rintro ⟨hn, h⟩
      have := (ih hn).1 h
      omega
    · intro h
      have hn : m + 1 ≤ n := by omega
      exact ⟨hn, (ih hn).2 (by omega)⟩

/-- Groups that are numbered by names have these names. -/
theorem Tree.groupNames_of_groups {r : Tree} {names : List String}
    (h : r.groups = namedGroups 1 names) : r.groupNames = names.map some := by
  have hle : ∀ n, r.groupCount ≤ n ↔ names.length ≤ n := by
    intro n
    rw [groupCount_le_iff, h, forall_namedGroups_le_iff names (Nat.zero_le n), Nat.zero_add]
  have hc : r.groupCount = names.length :=
    Nat.le_antisymm ((hle _).2 (Nat.le_refl _)) ((hle _).1 (Nat.le_refl _))
  refine List.ext_getElem (by simp [groupNames, hc]) fun i h₁ h₂ => ?_
  have hi : i < names.length := by simpa using h₂
  simp [groupNames, h, Nat.add_comm i 1, lookup_namedGroups, hi]

theorem Tree.groups_ofParts (rs : List Tree) : (ofParts rs).groups = rs.flatMap groups := by
  induction rs with
  | nil => rfl
  | cons r rs ih =>
    cases rs with
    | nil => simp [ofParts]
    | cons s rs =>
      rw [ofParts, groups, ih]
      · rfl
      · simp

end Regex

namespace Piece

variable {o : Options} {f : Flags} {text : Array Char}

section Groups

variable {G : Option String → Fragment → Nat → Tree}

theorem groups_text (chars : List Char) :
    ((Piece.text chars).treesBy f o G).flatMap Tree.groups = [] := by
  rw [treesBy]
  induction chars with
  | nil => rfl
  | cons c chars ih => rw [List.map_cons, List.flatMap_cons, ih]; rfl

theorem groups_separator (tolerated : Bool) :
    ((separator tolerated).treesBy f o G).flatMap Tree.groups = [] := by
  cases tolerated <;> rfl

/-- A placeholder has the groups of its own part, however its separator is folded. -/
theorem groups_unit (shape : Shape) (name : Option String) (optional : Bool) (x : Fragment)
    (n : Nat) : ((unit shape name optional x n).treesBy f o G).flatMap Tree.groups =
      (G name x n).groups := by
  rw [treesBy, List.flatMap_singleton]
  cases shape <;> cases optional <;> simp [maybe, unitTree, charTree, Tree.groups]

end Groups

theorem groups_groupTree (name : Option String) (n : Nat) :
    (groupTree f o name n).groups = namedGroups (n + 1) name.toList := by
  cases name <;> rfl

/-- The groups of a layout are its new names. -/
theorem groups_layout (tokens : List Token) : ∀ before bound n,
    ((layout o (fun _ => Fragment.standard o) before bound n tokens).flatMap (trees f o)).flatMap
      Tree.groups = namedGroups (n + 1) (Token.newNames bound tokens) := by
  rw [trees]
  induction tokens with
  | nil => intro _ _ _; rfl
  | cons t tokens ih =>
    intro before bound n
    cases t with
    | literal s =>
      rw [layout, List.flatMap_cons, List.flatMap_append, ih, groups_text]
      rfl
    | separator =>
      rw [layout, List.flatMap_cons, List.flatMap_append, ih]
      split
      · rfl
      · rw [groups_separator]
        rfl
    | placeholder name optional =>
      rw [Token.newNames]
      by_cases hb : name ∈ bound
      · rw [if_pos hb, layout_of_mem hb, List.flatMap_cons, List.flatMap_append, ih, groups_unit,
          groups_groupTree]
        rfl
      · rw [if_neg hb, layout_of_not_mem hb, List.flatMap_cons, List.flatMap_append, ih,
          groups_unit, groups_groupTree]
        rfl

/-- A walk through a layout leaves the groups before it as they were. -/
theorem group?_pastAll_layout {x : String → Fragment} {kept : Bool} (tokens : List Token) :
    ∀ {before bound n} {g : Filling} {p : Progress} {k : Nat}, k ≤ n →
      (pastAll o kept g p (layout o x before bound n tokens)).group? k = p.group? k := by
  induction tokens with
  | nil => intro _ _ _ _ _ _ _; rfl
  | cons t tokens ih =>
    intro before bound n g p k hk
    cases t with
    | literal s => exact ih hk
    | separator =>
      refine (ih hk).trans ?_
      split <;> rfl
    | placeholder name optional =>
      by_cases hb : name ∈ bound
      · rw [layout_of_mem hb]
        refine (ih (Nat.le_add_right_of_le hk)).trans (group?_past_of_ne ?_ _ _ _)
        rintro _ _ _ _ _ h
        cases h
      · rw [layout_of_not_mem hb]
        refine (ih (Nat.le_add_right_of_le hk)).trans (group?_past_of_ne ?_ _ _ _)
        rintro _ _ _ _ _ h
        cases h
        omega

/-- The groups of a layout have the texts that were chosen where their names come first. -/
theorem groupText?_pastAll_layout {kept : Bool} (tokens : List Token) :
    ∀ {before bound n} {g : Filling} {p : Progress}, (∀ k, n < k → p.group? k = none) →
      At text p.place
        (words o kept g (layout o (fun _ => Fragment.standard o) before bound n tokens)) →
        ∀ j, (pastAll o kept g p (layout o (fun _ => Fragment.standard o) before bound n
          tokens)).groupText? text (n + 1 + j) =
            (Token.newNames bound tokens)[j]?.bind (g.first tokens) := by
  induction tokens with
  | nil =>
    intro before bound n g p hp _ j
    simp [layout, pastAll, Progress.groupText?, hp (n + 1 + j) (by omega), Token.newNames]
  | cons t tokens ih =>
    intro before bound n g p hp hw j
    -- After the first piece the groups that are left are those of the tokens after it.
    have tail : ∀ {y : Piece} {names : List String} {m : Nat},
        (∀ k, m < k → (y.past o kept (g 0) p).group? k = none) →
        (∀ name ∈ Token.newNames names tokens, t.name? ≠ some name) →
        At text p.place (words o kept g
          (y :: layout o (fun _ => Fragment.standard o) (t :: before) names m tokens)) →
        ∀ j, (pastAll o kept g p (y :: layout o (fun _ => Fragment.standard o) (t :: before) names m
          tokens)).groupText? text (m + 1 + j) =
            (Token.newNames names tokens)[j]?.bind (g.first (t :: tokens)) := by
      intro y names m hy hn hw j
      have hw := (at_append.1 hw).2
      rw [← place_past] at hw
      rw [Filling.bind_first_cons hn]
      exact ih hy hw j
    cases t with
    | literal s => exact tail hp (fun _ _ h => by cases h) hw j
    | separator =>
      refine tail ?_ (fun _ _ h => by cases h) hw j
      split <;> exact hp
    | placeholder name optional =>
      have hname : ∀ {names}, name ∈ names → ∀ y ∈ Token.newNames names tokens,
          (Token.placeholder name optional).name? ≠ some y := by
        rintro names hm y hy ⟨⟩
        exact Token.not_mem_of_mem_newNames tokens hy hm
      rw [Token.newNames]
      by_cases hb : name ∈ bound
      · rw [layout_of_mem hb] at hw ⊢
        rw [if_pos hb]
        refine tail (fun k hk => ?_) (hname hb) hw j
        rw [group?_past_of_ne (by rintro _ _ _ _ _ h; cases h)]
        exact hp k hk
      · rw [layout_of_not_mem hb] at hw ⊢
        rw [if_neg hb]
        cases j with
        | zero =>
          -- The group of this placeholder is its own, and what comes after leaves it alone.
          rw [List.getElem?_cons_zero, Option.bind_some, Filling.first_cons_self]
          refine Eq.trans ?_
            (groupText?_past_unit (hp (n + 1) (Nat.lt_succ_self n)) (at_append.1 hw).1)
          exact congrArg (Option.map _) (group?_pastAll_layout tokens (Nat.le_refl (n + 1)))
        | succ j =>
          have hj : n + 1 + (j + 1) = n + 1 + 1 + j := by omega
          rw [List.getElem?_cons_succ, hj]
          refine tail (fun k hk => ?_) (hname (by simp)) hw j
          rw [group?_past_of_ne]
          · exact hp k (Nat.lt_of_succ_lt hk)
          · rintro _ _ _ _ _ h
            cases h
            exact Nat.ne_of_gt hk

end Piece

/-! ## Values -/

namespace Source

variable {o : Options}

theorem groups_framed (o : Options) (ts : List Tree) :
    (framed o ts).groups = ts.flatMap Tree.groups := by
  have hb : (bounded o ts).flatMap Tree.groups = ts.flatMap Tree.groups := by
    rw [bounded, List.flatMap_cons, List.flatMap_append]
    exact List.append_nil _
  rw [framed, Tree.groups_ofParts]
  split <;> exact hb

theorem groups_tree (o : Options) (tokens : List Token) :
    (tree o tokens).groups = namedGroups 1 (Token.names tokens) := by
  rw [tree, groups_framed, core, standardPieces, Piece.ofTokens, List.flatMap_append,
    List.flatMap_append, Piece.groups_layout, Token.names_eq_newNames]
  split
  · rw [List.flatMap_singleton, Piece.trees, Piece.groups_separator, List.append_nil]
  · exact List.append_nil _

/-- After a walk through a template by a filling, the groups have the choices for the names. -/
theorem groupText?_pastAll (text : Array Char) {kept : Bool} {f : Filling} {tokens : List Token}
    (hw : Piece.words o kept f (standardPieces o tokens) = text.toList) (j : Nat) :
    (Piece.pastAll o kept f ⟨0, []⟩ (standardPieces o tokens)).groupText? text (j + 1) =
      (Token.names tokens)[j]?.bind (f.first tokens) := by
  have hp : At text 0 (Piece.words o kept f
      (Piece.layout o (fun _ => Fragment.standard o) [] [] 0 tokens)) := by
    have ha := hw ▸ at_toList text
    rw [Filling.words_standardPieces] at ha
    exact (at_append.1 ha).1
  have h := Piece.groupText?_pastAll_layout (p := ⟨0, []⟩) tokens (fun _ _ => rfl) hp j
  rw [Nat.zero_add, Nat.add_comm 1 j] at h
  rw [Token.names_eq_newNames, ← h, standardPieces, Piece.ofTokens]
  split
  · exact congrArg (Option.map _) (Piece.group?_pastAll_concat _ _ _ _ _)
  · rw [List.append_nil]

end Source

namespace Regex

variable {o : Options} {tokens : List Token} {r : Regex}

theorem groupNames_of_tree (hr : r.tree = Source.tree o tokens) :
    r.groupNames = (Token.names tokens).map some := by
  rw [groupNames, hr]
  exact Tree.groupNames_of_groups (Source.groups_tree o tokens)

/-- The groups take part up to the last one that has a text. -/
theorem participants_of_names (text : Array Char) (m : Match) {names : List String}
    {F : String → Option String} (hn : r.groupNames = names.map some)
    (ht : ∀ i, groupText? text m (i + 1) = names[i]?.bind F) :
    r.participants text m =
      (names.reverse.dropWhile fun name => (F name).isNone).reverse.map
        fun name => (some name, F name) := by
  have hr : (List.range names.length).map (fun i => groupText? text m (i + 1)) = names.map F := by
    refine List.ext_getElem (by simp) fun i h₁ h₂ => ?_
    have hi : i < names.length := by simpa using h₂
    simp [ht, hi]
  unfold participants
  rw [hn, List.length_map]
  dsimp only
  rw [hr, List.zip_map', ← List.map_reverse, List.dropWhile_map, ← List.map_reverse]
  rfl

/-- The values of a matching text are those of a filling that stands for it. -/
theorem exists_values (hr : r.tree = Source.tree o tokens) (hi : o.regexFlags.caseless = false)
    (hm : o.regexFlags.multiLine = false) {c : String} (h : r.isMatch c = true) :
    ∃ f, Filling.Fits o tokens f ∧ Filling.Yields o tokens f c ∧ r.extract c = f.values tokens := by
  obtain ⟨m, hf⟩ := Option.isSome_iff_exists.1 h
  obtain ⟨kept, f, hfit, hy, hw, hq⟩ := find?_eq_some_of_tree hr hi hm hf
  refine ⟨f, hfit, hy, ?_⟩
  have hp := participants_of_names c.toList.toArray m (groupNames_of_tree hr) <| by
    intro i
    rw [← Source.groupText?_pastAll c.toList.toArray hw, ← hq]
    rfl
  simp only [extract, hf, hp, List.filterMap_map]
  rw [Filling.values, ← List.filterMap_eq_map]
  rfl

end Regex

end PathTemplate
