import PathTemplate.Proofs.Participation
/-!
# What placeholders keep

A value comes out of a text as it stands there, and no separator is in it
(`Builder.separator_not_mem_of_values`). This does not depend on which way a text is matched, and so
it is shown for all of them: whatever is matched, a group has kept what its own expression matched,
and for a placeholder this is the expression that leaves out the separator. Ignoring case can only
leave out more.
-/

namespace PathTemplate

open Regex

namespace Regex

variable {text : Array Char} {p : Progress} {P : List Char → Prop}

/-- Each group that took part has kept a word with the property, where that stands in the text. -/
def Progress.Keeps (text : Array Char) (P : List Char → Prop) (p : Progress) : Prop :=
  ∀ k i j, p.group? k = some (i, j) → ∃ w, P w ∧ At text i w ∧ j = i + w.length

theorem Progress.Keeps.captured (h : p.Keeps text P) {w : List Char} (hw : P w)
    (ha : At text p.place w) (index : Nat) : (p.captured index w).Keeps text P := by
  intro k i j hk
  by_cases hi : k = index
  · rw [hi, group?_captured_self] at hk
    cases hk
    exact ⟨w, hw, ha, rfl⟩
  · rw [group?_captured_of_ne p hi] at hk
    exact h k i j hk

/-- A group keeps what its expression matches, if that notes nothing itself. -/
theorem Tree.Matches.keeps {r : Tree} {index : Nat} {name : Option String} {q : Progress}
    (hr : ∀ {p q}, r.Matches text p q → ∃ w, P w ∧ At text p.place w ∧ q = p.past w)
    (hm : (group index name r).Matches text p q) (h : p.Keeps text P) : q.Keeps text P := by
  obtain ⟨m, hm, rfl⟩ := hm
  obtain ⟨w, hw, ha, rfl⟩ := hr hm
  exact h.captured hw ha index

/-- Ignoring case or not, a set keeps its characters. -/
theorem Flags.contains_fold (f : Flags) {s : CharSet} {c : Char} (h : s.contains c = true) :
    (f.fold s).contains c = true := by
  unfold Flags.fold
  split <;> simp [CharSet.contains, h]

theorem Tree.preserves_ofParts {I : Progress → Prop} {rs : List Tree}
    (h : ∀ r ∈ rs, r.Preserves text I) : (ofParts rs).Preserves text I := by
  induction rs with
  | nil => trivial
  | cons r rs ih =>
    obtain ⟨hr, h⟩ := List.forall_mem_cons.1 h
    cases rs with
    | nil => exact hr
    | cons s rs => exact ⟨hr, ih h⟩

end Regex

/-! ## The groups of a template -/

namespace Piece

variable {f : Flags} {o : Options} {text : Array Char} {p q : Progress}

/-- A word that is not empty and has no separator in it. -/
def IsValue (o : Options) (w : List Char) : Prop :=
  w ≠ [] ∧ o.separator ∉ w

/-- Under all flags the expression of a placeholder matches only words without the separator, and
none of them is empty. -/
theorem exists_of_matches_standardTree (h : (standardTree f o).Matches text p q) :
    ∃ w, IsValue o w ∧ At text p.place w ∧ q = p.past w := by
  obtain ⟨w, hw, hc, ha, rfl⟩ := Tree.matches_rep_set_iff.1 h
  refine ⟨w, ⟨hw, fun hs => ?_⟩, ha, rfl⟩
  have hin : (f.fold (.single o.separator)).contains o.separator = true :=
    f.contains_fold (by simp)
  have hout := hc _ hs
  rw [CharSet.contains_compl, hin] at hout
  cases hout

theorem preserves_groupTree (name : Option String) (n : Nat) :
    (groupTree f o name n).Preserves text (Progress.Keeps text (IsValue o)) := by
  cases name with
  | none => trivial
  | some name => exact Tree.Matches.keeps exists_of_matches_standardTree

theorem preserves_trees (x : Piece) :
    ∀ t ∈ x.trees f o, t.Preserves text (Progress.Keeps text (IsValue o)) := by
  intro t ht
  cases x with
  | nothing => cases ht
  | text chars =>
    obtain ⟨c, -, rfl⟩ := List.mem_map.1 ht
    trivial
  | separator tolerated =>
    rw [List.mem_singleton.1 ht]
    cases tolerated <;> trivial
  | unit shape name optional y n =>
    rw [List.mem_singleton.1 ht]
    have hg : (groupTree f o name n).Preserves text (Progress.Keeps text (IsValue o)) :=
      preserves_groupTree name n
    have hu : (unitTree f o (groupTree f o name n) shape).Preserves text
        (Progress.Keeps text (IsValue o)) := by
      cases shape with
      | foldLeft => exact ⟨trivial, hg⟩
      | foldRight => exact ⟨hg, trivial⟩
      | bare => exact hg
    cases optional <;> exact hu

end Piece

namespace Source

variable {o : Options} {text : Array Char}

/-- The two ends and the flags note no groups, so a framed row keeps what its parts keep. -/
theorem preserves_framed {P : Progress → Prop} {ts : List Tree}
    (h : ∀ t ∈ ts, t.Preserves text P) : (framed o ts).Preserves text P := by
  have hb : ∀ t ∈ bounded o ts, t.Preserves text P := by
    intro t ht
    rcases List.mem_cons.1 ht with rfl | ht
    · trivial
    rcases List.mem_append.1 ht with ht | ht
    · exact h t ht
    · rw [List.mem_singleton.1 ht]
      trivial
  refine Tree.preserves_ofParts fun t ht => ?_
  split at ht
  · exact hb t ht
  · rcases List.mem_cons.1 ht with rfl | ht
    · trivial
    · exact hb t ht

theorem preserves_tree (o : Options) (tokens : List Token) {text : Array Char} :
    (tree o tokens).Preserves text (Progress.Keeps text (Piece.IsValue o)) := by
  refine preserves_framed fun t ht => ?_
  obtain ⟨x, -, ht⟩ := List.mem_flatMap.1 ht
  exact x.preserves_trees t ht

end Source

/-! ## Values -/

namespace Builder

/-- Under all flags and with any characters for markers, a value is a part of the text without a
separator in it. It is empty only if the group of its name took no part in the match. -/
theorem separator_not_mem_of_values {b : Builder} (hb : b.IsFaithful)
    (ho : b.options.fault? = none) (hd : b.options.defaultExpression = none) {stamp : Nat}
    {template : String} {t : CompiledTemplate}
    (hc : (b.compile stamp template []).result = .ok t) {c name value : String}
    (hv : (name, value) ∈ (t.values c).pairs) :
    value.toList <:+: c.toList ∧ b.options.separator ∉ value.toList ∧
      ∃ m i, t.regex.find? c.toList.toArray = some m ∧
        t.regex.groupNames[i]? = some (some name) ∧
          (value = "" ↔ m.stop.group? (i + 1) = none) := by
  rw [result_compile hb] at hc
  obtain ⟨tokens, ht⟩ : ∃ tokens, Token.ofTemplate b.options template = .ok tokens := by
    obtain ⟨tokens, ht, -⟩ := Anew.compile_eq_ok.1 hc
    exact ⟨tokens, ht⟩
  have htree := Anew.tree_of_compile ho hd ht hc
  obtain ⟨m, hf⟩ := exists_find?_of_mem_names (List.mem_map_of_mem (f := Prod.fst) hv)
  obtain ⟨i, hi, -, hvalue⟩ := (mem_pairs_extract_iff hf).1 hv
  have hm := matches_of_find? hf
  rw [htree] at hm
  have hkeeps : m.stop.Keeps c.toList.toArray (Piece.IsValue b.options) :=
    hm.invariant id (Source.preserves_tree b.options tokens) nofun
  cases hg : m.stop.group? (i + 1) with
  | none =>
    have hempty : value = "" := by simp [hvalue, groupText?, Progress.groupText?, hg]
    subst hempty
    exact ⟨List.nil_infix, List.not_mem_nil, m, i, hf, hi, by simp [hg]⟩
  | some g =>
    obtain ⟨start, stop⟩ := g
    obtain ⟨w, ⟨hne, hsep⟩, ha, rfl⟩ := hkeeps _ _ _ hg
    have hw : value.toList = w := by
      rw [hvalue, groupText?, Progress.groupText?, hg, Option.map_some, Option.getD_some,
        String.toList_ofList]
      exact toList_extract_of_at ha
    rw [hw]
    refine ⟨?_, hsep, m, i, hf, hi, iff_of_false (fun he => hne ?_) (by simp [hg])⟩
    · exact ha.isInfix.trans (List.drop_suffix _ _).isInfix
    · rw [← hw, he, String.toList_empty]

/-- A builder whose separator means something else where a character class begins. -/
def careted : Builder where
  options := { separator := '^', flags := "U" }
  limits := { weight := none }

/-- A placeholder right before another one, and one that was left out. -/
theorem separator_not_mem_of_values_adjacent :
    ∃ t, (careted.compile 0 "\x7ba\x7d\x7bb\x7d^\x7bc?\x7d" []).result = .ok t ∧
      ("b", "y-z") ∈ (t.values "xy-z^").pairs ∧ '^' ∉ "y-z".toList ∧ ∃ m i,
        t.regex.find? "xy-z^".toList.toArray = some m ∧ t.regex.groupNames[i]? = some (some "b") ∧
          (m.stop.group? (i + 1)).isSome = true := by
  have h : (careted.compile 0 "\x7ba\x7d\x7bb\x7d^\x7bc?\x7d" []).result.toOption.any (fun t =>
      ("b", "y-z") ∈ (t.values "xy-z^").pairs) = true := by
    decide +kernel
  cases hc : (careted.compile 0 "\x7ba\x7d\x7bb\x7d^\x7bc?\x7d" []).result with
  | error e =>
    rw [hc] at h
    cases h
  | ok t =>
    rw [hc] at h
    have hv := of_decide_eq_true h
    obtain ⟨-, hsep, m, i, hf, hi, hg⟩ :=
      separator_not_mem_of_values (b := careted) ⟨nofun, nofun⟩ (by decide) rfl hc hv
    refine ⟨t, rfl, hv, hsep, m, i, hf, hi, ?_⟩
    exact Option.isSome_iff_ne_none.2 fun hn => absurd (hg.2 hn) (by decide)

end Builder

end PathTemplate
