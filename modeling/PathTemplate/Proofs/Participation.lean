import PathTemplate.Proofs.Groups
import PathTemplate.Proofs.Keys
/-!
# Which groups have values

What the values of a text are, said group by group and for all regular expressions: a group with a
name has a value exactly if it is live and it took part in the match or a group after it did, be
that one with a name or without (`extract_participation`).

A group that is not live has no value even where others after it took part: it is no group of what
is compiled (`extract_not_live`).
-/

namespace PathTemplate.Regex

variable {limits : Limits} {source : String} {r : Regex} {e : Expr} {text : Array Char} {m : Match}

/-! ## Groups that count as taking part -/

theorem getElem?_slots (r : Regex) (text : Array Char) (m : Match) (i : Nat) :
    (r.slots text m)[i]? = r.groupNames[i]?.map fun name => (name, groupText? text m (i + 1)) := by
  by_cases hi : i < r.groupNames.length
  · rw [List.getElem?_eq_getElem hi, Option.map_some, slots, List.getElem?_zip_eq_some]
    simp [hi]
  · have hle := Nat.le_of_not_lt hi
    rw [List.getElem?_eq_none_iff.2 hle, Option.map_none, List.getElem?_eq_none_iff,
      ← List.length_map (·.1), map_fst_slots]
    exact hle

/-- The groups up to the last one that took part come first. -/
theorem getElem?_participants {i : Nat} (hi : i < (r.participants text m).length) :
    (r.participants text m)[i]? =
      r.groupNames[i]?.map fun name => (name, groupText? text m (i + 1)) := by
  obtain ⟨rest, hs, -⟩ := exists_slots_eq_append r text m
  rw [← getElem?_slots, hs, List.getElem?_append_left hi]

/-- A group counts as taking part exactly if one took part that is not before it. -/
theorem lt_length_participants_iff (hf : r.find? text = some m) {i : Nat} :
    i < (r.participants text m).length ↔ ∃ k, i < k ∧ (m.stop.group? k).isSome = true := by
  have hp : r.participants text m = (r.slots text m).rdropWhile fun g => g.2.isNone := rfl
  have hsome : ∀ k, (m.stop.group? k).isSome = (groupText? text m k).isSome := fun k =>
    Option.isSome_map.symm
  constructor
  · intro hi
    have hne : r.participants text m ≠ [] := List.ne_nil_of_length_pos (Nat.zero_lt_of_lt hi)
    have hlt : (r.participants text m).length - 1 < (r.participants text m).length := by omega
    have hlast := getElem?_participants hlt
    rw [← List.getLast?_eq_getElem?, List.getLast?_eq_some_getLast hne] at hlast
    obtain ⟨name, -, hg⟩ := Option.map_eq_some_iff.1 hlast.symm
    refine ⟨_, Nat.lt_succ_of_le (Nat.le_sub_one_of_lt hi), ?_⟩
    -- The last of those that are not dropped took part.
    have hs := List.rdropWhile_last_not _ (r.slots text m) (hp ▸ hne)
    simp only [← hp, ← hg] at hs
    rw [hsome]
    simpa [Option.isSome_iff_ne_none] using hs
  · rintro ⟨k, hik, hk⟩
    have hle := le_length_groupNames hf hk
    obtain ⟨j, rfl⟩ := Nat.exists_eq_succ_of_ne_zero (Nat.ne_zero_of_lt hik)
    obtain ⟨rest, hs, hrest⟩ := exists_slots_eq_append r text m
    by_contra hi
    have hm := getElem?_slots r text m j
    rw [List.getElem?_eq_getElem hle, hs, List.getElem?_append_right (by omega)] at hm
    have hnone : groupText? text m (j + 1) = none := hrest _ (List.mem_of_getElem? hm)
    rw [hsome, hnone] at hk
    cases hk

/-! ## Values -/

theorem lookup_of_mem {pairs : List (String × String)} (h : (pairs.map (·.1)).Nodup)
    {name value : String} (hm : (name, value) ∈ pairs) : pairs.lookup name = some value := by
  obtain ⟨l₁, l₂, rfl⟩ := List.append_of_mem hm
  refine List.lookup_eq_some_iff.2 ⟨l₁, l₂, rfl, fun p hp => ?_⟩
  rw [List.map_append, List.map_cons, List.nodup_append] at h
  have hne := h.2.2 p.1 (List.mem_map_of_mem hp) name List.mem_cons_self
  simpa [bne_iff_ne] using hne.symm

section Values

variable {c name : String}

/-- Only a text that matches has values. -/
theorem exists_find?_of_mem_names (h : name ∈ (r.extract c).names) :
    ∃ m, r.find? c.toList.toArray = some m := by
  cases hf : r.find? c.toList.toArray with
  | none => simp [extract, hf, Values.names] at h
  | some m => exact ⟨m, rfl⟩

variable (hf : r.find? c.toList.toArray = some m)
include hf

/-- The values are those of the groups with a name that count as taking part: the text that the
group matched last, or the empty text. -/
theorem mem_pairs_extract_iff {value : String} : (name, value) ∈ (r.extract c).pairs ↔
    ∃ i, r.groupNames[i]? = some (some name) ∧ i < (r.participants c.toList.toArray m).length ∧
      value = (groupText? c.toList.toArray m (i + 1)).getD "" := by
  simp only [extract, hf, List.mem_filterMap]
  constructor
  · rintro ⟨g, hg, hv⟩
    obtain ⟨i, hi⟩ := List.mem_iff_getElem?.1 hg
    have hlt := (List.getElem?_eq_some_iff.1 hi).1
    rw [getElem?_participants hlt, Option.map_eq_some_iff] at hi
    obtain ⟨_, hi, rfl⟩ := hi
    obtain ⟨_, rfl, hv⟩ := Option.map_eq_some_iff.1 hv
    cases hv
    exact ⟨i, hi, hlt, rfl⟩
  · rintro ⟨i, hi, hlt, rfl⟩
    have hp := getElem?_participants hlt
    rw [hi] at hp
    exact ⟨_, List.mem_of_getElem? hp, rfl⟩

theorem mem_names_extract_iff : name ∈ (r.extract c).names ↔
    ∃ i, r.groupNames[i]? = some (some name) ∧
      i < (r.participants c.toList.toArray m).length := by
  rw [Values.names, List.mem_map]
  constructor
  · rintro ⟨⟨_, value⟩, hv, rfl⟩
    obtain ⟨i, hi, hlt, -⟩ := (mem_pairs_extract_iff hf).1 hv
    exact ⟨i, hi, hlt⟩
  · rintro ⟨i, hi, hlt⟩
    exact ⟨(name, _), (mem_pairs_extract_iff hf).2 ⟨i, hi, hlt, rfl⟩, rfl⟩

end Values

/-- The values of a text, group by group of the source. A group with a name has a value exactly if
it is live, the text matches, and some group that is not before it took part, whether that one has
a name or not. Its value is the text that it matched last, or the empty text if it took no part.
The names of the values are names of groups, each of them once and in the order of the groups, and
if there are any the text matches. -/
theorem extract_participation (h : compile? limits source = some r) (c : String) :
    ∃ e, Expr.ofSource? source = some e ∧
      (∀ i name, e.captureNames[i]? = some (some name) →
        (name ∈ (r.extract c).names ↔ (i + 1, some name) ∈ e.live ∧
          ∃ m, r.find? c.toList.toArray = some m ∧
            ∃ k, i < k ∧ (m.stop.group? k).isSome = true) ∧
        ∀ m, r.find? c.toList.toArray = some m → name ∈ (r.extract c).names →
          (r.extract c).get? name = some ((groupText? c.toList.toArray m (i + 1)).getD "")) ∧
      (∀ name ∈ (r.extract c).names, some name ∈ e.captureNames) ∧
      (r.extract c).names.Nodup ∧
      ((r.extract c).names.Pairwise fun x y =>
        e.captureNames.idxOf (some x) < e.captureNames.idxOf (some y)) ∧
      ((r.extract c).names ≠ [] → r.isMatch c = true) := by
  obtain ⟨e, he⟩ := exists_ofSource?_of_compile? h
  have hpre := (r.names_extract_prefix c).1
  have hsorted := (pairwise_groupNames h he).sublist hpre.sublist
  have hd : (r.extract c).names.Nodup := hsorted.imp fun hlt heq => by simp [heq] at hlt
  refine ⟨e, he, fun i name hi => ?_, fun name hn => ?_, hd, hsorted, fun hne => ?_⟩
  · -- Where the name has a value, it is the name of this group among those that are compiled.
    have hplace : ∀ m, r.find? c.toList.toArray = some m → name ∈ (r.extract c).names →
        r.groupNames[i]? = some (some name) ∧
          i < (r.participants c.toList.toArray m).length := by
      intro m hf hn
      obtain ⟨j, hj, hlt⟩ := (mem_names_extract_iff hf).1 hn
      obtain rfl : j = i := (idxOf_of_groupNames h he hj).symm.trans
        (idxOf_eq_of_getElem? (Expr.nodup_captureNames he) hi)
      exact ⟨hj, hlt⟩
    refine ⟨⟨fun hn => ?_, ?_⟩, fun m hf hn => ?_⟩
    · obtain ⟨m, hf⟩ := exists_find?_of_mem_names hn
      obtain ⟨hname, hlt⟩ := hplace m hf hn
      exact ⟨(getElem?_groupNames_iff h he).1 hname, m, hf,
        (lt_length_participants_iff hf).1 hlt⟩
    · rintro ⟨hlive, m, hf, hk⟩
      exact (mem_names_extract_iff hf).2 ⟨i, (getElem?_groupNames_iff h he).2 hlive,
        (lt_length_participants_iff hf).2 hk⟩
    · obtain ⟨hname, hlt⟩ := hplace m hf hn
      exact lookup_of_mem hd ((mem_pairs_extract_iff hf).2 ⟨i, hname, hlt, rfl⟩)
  · obtain ⟨m, hf⟩ := exists_find?_of_mem_names hn
    obtain ⟨i, hi, -⟩ := (mem_names_extract_iff hf).1 hn
    exact List.mem_of_getElem?
      (getElem?_captureNames_of_mem_live he ((getElem?_groupNames_iff h he).1 hi))
  · obtain ⟨_, hn⟩ := List.exists_mem_of_ne_nil _ hne
    obtain ⟨m, hf⟩ := exists_find?_of_mem_names hn
    rw [isMatch, hf]
    rfl

/-- A group with a name that took no part has the empty text, since a group without a name after it
did take part. -/
theorem extract_participation_skipped :
    ∃ r, compile? {} "(?P<a>x)?(y)?(?P<c>z)?(?:(w)|v)*" = some r ∧
      "c" ∈ (r.extract "ywv").names ∧ (r.extract "ywv").get? "c" = some "" := by
  have hr : (compile? {} "(?P<a>x)?(y)?(?P<c>z)?(?:(w)|v)*").any (fun r =>
      (r.find? "ywv".toList.toArray).any fun m =>
        (m.stop.group? 4).isSome ∧ groupText? "ywv".toList.toArray m 3 = none) = true := by
    decide +kernel
  have hs : (Expr.ofSource? "(?P<a>x)?(y)?(?P<c>z)?(?:(w)|v)*").all (fun e =>
      e.captureNames[2]? = some (some "c") ∧ (3, some "c") ∈ e.live) = true := by
    decide +kernel
  obtain ⟨r, hc, hr⟩ := (Option.any_eq_true _ _).1 hr
  obtain ⟨m, hf, hm⟩ := (Option.any_eq_true _ _).1 hr
  obtain ⟨hg, hnone⟩ := of_decide_eq_true hm
  obtain ⟨e, he, hall, -⟩ := extract_participation hc "ywv"
  rw [he] at hs
  obtain ⟨hi, hlive⟩ := of_decide_eq_true hs
  obtain ⟨hiff, hget⟩ := hall 2 "c" hi
  have hmem := hiff.2 ⟨hlive, m, hf, 4, by decide, hg⟩
  refine ⟨r, hc, hmem, ?_⟩
  rw [hget m hf hmem, hnone]
  rfl

/-- A group that is not live has no value, although the text matches and a group after it took
part. -/
theorem extract_not_live : ∃ e r, Expr.ofSource? "(?P<a>x)\x7b0\x7d(?P<b>y)" = some e ∧
    compile? {} "(?P<a>x)\x7b0\x7d(?P<b>y)" = some r ∧ e.captureNames[0]? = some (some "a") ∧
      ¬ ("a" ∈ (r.extract "y").names ↔ ∃ m, r.find? "y".toList.toArray = some m ∧
        ∃ k, 0 < k ∧ (m.stop.group? k).isSome = true) := by
  have hs : (Expr.ofSource? "(?P<a>x)\x7b0\x7d(?P<b>y)").any (fun e =>
      e.captureNames[0]? = some (some "a")) = true := by
    decide +kernel
  have hr : (compile? {} "(?P<a>x)\x7b0\x7d(?P<b>y)").any (fun r =>
      "a" ∉ (r.extract "y").names ∧ (r.find? "y".toList.toArray).any fun m =>
        (m.stop.group? 2).isSome) = true := by
    decide +kernel
  obtain ⟨e, he, hs⟩ := (Option.any_eq_true _ _).1 hs
  obtain ⟨r, hc, hr⟩ := (Option.any_eq_true _ _).1 hr
  obtain ⟨hn, hm⟩ := of_decide_eq_true hr
  obtain ⟨m, hf, hg⟩ := (Option.any_eq_true _ _).1 hm
  exact ⟨e, r, he, hc, of_decide_eq_true hs, fun hiff =>
    hn (hiff.2 ⟨m, hf, 2, Nat.succ_pos 1, hg⟩)⟩

end PathTemplate.Regex
