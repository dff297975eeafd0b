import PathTemplate.Proofs.Anew
import PathTemplate.Proofs.Extraction
import PathTemplate.Proofs.Lexing
/-!
# Texts from values and values from texts

The values of a matching text, written into the template, give the text again. If all placeholders
fill segments, the values that were written into a template come out of its text again: separators
bound what each of them is, and a text in which nothing is left out has too many separators for a
filling that leaves something out.
-/

namespace PathTemplate

open Regex

namespace Token

theorem mem_foldl_addName {name : String} (xs : List String) : ∀ seen : List String,
    name ∈ xs.foldl addName seen ↔ name ∈ seen ∨ name ∈ xs := by
  induction xs with
  | nil => simp
  | cons x xs ih =>
    intro seen
    rw [List.foldl_cons, ih, mem_addName, List.mem_cons, or_assoc]

theorem mem_names_iff {name : String} {tokens : List Token} :
    name ∈ names tokens ↔ name ∈ tokens.filterMap name? := by
  simp [names, mem_foldl_addName]

theorem mem_names_iff_exists {name : String} {tokens : List Token} :
    name ∈ names tokens ↔ ∃ optional, placeholder name optional ∈ tokens := by
  rw [mem_names_iff, List.mem_filterMap]
  constructor
  · rintro ⟨t, ht, hn⟩
    cases t with
    | placeholder x optional =>
      cases hn
      exact ⟨optional, ht⟩
    | _ => cases hn
  · rintro ⟨optional, ht⟩
    exact ⟨_, ht, rfl⟩

/-- The position of the first placeholder of a name. -/
def firstIdx (tokens : List Token) (name : String) : Nat :=
  tokens.findIdx fun t => t.name? = some name

/-- The first placeholder of a name that occurs. -/
theorem exists_getElem?_firstIdx {name : String} {tokens : List Token} (h : name ∈ names tokens) :
    ∃ optional, tokens[firstIdx tokens name]? = some (placeholder name optional) := by
  obtain ⟨optional, hm⟩ := mem_names_iff_exists.1 h
  have hlt := List.findIdx_lt_length_of_exists (p := fun t : Token => decide (t.name? = some name))
    ⟨_, hm, decide_eq_true rfl⟩
  have hp := of_decide_eq_true (List.findIdx_getElem (w := hlt))
  have hi : tokens[firstIdx tokens name]? = some _ := List.getElem?_eq_getElem hlt
  rw [hi]
  revert hp
  cases tokens[tokens.findIdx fun t : Token => decide (t.name? = some name)] with
  | placeholder x optional =>
    rintro ⟨⟩
    exact ⟨optional, rfl⟩
  | _ => exact fun hp => by cases hp

theorem mem_filterMap_of_getElem? {name : String} {optional : Bool} {tokens : List Token} {i : Nat}
    (h : tokens[i]? = some (placeholder name optional)) : name ∈ tokens.filterMap name? :=
  List.mem_filterMap.2 ⟨_, List.mem_of_getElem? h, rfl⟩

/-- A separator can belong only to an optional placeholder. -/
theorem placeholder_of_owner? {capture : Orientation} {tokens : List Token} {i j : Nat}
    (h : owner? capture tokens i = some j) : ∃ name, tokens[j]? = some (placeholder name true) :=
  (exists_of_isOptionalSegment (owner?_eq_some h).1).1

end Token

namespace Filling

variable {o : Options} {tokens : List Token} {f g : Filling}

/-! ## Fillings that agree -/

/-- Two fillings make the same choices for all placeholders. -/
def Agrees (tokens : List Token) (f g : Filling) : Prop :=
  ∀ i name optional, tokens[i]? = some (.placeholder name optional) → f i = g i

/-- Only the choices for placeholders count. -/
theorem text_eq_of_agrees (h : Agrees tokens f g) : f.text o tokens = g.text o tokens := by
  refine congrArg String.join (List.mapIdx_eq_mapIdx_iff.2 fun i hi => ?_)
  have ht : tokens[i]? = some tokens[i] := List.getElem?_eq_getElem hi
  cases hc : tokens[i] with
  | literal s => rfl
  | placeholder name optional =>
    rw [hc] at ht
    rw [textAt, textAt, h i name optional ht]
    rfl
  | separator =>
    have ha : f.isAbsorbed o tokens i = g.isAbsorbed o tokens i := by
      rw [isAbsorbed, isAbsorbed]
      cases ho : Token.owner? o.capture tokens i with
      | none => rfl
      | some j =>
        obtain ⟨name, hj⟩ := Token.placeholder_of_owner? ho
        exact congrArg Option.isNone (h j name true hj)
    rw [textAt, textAt, ha]
    rfl

theorem Yields.of_agrees {c : String} (hy : f.Yields o tokens c) (h : Agrees tokens f g) :
    g.Yields o tokens c := by
  have ht := text_eq_of_agrees (o := o) h
  rcases hy with _ | ⟨ha, hl⟩ | ⟨ha, hl, ho, hc⟩
  · exact ht ▸ .exact
  · exact ht ▸ .extra ha hl
  · exact .short ha hl ho (ht ▸ hc)

theorem first_eq_of_agrees (h : Agrees tokens f g) {name : String}
    (hm : name ∈ Token.names tokens) : f.first tokens name = g.first tokens name := by
  obtain ⟨optional, hi⟩ := Token.exists_getElem?_firstIdx hm
  exact h _ name optional hi

/-! ## A text from its values -/

/-- The filling that values describe: each placeholder has the value of its name, and is left out if
that is missing or empty. -/
def ofValues (tokens : List Token) (v : Values) : Filling :=
  fun i => (tokens[i]?.bind Token.name?).bind fun name => (v.get? name).filter (· ≠ "")

theorem lookup_map_self (names : List String) (u : String → String) (name : String) :
    (names.map fun x => (x, u x)).lookup name = if name ∈ names then some (u name) else none := by
  induction names with
  | nil => rfl
  | cons x names ih =>
    rw [List.map_cons, List.lookup_cons, ih]
    by_cases h : name = x
    · simp [h]
    · simp [h, beq_false_of_ne h]

/-- A value that is not empty is the choice for its name. -/
theorem filter_get?_values {name : String} (hm : name ∈ Token.names tokens)
    (hf : f.first tokens name ≠ some "") :
    ((f.values tokens).get? name).filter (· ≠ "") = f.first tokens name := by
  rw [values, Values.get?, lookup_map_self]
  split
  · cases hc : f.first tokens name with
    | none => rfl
    | some s =>
      have hs : s ≠ "" := fun he => hf (he ▸ hc)
      simp [hs]
  · next hn =>
    -- A name that has no value is after the last one that is not left out.
    rw [List.mem_reverse] at hn
    have hr := List.mem_reverse.2 hm
    rw [← List.takeWhile_append_dropWhile (p := fun name => (f.first tokens name).isNone)
      (l := (Token.names tokens).reverse), List.mem_append, or_iff_left hn] at hr
    have hl := List.all_eq_true.1 List.all_takeWhile name hr
    rw [Option.isNone_iff_eq_none.1 hl]
    rfl

/-- Where no name comes twice, the choice for a name is that of its placeholder. -/
theorem first_eq_of_nodup {name : String} {optional : Bool} :
    ∀ {tokens : List Token} {f : Filling} {i : Nat}, (tokens.filterMap Token.name?).Nodup →
      tokens[i]? = some (.placeholder name optional) → f.first tokens name = f i := by
  intro tokens
  induction tokens with
  | nil => intro _ _ _ h; cases h
  | cons t tokens ih =>
    intro f i hn h
    cases i with
    | zero =>
      cases Option.some.inj h
      exact f.first_cons_self name optional tokens
    | succ i =>
      have hm : name ∈ tokens.filterMap Token.name? := Token.mem_filterMap_of_getElem? h
      have ht : t.name? ≠ some name := by
        intro he
        rw [List.filterMap_cons, he] at hn
        exact (List.nodup_cons.1 hn).1 hm
      have hn' : (tokens.filterMap Token.name?).Nodup := by
        rw [List.filterMap_cons] at hn
        split at hn
        · exact hn
        · exact (List.nodup_cons.1 hn).2
      rw [first_cons_of_ne ht]
      exact ih hn' h

/-- The values of a filling describe it. -/
theorem agrees_ofValues (hn : (tokens.filterMap Token.name?).Nodup) (hf : f.Fits o tokens) :
    Agrees tokens f (ofValues tokens (f.values tokens)) := by
  intro i name optional h
  have hc := first_eq_of_nodup (f := f) hn h
  have he : f i ≠ some "" := by
    intro he
    have ha := hf i _ h
    rw [he] at ha
    exact ha.1 rfl
  have hm := Token.mem_names_iff.2 (Token.mem_filterMap_of_getElem? h)
  rw [ofValues, h]
  exact (hc.symm.trans (filter_get?_values hm (hc ▸ he)).symm)

/-! ## Nothing left out -/

/-- What is written for tokens if no separator is left out. -/
def spelled (o : Options) (tokens : List Token) (f : Filling) : String :=
  String.join (tokens.mapIdx fun i t => t.spelling o (f i))

theorem toList_spelled_cons (f : Filling) (t : Token) (tokens : List Token) :
    (f.spelled o (t :: tokens)).toList =
      (t.spelling o (f 0)).toList ++ (f.next.spelled o tokens).toList := by
  simp only [spelled, List.mapIdx_cons, String.toList_join, List.flatMap_cons]
  rfl

theorem textAt_of_not_isAbsorbed {i : Nat} {t : Token}
    (h : t = .separator → f.isAbsorbed o tokens i = false) :
    f.textAt o tokens i t = t.spelling o (f i) := by
  cases t with
  | separator => simp [textAt, h rfl]
  | _ => rfl

/-- A text in which no separator is left out. -/
theorem text_eq_spelled
    (h : ∀ i : Nat, tokens[i]? = some .separator → f.isAbsorbed o tokens i = false) :
    f.text o tokens = f.spelled o tokens := by
  refine congrArg String.join (List.mapIdx_eq_mapIdx_iff.2 fun i hi => ?_)
  refine textAt_of_not_isAbsorbed fun hs => h i ?_
  rw [List.getElem?_eq_getElem hi, hs]

/-- No placeholder is left out. -/
def IsTotal (tokens : List Token) (f : Filling) : Prop :=
  ∀ i name optional, tokens[i]? = some (.placeholder name optional) → (f i).isSome = true

/-- Where no placeholder is left out, no separator is. -/
theorem text_eq_spelled_of_isTotal (h : IsTotal tokens f) :
    f.text o tokens = f.spelled o tokens := by
  refine text_eq_spelled fun i _ => ?_
  rw [isAbsorbed]
  cases ho : Token.owner? o.capture tokens i with
  | none => rfl
  | some j =>
    obtain ⟨name, hj⟩ := Token.placeholder_of_owner? ho
    have hs := h j name true hj
    cases hf : f j with
    | none => simp [hf] at hs
    | some s => simp [hf]

/-! ## Characters are counted -/

section Count

variable {p : Char → Bool} {a b : Nat → Token → String}

/-- Where each token has at most as many characters of a kind, all tokens together have. -/
theorem countP_flatMap_le (tokens : List Token) : ∀ {a b : Nat → Token → String},
    (∀ i t, tokens[i]? = some t → (a i t).toList.countP p ≤ (b i t).toList.countP p) →
      ((tokens.mapIdx a).flatMap String.toList).countP p ≤
        ((tokens.mapIdx b).flatMap String.toList).countP p := by
  induction tokens with
  | nil => exact fun _ => Nat.le_refl _
  | cons t tokens ih =>
    intro a b h
    rw [List.mapIdx_cons, List.mapIdx_cons, List.flatMap_cons, List.flatMap_cons,
      List.countP_append, List.countP_append]
    exact Nat.add_le_add (h 0 t rfl) (ih fun i u hu => h (i + 1) u hu)

/-- Where all tokens together have as many characters of a kind, each of them has. -/
theorem countP_eq_of_countP_flatMap_eq (tokens : List Token) : ∀ {a b : Nat → Token → String},
    (∀ i t, tokens[i]? = some t → (a i t).toList.countP p ≤ (b i t).toList.countP p) →
      ((tokens.mapIdx a).flatMap String.toList).countP p =
        ((tokens.mapIdx b).flatMap String.toList).countP p →
      ∀ i t, tokens[i]? = some t → (a i t).toList.countP p = (b i t).toList.countP p := by
  induction tokens with
  | nil => intro _ _ _ _ i t h; cases h
  | cons t tokens ih =>
    intro a b h he i u hu
    rw [List.mapIdx_cons, List.mapIdx_cons, List.flatMap_cons, List.flatMap_cons,
      List.countP_append, List.countP_append] at he
    have h₀ := h 0 t rfl
    have hm : ((tokens.mapIdx fun i => a (i + 1)).flatMap String.toList).countP p ≤
        ((tokens.mapIdx fun i => b (i + 1)).flatMap String.toList).countP p :=
      countP_flatMap_le tokens fun i u hu => h (i + 1) u hu
    cases i with
    | zero =>
      cases hu
      omega
    | succ i =>
      exact ih (a := fun i => a (i + 1)) (b := fun i => b (i + 1)) (fun i u hu => h (i + 1) u hu)
        (by omega) i u hu

end Count

/-- No choice for a placeholder has a separator in it. -/
theorem separator_not_mem_getD (hf : f.Fits o tokens) {i : Nat} {name : String} {optional : Bool}
    (h : tokens[i]? = some (.placeholder name optional)) :
    o.separator ∉ ((f i).getD "").toList := by
  have ha := hf i _ h
  cases hc : f i with
  | none => simp
  | some s =>
    rw [hc] at ha
    exact ha.2

/-- A text has at most as many separators at a token as are spelled there. -/
theorem count_textAt_le (hf : f.Fits o tokens) (g : Filling) {i : Nat} {t : Token}
    (h : tokens[i]? = some t) : (f.textAt o tokens i t).toList.count o.separator ≤
      (t.spelling o (g i)).toList.count o.separator := by
  cases t with
  | literal s => exact Nat.le_refl _
  | separator =>
    rw [textAt]
    split
    · exact Nat.zero_le _
    · exact Nat.le_refl _
  | placeholder name optional =>
    have hs : f.textAt o tokens i (.placeholder name optional) = (f i).getD "" := rfl
    rw [hs, List.count_eq_zero_of_not_mem (separator_not_mem_getD hf h)]
    exact Nat.zero_le _

/-- A text with as many separators as are spelled has left none out. -/
theorem isAbsorbed_eq_false_of_count (hf : f.Fits o tokens)
    (h : (f.text o tokens).toList.count o.separator =
      (g.spelled o tokens).toList.count o.separator) {i : Nat}
    (hi : tokens[i]? = some .separator) : f.isAbsorbed o tokens i = false := by
  rw [text, spelled, String.toList_join, String.toList_join] at h
  have hc := countP_eq_of_countP_flatMap_eq tokens (fun i t ht => count_textAt_le hf g ht) h i _ hi
  rw [← Bool.not_eq_true]
  intro ha
  simp [textAt, ha, Token.isSeparator, Token.spelling] at hc

/-! ## Separators bound the choices -/

theorem eq_of_append_eq {s : Char} {u : List Char} : ∀ {v r r' : List Char}, s ∉ u → s ∉ v →
    (∀ c ∈ r.head?, c = s) → (∀ c ∈ r'.head?, c = s) → u ++ r = v ++ r' → u = v ∧ r = r' := by
  induction u with
  | nil =>
    intro v r r' _ hv hr _ h
    cases v with
    | nil => exact ⟨rfl, h⟩
    | cons c v =>
      rw [List.nil_append] at h
      rw [h] at hr
      exact absurd (hr c rfl ▸ List.mem_cons_self) hv
  | cons c u ih =>
    intro v r r' hu hv hr hr' h
    cases v with
    | nil =>
      rw [List.nil_append] at h
      rw [← h] at hr'
      exact absurd (hr' c rfl ▸ List.mem_cons_self) hu
    | cons d v =>
      obtain ⟨rfl, ht⟩ := List.cons.inj h
      obtain ⟨rfl, rfl⟩ := ih (fun hm => hu (List.mem_cons_of_mem _ hm))
        (fun hm => hv (List.mem_cons_of_mem _ hm)) hr hr' ht
      exact ⟨rfl, rfl⟩

theorem head?_spelled_of_isBoundary (h : tokens.head?.all Token.isSeparator = true) (f : Filling) :
    ∀ c ∈ (f.spelled o tokens).toList.head?, c = o.separator := by
  intro c hc
  cases tokens with
  | nil => cases hc
  | cons t tokens =>
    cases t with
    | separator =>
      rw [toList_spelled_cons] at hc
      simpa [Token.spelling, eq_comm] using hc
    | _ => cases h

/-- If a separator or the end comes after each placeholder, what is spelled tells the choices. -/
theorem getD_eq_of_spelled_eq : ∀ {tokens : List Token} {f g : Filling},
    (∀ i name optional, tokens[i]? = some (.placeholder name optional) →
      tokens[i + 1]?.all Token.isSeparator = true) →
    (∀ i name optional, tokens[i]? = some (.placeholder name optional) →
      o.separator ∉ ((f i).getD "").toList ∧ o.separator ∉ ((g i).getD "").toList) →
    f.spelled o tokens = g.spelled o tokens →
      ∀ i name optional, tokens[i]? = some (.placeholder name optional) →
        (f i).getD "" = (g i).getD "" := by
  intro tokens
  induction tokens with
  | nil => intro _ _ _ _ _ _ _ _ h; cases h
  | cons t tokens ih =>
    intro f g hb hs h i name optional hi
    have h := congrArg String.toList h
    rw [toList_spelled_cons, toList_spelled_cons] at h
    have key : f.next.spelled o tokens = g.next.spelled o tokens →
        ∀ i name optional, tokens[i]? = some (.placeholder name optional) →
          (f (i + 1)).getD "" = (g (i + 1)).getD "" :=
      ih (fun i => hb (i + 1)) fun i => hs (i + 1)
    cases t with
    | placeholder x opt =>
      -- Both choices end where the first separator comes, or the end.
      obtain ⟨h₁, h₂⟩ := hs 0 x opt rfl
      have hn := hb 0 x opt rfl
      rw [List.getElem?_cons_succ, ← List.head?_eq_getElem?] at hn
      obtain ⟨h, hr⟩ := eq_of_append_eq h₁ h₂ (head?_spelled_of_isBoundary hn _)
        (head?_spelled_of_isBoundary hn _) h
      cases i with
      | zero => exact String.toList_inj.1 h
      | succ i => exact key (String.toList_inj.1 hr) i name optional hi
    | _ =>
      cases i with
      | zero => cases hi
      | succ i =>
        exact key (String.toList_inj.1 (List.append_cancel_left h)) i name optional hi

/-! ## Only one filling spells a text -/

theorem exists_getLast?_spelling (hr : ∀ t ∈ tokens, t.IsRead o) (hf : f.Fits o tokens)
    (hs : IsTotal tokens f) {i : Nat} {t : Token} (hi : tokens[i]? = some t) (ht : t ≠ .separator) :
    ∃ c ∈ (t.spelling o (f i)).toList.getLast?, c ≠ o.separator := by
  cases t with
  | separator => exact absurd rfl ht
  | literal text => exact hr _ (List.mem_of_getElem? hi)
  | placeholder name optional =>
    obtain ⟨s, hc⟩ := Option.isSome_iff_exists.1 (hs i name optional hi)
    have ha := hf i _ hi
    rw [hc] at ha
    have hn : s.toList ≠ [] := by simpa using ha.1
    refine ⟨s.toList.getLast hn, ?_, fun he => ha.2 (he ▸ List.getLast_mem hn)⟩
    rw [hc]
    exact List.getLast?_eq_some_getLast hn

/-- What is spelled ends with a separator only if the tokens do. -/
theorem getLast?_spelled_ne (hr : ∀ t ∈ tokens, t.IsRead o) (hf : f.Fits o tokens)
    (hs : IsTotal tokens f) (hl : tokens.getLast? ≠ some .separator) :
    (f.spelled o tokens).toList.getLast? ≠ some o.separator := by
  rcases List.eq_nil_or_concat tokens with rfl | ⟨before, t, rfl⟩
  · exact nofun
  · rw [List.concat_eq_append] at hr hf hs hl ⊢
    have hi : (before ++ [t])[before.length]? = some t := by simp
    obtain ⟨c, hc, hn⟩ := exists_getLast?_spelling hr hf hs hi fun he => hl (by simp [he])
    rw [spelled, List.mapIdx_append, String.toList_join, List.flatMap_append, List.getLast?_append]
    simp only [List.mapIdx_cons, List.mapIdx_nil, Nat.zero_add, List.flatMap_cons,
      List.flatMap_nil, List.append_nil]
    rw [Option.mem_def.1 hc]
    exact fun he => hn (Option.some.inj he)

/-- Where all placeholders fill segments, a text in which nothing is left out is the text of one
filling only. -/
theorem agrees_of_yields_spelled (hr : ∀ t ∈ tokens, t.IsRead o)
    (hseg : ∀ i name optional, tokens[i]? = some (.placeholder name optional) →
      tokens[i + 1]?.all Token.isSeparator = true)
    (hf : f.Fits o tokens) (hs : IsTotal tokens f) (hg : g.Fits o tokens)
    (hy : g.Yields o tokens (f.spelled o tokens)) : Agrees tokens f g := by
  have hle : (g.text o tokens).toList.count o.separator ≤
      (f.spelled o tokens).toList.count o.separator := by
    rw [text, spelled, String.toList_join, String.toList_join]
    exact countP_flatMap_le tokens fun i t ht => count_textAt_le hg f ht
  have ht : g.text o tokens = f.spelled o tokens := by
    generalize hc : f.spelled o tokens = c at hy hle
    rcases hy with _ | ⟨ha, hl⟩ | ⟨ha, hl, ho, hw⟩
    · rfl
    · -- No separator can follow: the text would end with one, and the tokens do not.
      exfalso
      refine getLast?_spelled_ne hr hf hs hl ?_
      rw [hc]
      simp
    · -- No separator can be missing: there would be one more in the tokens than is spelled.
      exfalso
      rw [hw, String.toList_append, String.toList_singleton, List.count_append,
        List.count_singleton_self] at hle
      exact Nat.not_succ_le_self _ hle
  have hspell : g.spelled o tokens = f.spelled o tokens := by
    rw [← ht, text_eq_spelled fun i hi => isAbsorbed_eq_false_of_count hg (by rw [ht]) hi]
  intro i name optional hi
  have he := getD_eq_of_spelled_eq hseg
    (fun i name optional hi => ⟨separator_not_mem_getD hg hi, separator_not_mem_getD hf hi⟩)
    hspell i name optional hi
  obtain ⟨s, hc⟩ := Option.isSome_iff_exists.1 (hs i name optional hi)
  have ha := hf i _ hi
  rw [hc] at ha he ⊢
  cases hgi : g i with
  | some u =>
    rw [hgi] at he
    exact congrArg some he.symm
  | none =>
    rw [hgi] at he
    exact absurd he.symm ha.1

end Filling

/-! ## Templates worked out anew -/

namespace Anew

variable {o : Options} {template : String} {tokens : List Token}

/-- A template is compiled if only its size has no bound. -/
theorem exists_compile (ho : o.fault? = none) (hd : o.defaultExpression = none)
    (ht : Token.ofTemplate o template = .ok tokens) :
    ∃ t, compile { weight := none } o template [] = .ok t := by
  obtain ⟨r, hr⟩ := Source.exists_compile? ho hd (Token.validName_of_ofTemplate ho ht)
  exact ⟨⟨r, Token.names tokens⟩, compile_eq_ok.2 ⟨tokens, ht, rfl, hr⟩⟩

/-- The regular expression of a template is its tree. -/
theorem tree_of_compile (ho : o.fault? = none) (hd : o.defaultExpression = none)
    (ht : Token.ofTemplate o template = .ok tokens) {limits : Limits} {t : CompiledTemplate}
    (hc : compile limits o template [] = .ok t) : t.regex.tree = Source.tree o tokens := by
  obtain ⟨ts, hts, -, hr⟩ := compile_eq_ok.1 hc
  rw [ht] at hts
  cases hts
  exact Source.tree_of_compile? ho hd (Token.validName_of_ofTemplate ho ht) hr

end Anew

namespace CompiledTemplate

/-- Where case counts and lines do not, and no name comes twice, a text is what its own values
stand for. -/
theorem yields_ofValues {o : Options} (ho : o.fault? = none)
    (hd : o.defaultExpression = none) (hs : ∀ c ∈ o.flags.toList, c ∈ ['s', 'u', 'U'])
    {template : String} {tokens : List Token} (ht : Token.ofTemplate o template = .ok tokens)
    (hn : (tokens.filterMap Token.name?).Nodup) {limits : Limits} {t : CompiledTemplate}
    (hc : Anew.compile limits o template [] = .ok t) {c : String} (hm : t.isMatch c = true) :
    (Filling.ofValues tokens (t.values c)).Yields o tokens c := by
  obtain ⟨hi, hl⟩ := Options.caseless_and_multiLine_of_flags hs
  obtain ⟨f, hf, hy, hv⟩ := exists_values (Anew.tree_of_compile ho hd ht hc) hi hl hm
  have hv : t.values c = f.values tokens := hv
  rw [hv]
  exact hy.of_agrees (Filling.agrees_ofValues hn hf)

/-- The text `a` gives no value to `b` in `a/{b?}`, so the separator is left out as well. -/
theorem yields_ofValues_without_optional_tail :
    ∃ t, Anew.compile { weight := none } {} "a/\x7bb?\x7d" [] = .ok t ∧ t.isMatch "a" = true ∧
      (Filling.ofValues [.literal "a", .separator, .placeholder "b" true] (t.values "a")).Yields {}
        [.literal "a", .separator, .placeholder "b" true] "a" := by
  have ht : Token.ofTemplate {} "a/\x7bb?\x7d" =
      .ok [.literal "a", .separator, .placeholder "b" true] := by rfl
  have hy : Filling.Yields {} [.literal "a", .separator, .placeholder "b" true]
      (fun _ => none) "a" := by
    have hw : Filling.text {} [.literal "a", .separator, .placeholder "b" true]
        (fun _ => none) = "a" := by decide
    exact hw ▸ .exact
  obtain ⟨t, hc⟩ := Anew.exists_compile rfl rfl ht
  have hm : t.isMatch "a" = true := by
    refine isMatch_of_yields (Anew.tree_of_compile rfl rfl ht hc) rfl rfl ?_ hy
    simp [Filling.fits_cons, Filling.fits_nil, Filling.next, Token.Allows, Options.Accepts]
  exact ⟨t, hc, hm, yields_ofValues rfl rfl (by simp) ht (by decide) hc hm⟩

/-- The values of a filling that leaves no name out are its choices. -/
theorem pairs_values_of_isSome {tokens : List Token} {f : Filling}
    (h : ∀ name ∈ Token.names tokens, (f.first tokens name).isSome = true) :
    (f.values tokens).pairs =
      (Token.names tokens).map fun name => (name, (f.first tokens name).getD "") := by
  have hd : (Token.names tokens).reverse.dropWhile (fun name => (f.first tokens name).isNone) =
      (Token.names tokens).reverse := by
    cases hr : (Token.names tokens).reverse with
    | nil => rfl
    | cons name names =>
      have hn := h name (List.mem_reverse.1 (hr ▸ List.mem_cons_self))
      refine List.dropWhile_cons_of_neg ?_
      simpa using Option.isSome_iff_ne_none.1 hn
  rw [Filling.values, hd, List.reverse_reverse]

/-- Where case counts and lines do not, and all placeholders fill segments, the texts that are
chosen for the placeholders come out of the text that is spelled with them: for each name that at
its first occurrence. -/
theorem values_of_spelled {o : Options} (ho : o.fault? = none) (hd : o.defaultExpression = none)
    (hs : ∀ c ∈ o.flags.toList, c ∈ ['s', 'u', 'U']) {template : String} {tokens : List Token}
    (ht : Token.ofTemplate o template = .ok tokens)
    (hseg : ∀ i name optional, tokens[i]? = some (.placeholder name optional) →
      Token.isSegment tokens i = true)
    {u : Nat → String} (hu : ∀ i name optional, tokens[i]? = some (.placeholder name optional) →
      u i ≠ "" ∧ o.separator ∉ (u i).toList) :
    (∃ t, Anew.compile { weight := none } o template [] = .ok t) ∧
      ∀ limits t, Anew.compile limits o template [] = .ok t →
        t.isMatch (Filling.spelled o tokens fun i => some (u i)) = true ∧
          (t.values (Filling.spelled o tokens fun i => some (u i))).pairs =
            (Token.names tokens).map fun name =>
              (name, u (tokens.findIdx fun t => t.name? = some name)) := by
  obtain ⟨hi, hl⟩ := Options.caseless_and_multiLine_of_flags hs
  refine ⟨Anew.exists_compile ho hd ht, fun limits t hc => ?_⟩
  have hr := Anew.tree_of_compile ho hd ht hc
  have hf : Filling.Fits o tokens fun i => some (u i) := by
    intro i t hi
    cases t with
    | placeholder name optional => exact hu i name optional hi
    | _ => trivial
  have hy : Filling.Yields o tokens (fun i => some (u i))
      (Filling.spelled o tokens fun i => some (u i)) :=
    Filling.text_eq_spelled_of_isTotal (o := o) (f := fun i => some (u i)) (fun _ _ _ _ => rfl) ▸
      .exact
  have hm := isMatch_of_yields hr hi hl hf hy
  refine ⟨hm, ?_⟩
  obtain ⟨g, hg, hyg, hv⟩ := exists_values hr hi hl hm
  have ha := Filling.agrees_of_yields_spelled (Token.isRead_of_ofTemplate ho ht)
    (fun i name optional hi => (Bool.and_eq_true_iff.1 (hseg i name optional hi)).2) hf
    (fun _ _ _ _ => rfl) hg hyg
  have hfirst : ∀ name ∈ Token.names tokens,
      g.first tokens name = some (u (tokens.findIdx fun t => t.name? = some name)) :=
    fun name hn => (Filling.first_eq_of_agrees ha hn).symm
  have hv : t.values (Filling.spelled o tokens fun i => some (u i)) = g.values tokens := hv
  rw [hv, pairs_values_of_isSome fun name hn => by rw [hfirst name hn]; rfl]
  exact List.map_congr_left fun name hn => by rw [hfirst name hn]; rfl

theorem values_of_spelled_optional_tail :
    ∃ t, Anew.compile { weight := none } { flags := "U" } "/\x7ba\x7d/\x7bb?\x7d" [] = .ok t ∧
      t.isMatch "/x/y" = true ∧ (t.values "/x/y").pairs = [("a", "x"), ("b", "y")] := by
  have ht : Token.ofTemplate { flags := "U" } "/\x7ba\x7d/\x7bb?\x7d" =
      .ok [.separator, .placeholder "a" false, .separator, .placeholder "b" true] := by rfl
  have hseg : ∀ i name optional,
      [Token.separator, .placeholder "a" false, .separator, .placeholder "b" true][i]? =
        some (.placeholder name optional) → Token.isSegment
          [.separator, .placeholder "a" false, .separator, .placeholder "b" true] i = true := by
    intro i name optional hi
    match i with
    | 1 => rfl
    | 3 => rfl
  have hw : Filling.spelled { flags := "U" }
      [.separator, .placeholder "a" false, .separator, .placeholder "b" true]
      (fun i => some (if i = 1 then "x" else "y")) = "/x/y" := by decide
  obtain ⟨⟨t, hc⟩, h⟩ := values_of_spelled (u := fun i => if i = 1 then "x" else "y") (by decide)
    rfl (by simp) ht hseg fun i _ _ _ => by by_cases h : i = 1 <;> simp [h]
  obtain ⟨hm, hv⟩ := h _ t hc
  rw [hw] at hm hv
  exact ⟨t, hc, hm, hv.trans (by decide)⟩

end CompiledTemplate

end PathTemplate
