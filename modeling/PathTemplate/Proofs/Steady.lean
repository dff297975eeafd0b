import Mathlib.Data.List.TakeWhile
import PathTemplate.Regex.Lexeme
/-!
# Reading before a closing parenthesis

A reader that has read a part of an expression to its end reads the same part where a closing
parenthesis and any other text come after it: no part of an expression can begin with the
parenthesis, and what looks further ahead has found its end before. `Reader.IsSteady` says so for
one reader, and here it is shown for all of them. Blanks count everywhere: under the verbose flag a
comment would swallow the parenthesis.
-/

namespace PathTemplate.Regex

namespace Reader

variable {α β : Type} {cs rest : List Char} {p : Char → Bool}

/-- What the reader gives does not change if a closing parenthesis comes after the text. -/
structure IsSteady (r : Reader α) : Prop where
  append : ∀ {cs x rest}, r cs = some (x, rest) →
    ∀ tail, r (cs ++ ')' :: tail) = some (x, rest ++ ')' :: tail)

theorem IsSteady.map {r : Reader α} (h : IsSteady r) (f : α → β) :
    IsSteady fun cs => (r cs).map fun y => (f y.1, y.2) := by
  constructor
  intro cs y rest hy tail
  obtain ⟨⟨x, rest'⟩, hx, he⟩ := Option.map_eq_some_iff.1 hy
  cases he
  simp only [h.append hx tail, Option.map_some]

/-! ## Runs of characters -/

theorem takeWhile_paren (h : p ')' = false) (cs tail : List Char) :
    (cs ++ ')' :: tail).takeWhile p = cs.takeWhile p := by
  induction cs with
  | nil => simp [h]
  | cons c cs ih => cases hc : p c <;> simp [hc, ih]

theorem dropWhile_paren (h : p ')' = false) (cs tail : List Char) :
    (cs ++ ')' :: tail).dropWhile p = cs.dropWhile p ++ ')' :: tail := by
  induction cs with
  | nil => simp [h]
  | cons c cs ih => cases hc : p c <;> simp [hc, ih]

/-- A run that has ended ends in the same place, whatever comes after it. -/
theorem while_append {c : Char} (h : cs.dropWhile p = c :: rest) (tail : List Char) :
    (cs ++ tail).takeWhile p = cs.takeWhile p ∧
      (cs ++ tail).dropWhile p = c :: (rest ++ tail) := by
  induction cs with
  | nil => cases h
  | cons d cs ih =>
    cases hd : p d
    · rw [List.dropWhile_cons_of_neg (by simp [hd])] at h
      cases h
      simp [hd]
    · rw [List.dropWhile_cons_of_pos hd] at h
      simpa [hd] using ih h

/-- What a text does not begin with, it does not begin with before a parenthesis either. -/
theorem append_paren_ne_cons {c : Char} (hc : c ≠ ')') (h : ∀ more, cs ≠ c :: more)
    (tail rest : List Char) : cs ++ ')' :: tail ≠ c :: rest := by
  intro he
  cases cs with
  | nil => exact hc (List.cons.inj he).1.symm
  | cons d more => exact h more (congrArg (· :: more) (List.cons.inj he).1)

theorem append_paren_ne_cons_cons {c d : Char} (hc : c ≠ ')') (hd : d ≠ ')')
    (h : ∀ more, cs ≠ c :: d :: more) (tail rest : List Char) :
    cs ++ ')' :: tail ≠ c :: d :: rest := by
  intro he
  cases cs with
  | nil => exact hc (List.cons.inj he).1.symm
  | cons e more =>
    obtain ⟨rfl, ht⟩ := List.cons.inj he
    exact append_paren_ne_cons hd (fun _ hm => h _ (congrArg (e :: ·) hm)) tail rest ht

theorem isBlank_paren : isBlank ')' = false := by
  decide +kernel

theorem braced_eq_some {inner : List Char} : braced false cs = some (inner, rest) ↔
    inner = cs.takeWhile (· ≠ '\x7d') ∧ ∃ c, cs.dropWhile (· ≠ '\x7d') = c :: rest := by
  unfold braced
  rw [span_false]
  cases cs.dropWhile (· ≠ '\x7d') with
  | nil => simp
  | cons c more => simp [eq_comm]

theorem isSteady_braced : IsSteady (braced false) := by
  constructor
  intro cs inner rest h tail
  obtain ⟨rfl, c, hd⟩ := braced_eq_some.1 h
  obtain ⟨ht, hd⟩ := while_append hd (')' :: tail)
  exact braced_eq_some.2 ⟨ht.symm, c, hd⟩

theorem isSteady_count : IsSteady (count false) := by
  constructor
  intro cs n rest h tail
  unfold count at h ⊢
  simp only [span_false, dropWhile_paren isBlank_paren,
    takeWhile_paren (show Char.isDigit ')' = false from rfl),
    dropWhile_paren (show Char.isDigit ')' = false from rfl)] at h ⊢
  split at h
  · cases h
  · next hn =>
    rw [if_neg hn]
    cases h
    rfl

/-! ## Repetitions -/

theorem isSteady_repetition (min : Nat) (max : Option Nat) : IsSteady (repetition min max) := by
  constructor
  intro cs l rest h tail
  cases cs with
  | nil =>
    cases h
    rfl
  | cons c cs =>
    unfold repetition at h ⊢
    split at h
    · next he =>
      cases he
      cases h
      rfl
    · next hne =>
      cases h
      have hc : c ≠ '?' := fun hc => hne cs (by rw [hc])
      simp [hc]

theorem isSteady_counted : IsSteady (counted false) := by
  constructor
  intro cs l rest h tail
  simp only [counted, Option.bind_eq_bind, skip_false] at h ⊢
  obtain ⟨⟨min, mid⟩, hc, h⟩ := Option.bind_eq_some_iff.1 h
  simp only [isSteady_count.append hc tail, Option.bind_some]
  dsimp only at h
  split at h
  · exact (isSteady_repetition min (some min)).append h tail
  · -- After a comma the braces are closed, or a second number comes.
    simp only [List.cons_append]
    split at h
    · exact (isSteady_repetition min none).append h tail
    · next hne =>
      obtain ⟨⟨max, last⟩, hm, h⟩ := Option.bind_eq_some_iff.1 h
      split
      · next he => exact absurd he (append_paren_ne_cons (by decide) hne _ _)
      · simp only [isSteady_count.append hm tail, Option.bind_some]
        dsimp only at h
        split at h
        · split at h
          · next hle =>
            simp only [List.cons_append, if_pos hle]
            exact (isSteady_repetition min (some max)).append h tail
          · cases h
        · cases h
  · cases h

/-! ## Escapes -/

theorem isSteady_hexDigits (n : Nat) : ∀ sum, IsSteady (hexDigits false n sum) := by
  induction n with
  | zero =>
    intro sum
    constructor
    intro cs x rest h tail
    cases h
    rfl
  | succ n ih =>
    intro sum
    constructor
    intro cs x rest h tail
    cases cs with
    | nil => cases h
    | cons c cs =>
      simp only [hexDigits, List.cons_append, skip_false] at h ⊢
      obtain ⟨digit, hd, h⟩ := Option.bind_eq_some_iff.1 h
      simp only [hd, Option.bind_some]
      exact (ih _).append h tail

theorem isSteady_codePoint (byte : Bool) (digits : Nat) :
    IsSteady (codePoint false byte digits) := by
  constructor
  intro cs e rest h tail
  simp only [codePoint, skip_false, Option.bind_eq_bind] at h ⊢
  split at h
  · obtain ⟨⟨inner, mid⟩, hb, h⟩ := Option.bind_eq_some_iff.1 h
    simp only [List.cons_append, isSteady_braced.append hb tail, Option.bind_some]
    dsimp only at h
    split at h
    · cases h
    · next hn =>
      rw [if_neg hn]
      obtain ⟨code, hv, h⟩ := Option.bind_eq_some_iff.1 h
      obtain ⟨c, hc, h⟩ := Option.bind_eq_some_iff.1 h
      cases h
      simp [hv, hc]
  · next hne =>
    obtain ⟨⟨code, mid⟩, hd, h⟩ := Option.bind_eq_some_iff.1 h
    obtain ⟨c, hc, h⟩ := Option.bind_eq_some_iff.1 h
    cases h
    split
    · next he => exact absurd he (append_paren_ne_cons (by decide) hne _ _)
    · simp [(isSteady_hexDigits digits 0).append hd tail, hc]

theorem isSteady_property (negated : Bool) : IsSteady (property false negated) := by
  constructor
  intro cs e rest h tail
  cases cs with
  | nil => cases h
  | cons c cs =>
    simp only [property, List.cons_append, skip_false] at h ⊢
    split at h
    · cases h
    · next he =>
      cases he
      exact (isSteady_braced.map fun text => Expr.property (.ofText text) negated).append h tail
    · next hne he =>
      cases he
      simp only
      split at h
      · cases h
      · next hb =>
        cases h
        simp [hb]

theorem isSteady_boundary : IsSteady (boundary false) := by
  constructor
  intro cs e rest h tail
  simp only [boundary, skip_false, Option.bind_eq_bind] at h ⊢
  split at h
  · -- What follows the brace decides whether it opens a name or a repetition.
    next inner =>
    cases inner with
    | nil => cases h
    | cons c inner =>
      simp only [List.cons_append] at h ⊢
      split at h
      · next hl =>
        rw [if_pos hl]
        obtain ⟨⟨name, mid⟩, hb, h⟩ := Option.bind_eq_some_iff.1 h
        obtain ⟨a, ha, h⟩ := Option.bind_eq_some_iff.1 h
        cases h
        have := isSteady_braced.append hb tail
        rw [List.cons_append] at this
        simp [this, ha]
      · next hl =>
        rw [if_neg hl]
        cases h
        rfl
  · next hne =>
    cases h
    split
    · next he => exact absurd he (append_paren_ne_cons (by decide) hne _ _)
    · rfl

theorem isSteady_escape : IsSteady (escape false) := by
  constructor
  intro cs e rest h tail
  cases cs with
  | nil => cases h
  | cons c cs =>
    simp only [List.cons_append]
    unfold escape at h ⊢
    dsimp only at h ⊢
    split at h
    · exact (isSteady_codePoint true 2).append h tail
    · exact (isSteady_codePoint false 4).append h tail
    · exact (isSteady_codePoint false 8).append h tail
    · exact (isSteady_property false).append h tail
    · exact (isSteady_property true).append h tail
    iterate 14
      · cases h
        rfl
    · exact isSteady_boundary.append h tail
    iterate 3
      · cases h
        rfl
    · split at h
      · next he =>
        cases h
        simp [he]
      · cases h

/-! ## Openings of groups -/

theorem isSteady_groupName : IsSteady groupName := by
  constructor
  intro cs name rest h tail
  unfold groupName at h ⊢
  split at h
  · next first more c rest ht hd =>
    obtain ⟨ht', hd'⟩ := while_append hd (')' :: tail)
    rw [ht', hd', ht]
    dsimp only
    split at h
    · next hn =>
      rw [if_pos hn]
      cases h
      rfl
    · cases h
  · cases h

theorem isSteady_flagList (cs : List Char) : ∀ {change negated dangling x rest},
    flagList change negated dangling cs = some (x, rest) →
      ∀ tail, flagList change negated dangling (cs ++ ')' :: tail) =
        some (x, rest ++ ')' :: tail) := by
  induction cs with
  | nil => intro _ _ _ _ _ h; cases h
  | cons c cs ih =>
    intro change negated dangling x rest h tail
    rw [flagList] at h
    rw [List.cons_append, flagList]
    by_cases hend : c = ':' ∨ c = ')'
    · rw [if_pos hend] at h ⊢
      cases dangling with
      | true => cases h
      | false =>
        cases h
        rfl
    · rw [if_neg hend] at h ⊢
      by_cases hc : c = '-'
      · rw [if_pos hc] at h ⊢
        cases negated with
        | true => cases h
        | false => exact ih h tail
      · rw [if_neg hc] at h ⊢
        obtain ⟨flag, hf, h⟩ := Option.bind_eq_some_iff.1 h
        obtain ⟨change, ha, h⟩ := Option.bind_eq_some_iff.1 h
        simp only [hf, ha, Option.bind_eq_bind, Option.bind_some]
        exact ih h tail

theorem isSteady_opening : IsSteady (opening false) := by
  constructor
  intro cs what rest h tail
  unfold opening at h ⊢
  simp only [skip_false] at h ⊢
  split at h
  · exact (isSteady_groupName.map fun name => Opening.capture (some name)).append h tail
  · exact (isSteady_groupName.map fun name => Opening.capture (some name)).append h tail
  · next cs hp hl =>
    rw [List.cons_append]
    split
    · -- What is no name on its own is none with the parenthesis after it.
      next he =>
      exact absurd (List.cons.inj he).2
        (append_paren_ne_cons_cons (by decide) (by decide) hp _ _)
    · next he =>
      exact absurd (List.cons.inj he).2 (append_paren_ne_cons (by decide) hl _ _)
    · next he =>
      cases he
      split at h
      · next hf =>
        cases h
        simp only [isSteady_flagList cs hf tail, List.cons_append]
      · next hc hf =>
        simp only [isSteady_flagList cs hf tail, List.cons_append]
        split at h
        · cases h
        · next hne =>
          cases h
          rw [if_neg hne]
      · cases h
    · next hne => exact absurd rfl (hne _)
  · next hne =>
    cases h
    -- Without a question mark at its front, the text gets none.
    have hq := append_paren_ne_cons (by decide) (fun more he => hne more he) tail
    split
    · next he => exact absurd he (hq _)
    · next he => exact absurd he (hq _)
    · next he => exact absurd he (hq _)
    · rfl

/-! ## Classes -/

/-- Whether a text begins with a caret, and what comes after that. -/
def caret : List Char → Bool × List Char
  | '^' :: rest => (true, rest)
  | cs => (false, cs)

theorem caret_append (cs tail : List Char) :
    caret (cs ++ ')' :: tail) = ((caret cs).1, (caret cs).2 ++ ')' :: tail) := by
  cases cs with
  | nil => rfl
  | cons c cs => by_cases hc : c = '^' <;> simp [caret, hc]

/-- The items that only the place makes literal, which come first in a class. -/
def leadingItems (negated : Bool) : Reader (Bool × List ClassExpr) := fun cs =>
  match span false (· = '-') cs with
  | ([], ']' :: rest) => some ((negated, [.char ']']), rest)
  | (dashes, rest) => some ((negated, dashes.map .char), rest)

theorem isSteady_leadingItems (negated : Bool) : IsSteady (leadingItems negated) := by
  constructor
  intro cs x rest h tail
  have hd : (decide (')' = '-')) = false := rfl
  unfold leadingItems at h ⊢
  rw [span_false] at h ⊢
  rw [takeWhile_paren hd, dropWhile_paren hd]
  split at h
  · next he =>
    cases h
    obtain ⟨ht, hr⟩ := Prod.mk.inj he
    rw [ht, hr]
    rfl
  · next hne he =>
    cases h
    obtain ⟨ht, hr⟩ := Prod.mk.inj he
    rw [ht, hr]
    split
    · next he =>
      obtain ⟨hn, he⟩ := Prod.mk.inj he
      exact absurd he (append_paren_ne_cons (by decide) (fun more => hne more hn) _ _)
    · next he =>
      cases he
      rfl

theorem classOpening_eq (cs : List Char) :
    classOpening false cs = leadingItems (caret cs).1 (caret cs).2 := by
  simp only [classOpening, skip_false]
  rfl

theorem isSteady_classOpening : IsSteady (classOpening false) := by
  constructor
  intro cs x rest h tail
  rw [classOpening_eq] at h
  rw [classOpening_eq, caret_append]
  exact (isSteady_leadingItems _).append h tail

/-! ### ASCII classes -/

theorem paren_not_mem_of_named? {name : String} {cls : AsciiClass}
    (h : AsciiClass.named? name = some cls) : ')' ∉ name.toList := by
  unfold AsciiClass.named? at h
  split at h <;> first | decide | cases h

/-- What follows the colon of an ASCII class, or the caret after it. -/
def asciiName (negated : Bool) : Reader ClassExpr := fun cs =>
  match cs.dropWhile (· ≠ ':') with
  | ':' :: ']' :: rest =>
    (AsciiClass.named? (String.ofList (cs.takeWhile (· ≠ ':')))).map (.ascii · negated, rest)
  | _ => none

/-- A name that goes on past the parenthesis is the name of no class. -/
theorem asciiName_append (negated : Bool) (cs tail : List Char) :
    asciiName negated (cs ++ ')' :: tail) =
      (asciiName negated cs).map fun (item, rest) => (item, rest ++ ')' :: tail) := by
  unfold asciiName
  cases hd : cs.dropWhile (· ≠ ':') with
  | cons c more =>
    obtain ⟨ht, hd'⟩ := while_append hd (')' :: tail)
    rw [ht, hd']
    by_cases hc : c = ':'
    · subst hc
      cases more with
      | nil => rfl
      | cons d more =>
        by_cases hb : d = ']'
        · subst hb
          cases AsciiClass.named? (String.ofList (cs.takeWhile (· ≠ ':'))) <;> rfl
        · simp [hb]
    · simp [hc]
  | nil =>
    have hm : ')' ∈ (cs ++ ')' :: tail).takeWhile (· ≠ ':') := by
      rw [List.takeWhile_append_of_pos (List.dropWhile_eq_nil_iff.1 hd)]
      simp
    have hn : AsciiClass.named? (String.ofList ((cs ++ ')' :: tail).takeWhile (· ≠ ':'))) =
        none := by
      rw [Option.eq_none_iff_forall_ne_some]
      intro cls hcls
      exact paren_not_mem_of_named? hcls (by simpa using hm)
    rw [hn]
    split <;> rfl

/-- Whether brackets hold the name of a class is found out before the parenthesis. -/
theorem asciiClass_append (cs tail : List Char) :
    asciiClass (cs ++ ')' :: tail) =
      (asciiClass cs).map fun (item, rest) => (item, rest ++ ')' :: tail) := by
  have hcolon : ∀ cs, asciiClass (':' :: cs) = asciiName (caret cs).1 (caret cs).2 := fun _ => rfl
  cases cs with
  | nil => rfl
  | cons c cs =>
    by_cases hc : c = ':'
    · subst hc
      rw [List.cons_append, hcolon, hcolon, caret_append]
      exact asciiName_append _ _ tail
    · simp [asciiClass, hc]

/-! ### Items -/

theorem isSteady_classAtom : IsSteady (classAtom false) := by
  constructor
  intro cs e rest h tail
  unfold classAtom at h
  split at h
  · cases h
  · exact isSteady_escape.append h tail
  · next hne =>
    cases h
    simp [classAtom]

theorem isSteady_classItem : IsSteady (classItem false) := by
  constructor
  intro cs item rest h tail
  simp only [classItem, Option.bind_eq_bind, skip_false] at h ⊢
  obtain ⟨⟨first, mid⟩, ha, h⟩ := Option.bind_eq_some_iff.1 h
  simp only [isSteady_classAtom.append ha tail, Option.bind_some]
  dsimp only at h
  split at h
  · next after =>
    have hh : ∀ c, c ≠ ')' → (afterHyphen false (after ++ ')' :: tail) = some c ↔
        afterHyphen false after = some c) := by
      intro c hc
      cases after <;> simp [afterHyphen, hc.symm]
    simp only [List.cons_append, hh ']' (by decide), hh '-' (by decide)]
    split at h
    · next hl =>
      obtain ⟨x, hx, h⟩ := Option.bind_eq_some_iff.1 h
      cases h
      simp [hl, hx]
    · next hl =>
      rw [if_neg hl]
      obtain ⟨⟨last, mid⟩, hb, h⟩ := Option.bind_eq_some_iff.1 h
      simp only [isSteady_classAtom.append hb tail, Option.bind_some]
      dsimp only at h
      split at h
      · split at h
        · next hle =>
          cases h
          simp [hle]
        · cases h
      · cases h
  · next hne =>
    obtain ⟨x, hx, h⟩ := Option.bind_eq_some_iff.1 h
    cases h
    split
    · next he => exact absurd he (append_paren_ne_cons (by decide) hne _ _)
    · simp [hx]

/-! ### Whole classes -/

/-- The rest of a class, with as much fuel as it takes or more. -/
theorem classBody_append (n : Nat) : ∀ {m frames items cs x rest}, n ≤ m →
    classBody false n frames items cs = some (x, rest) →
      ∀ tail, classBody false m frames items (cs ++ ')' :: tail) =
        some (x, rest ++ ')' :: tail) := by
  induction n with
  | zero => intro _ _ _ _ _ _ _ h; cases h
  | succ n ih =>
    intro m frames items cs x rest hm h tail
    obtain ⟨m, rfl⟩ : ∃ k, m = k + 1 := ⟨m - 1, by omega⟩
    have hm : n ≤ m := Nat.le_of_succ_le_succ hm
    unfold classBody at h ⊢
    simp only [skip_false] at h ⊢
    split at h
    · cases h
    · -- A bracket begins an ASCII class or a class within the class.
      simp only [List.cons_append, asciiClass_append]
      split at h
      · next ha =>
        simp only [ha, Option.map_some]
        exact ih hm h tail
      · next ha =>
        simp only [ha, Option.map_none]
        obtain ⟨⟨⟨negated, literals⟩, mid⟩, ho, h⟩ := Option.bind_eq_some_iff.1 h
        simp only [isSteady_classOpening.append ho tail, Option.bind_some]
        exact ih hm h tail
    · simp only [List.cons_append]
      split at h
      · next he =>
        cases h
        simp only
      · next hne he =>
        exact ih hm h tail
      · cases h
    · exact ih hm h tail
    · exact ih hm h tail
    · exact ih hm h tail
    · next hnil hopen hclose hand hminus htilde =>
      obtain ⟨⟨item, mid⟩, hi, h⟩ := Option.bind_eq_some_iff.1 h
      split
      · next he => simp at he
      · next he => exact absurd he (append_paren_ne_cons (by decide) hopen _ _)
      · next he => exact absurd he (append_paren_ne_cons (by decide) hclose _ _)
      · next he => exact absurd he (append_paren_ne_cons_cons (by decide) (by decide) hand _ _)
      · next he => exact absurd he (append_paren_ne_cons_cons (by decide) (by decide) hminus _ _)
      · next he => exact absurd he (append_paren_ne_cons_cons (by decide) (by decide) htilde _ _)
      · simp only [isSteady_classItem.append hi tail, Option.bind_some]
        exact ih hm h tail

theorem isSteady_bracket : IsSteady (bracket false) := by
  constructor
  intro cs e rest h tail
  simp only [bracket, Option.bind_eq_bind] at h ⊢
  obtain ⟨⟨⟨negated, literals⟩, mid⟩, ho, h⟩ := Option.bind_eq_some_iff.1 h
  obtain ⟨⟨⟨negated', inner⟩, last⟩, hb, h⟩ := Option.bind_eq_some_iff.1 h
  cases h
  have hl : mid.length + 1 ≤ (mid ++ ')' :: tail).length + 1 := by simp
  simp only [isSteady_classOpening.append ho tail, Option.bind_some, classBody_append _ hl hb tail]
  rfl

/-! ## Lexemes -/

theorem isSteady_lexeme : IsSteady (lexeme false) := by
  constructor
  intro cs l rest h tail
  cases cs with
  | nil => cases h
  | cons c cs =>
    simp only [List.cons_append]
    unfold lexeme at h ⊢
    dsimp only at h ⊢
    split at h
    · exact (isSteady_opening.map Lexeme.opening).append h tail
    iterate 2
      · cases h
        rfl
    · exact (isSteady_bracket.map Lexeme.atom).append h tail
    · exact (isSteady_repetition 0 (some 1)).append h tail
    · exact (isSteady_repetition 0 none).append h tail
    · exact (isSteady_repetition 1 none).append h tail
    · exact isSteady_counted.append h tail
    · exact (isSteady_escape.map Lexeme.atom).append h tail
    iterate 4
      · cases h
        rfl

end Reader

end PathTemplate.Regex
