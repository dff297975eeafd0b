import PathTemplate.Regex.Escape
import PathTemplate.Regex.Lexeme
import PathTemplate.Source
/-!
# Reading what has been written

Each way in which a part of a source is written is read back as one known row of lexemes. `Reads`
says so with what comes after the part in place, since a repetition looks one character ahead; parts
in a row are read in a row, and a group is read around what stands in it.
-/

namespace PathTemplate.Regex

/-- Where `rest` comes after them, characters are read as lexemes, and the reader goes on with
`rest` as it would have. -/
structure Reads (cs : List Char) (ls : List Lexeme) (rest : List Char) : Prop where
  /-- There is fuel for the lexemes. -/
  length_le : ls.length ≤ cs.length
  scan : ∀ fuel outer, Lexeme.scan (fuel + ls.length) false outer (cs ++ rest) =
    (Lexeme.scan fuel false outer rest).map (ls ++ ·)

theorem scan_cons {fuel : Nat} {outer : List Bool} {c : Char} {cs rest : List Char} {l : Lexeme}
    (h : Reader.lexeme false (c :: cs) = some (l, rest)) :
    Lexeme.scan (fuel + 1) false outer (c :: cs) =
      (Lexeme.scan fuel (l.verbosity false outer).1 (l.verbosity false outer).2 rest).map
        (l :: ·) := by
  simp [Lexeme.scan, h]

namespace Reads

variable {cs ds rest : List Char} {ls ms : List Lexeme}

theorem nil (rest : List Char) : Reads [] [] rest where
  length_le := Nat.le_refl 0
  scan fuel outer := by simp

theorem append (h₁ : Reads cs ls (ds ++ rest)) (h₂ : Reads ds ms rest) :
    Reads (cs ++ ds) (ls ++ ms) rest where
  length_le := by
    rw [List.length_append, List.length_append]
    exact Nat.add_le_add h₁.length_le h₂.length_le
  scan fuel outer := by
    rw [List.length_append, Nat.add_comm ls.length, ← Nat.add_assoc, List.append_assoc, h₁.scan,
      h₂.scan, Option.map_map]
    congr 1
    funext ks
    simp

/-- A single lexeme that opens and closes no group. -/
theorem one {c : Char} {l : Lexeme} (h : Reader.lexeme false (c :: (cs ++ rest)) = some (l, rest))
    (hv : ∀ outer, l.verbosity false outer = (false, outer)) : Reads (c :: cs) [l] rest where
  length_le := Nat.succ_le_succ (Nat.zero_le _)
  scan fuel outer := by
    rw [List.cons_append, List.length_singleton, scan_cons h, hv]
    rfl

/-- A group, from what is read for its opening and what is read in it. -/
theorem around (head : List Char) {what : Opening}
    (h : Reader.lexeme false ('(' :: (head ++ (cs ++ ')' :: rest))) =
      some (.opening what, cs ++ ')' :: rest))
    (hv : ∀ outer, (Lexeme.opening what).verbosity false outer = (false, false :: outer))
    (hr : Reads cs ls (')' :: rest)) :
    Reads ('(' :: (head ++ (cs ++ [')']))) (.opening what :: (ls ++ [.close])) rest where
  length_le := by
    have := hr.length_le
    simp only [List.length_cons, List.length_append, List.length_nil]
    omega
  scan fuel outer := by
    have hc : Lexeme.scan (fuel + 1) false (false :: outer) (')' :: rest) =
        (Lexeme.scan fuel false outer rest).map (.close :: ·) :=
      scan_cons (l := .close) rfl
    have hs : Lexeme.scan (fuel + (ls.length + 1) + 1) false outer _ = _ := scan_cons h
    rw [hv] at hs
    simp only [List.cons_append, List.append_assoc, List.length_cons, List.length_append,
      List.length_nil, List.nil_append, Nat.zero_add]
    rw [← Nat.add_assoc, hs, show fuel + (ls.length + 1) = fuel + 1 + ls.length by omega, hr.scan,
      hc, Option.map_map, Option.map_map]
    rfl

/-- A source that is read to its end has the lexemes. -/
theorem ofSource (h : Reads cs ls []) : Lexeme.ofSource (String.ofList cs) = some ls := by
  have hs := h.scan (cs.length + 1 - ls.length) []
  have hl := h.length_le
  rw [List.append_nil, show cs.length + 1 - ls.length + ls.length = cs.length + 1 by omega,
    show cs.length + 1 - ls.length = cs.length - ls.length + 1 by omega] at hs
  simp only [Lexeme.ofSource, String.toList_ofList]
  rw [hs]
  simp [Lexeme.scan]

end Reads

/-! ## Characters -/

theorem escape_of_mem {c : Char} (h : c ∈ metaChars) (rest : List Char) :
    Reader.escape false (c :: rest) = some (.char c false, rest) := by
  simp only [metaChars, List.mem_cons, List.not_mem_nil, or_false] at h
  rcases h with rfl | rfl | rfl | rfl | rfl | rfl | rfl | rfl | rfl | rfl | rfl | rfl | rfl | rfl |
    rfl | rfl | rfl | rfl <;> rfl

theorem lexeme_of_not_mem {c : Char} (h : c ∉ metaChars) (rest : List Char) :
    Reader.lexeme false (c :: rest) = some (.atom (.char c false), rest) := by
  simp only [metaChars, List.mem_cons, List.not_mem_nil, or_false, not_or] at h
  simp [Reader.lexeme, h]

theorem reads_escapeChar (c : Char) (rest : List Char) :
    Reads (escapeChar c) [.atom (.char c false)] rest := by
  rw [escapeChar]
  split
  · next h => exact .one (by simp [Reader.lexeme, escape_of_mem h]) fun _ => rfl
  · next h => exact .one (lexeme_of_not_mem h rest) fun _ => rfl

/-- A text is read character by character. -/
theorem reads_text (text rest : List Char) :
    Reads (text.flatMap escapeChar) (text.map fun c => .atom (.char c false)) rest := by
  induction text with
  | nil => exact .nil rest
  | cons c text ih => exact (reads_escapeChar c _).append ih

/-! ## What is written around them -/

theorem reads_lineStart (rest : List Char) : Reads ['^'] [.atom (.assert .lineStart)] rest :=
  .one rfl fun _ => rfl

theorem reads_lineEnd (rest : List Char) : Reads ['$'] [.atom (.assert .lineEnd)] rest :=
  .one rfl fun _ => rfl

theorem repetition_of_head? {rest : List Char} (h : rest.head? ≠ some '?') (min : Nat)
    (max : Option Nat) : Reader.repetition min max rest = some (.rep min max true, rest) := by
  unfold Reader.repetition
  split
  · simp at h
  · rfl

theorem reads_question {rest : List Char} (h : rest.head? ≠ some '?') :
    Reads ['?'] [.rep 0 (some 1) true] rest :=
  .one (repetition_of_head? h 0 (some 1)) fun _ => rfl

theorem reads_plus {rest : List Char} (h : rest.head? ≠ some '?') :
    Reads ['+'] [.rep 1 none true] rest :=
  .one (repetition_of_head? h 1 none) fun _ => rfl

/-! ## Classes -/

theorem classItem_escapeChar (c : Char) (rest : List Char) :
    Reader.classItem false (escapeChar c ++ ']' :: rest) = some (.char c, ']' :: rest) := by
  rw [escapeChar]
  split
  · next h => simp [Reader.classItem, Reader.classAtom, escape_of_mem h, ClassExpr.ofExpr?]
  · next h =>
    simp only [metaChars, List.mem_cons, List.not_mem_nil, or_false, not_or] at h
    simp [Reader.classItem, Reader.classAtom, h, ClassExpr.ofExpr?]

/-- Nothing of a class's own syntax stands at an escaped character. -/
theorem classBody_escapeChar (c : Char) (fuel : Nat) (frames : List Reader.ClassFrame)
    (rest : List Char) :
    Reader.classBody false (fuel + 1) frames [] (escapeChar c ++ ']' :: rest) =
      Reader.classBody false fuel frames [.char c] (']' :: rest) := by
  have h := classItem_escapeChar c rest
  rw [escapeChar] at h ⊢
  split at h
  · next hm =>
    rw [if_pos hm]
    simp only [List.cons_append, List.nil_append] at h ⊢
    simp [Reader.classBody, h]
  · next hm =>
    rw [if_neg hm]
    simp only [List.cons_append, List.nil_append] at h ⊢
    simp only [metaChars, List.mem_cons, List.not_mem_nil, or_false, not_or] at hm
    simp [Reader.classBody, h, hm]

theorem classOpening_escapeChar (c : Char) (rest : List Char) :
    Reader.classOpening false ('^' :: (escapeChar c ++ rest)) =
      some ((true, []), escapeChar c ++ rest) := by
  rw [escapeChar]
  split
  · next h => simp [Reader.classOpening, Reader.span_false]
  · next h =>
    simp only [metaChars, List.mem_cons, List.not_mem_nil, or_false, not_or] at h
    simp [Reader.classOpening, Reader.span_false, h]

theorem classBody_close (fuel : Nat) (negated : Bool) (item : ClassExpr) (rest : List Char) :
    Reader.classBody false (fuel + 1) [.bracket [] negated] [item] (']' :: rest) =
      some ((negated, item), rest) := by
  simp [Reader.classBody, Reader.closeOperand, ClassExpr.row]

theorem bracket_escapeChar (c : Char) (rest : List Char) :
    Reader.bracket false ('^' :: (escapeChar c ++ ']' :: rest)) =
      some (.bracket true (.char c), rest) := by
  have hl : (escapeChar c ++ ']' :: rest).length = (escapeChar c).length + rest.length + 1 := by
    rw [List.length_append, List.length_cons, Nat.add_assoc]
  simp only [Reader.bracket, classOpening_escapeChar, hl, Option.bind_eq_bind, Option.bind_some,
    classBody_escapeChar, classBody_close]
  rfl

/-- The class of all characters but one. -/
theorem reads_class (c : Char) (rest : List Char) :
    Reads ('[' :: '^' :: (escapeChar c ++ [']'])) [.atom (.bracket true (.char c))] rest := by
  refine .one ?_ fun _ => rfl
  rw [List.cons_append, List.append_assoc]
  simp [Reader.lexeme, bracket_escapeChar]

/-! ## Groups -/

theorem reads_group {cs rest : List Char} {ls : List Lexeme} (h : Reads cs ls (')' :: rest)) :
    Reads ('(' :: '?' :: ':' :: (cs ++ [')'])) (.opening (.group {}) :: (ls ++ [.close])) rest :=
  .around ['?', ':'] rfl (fun _ => rfl) h

/-! ### Names -/

theorem startsGroupName_of_isAlpha {c : Char} (h : c.isAlpha = true) :
    Reader.startsGroupName c = true := by
  simp [Reader.startsGroupName, h]

theorem continuesGroupName_of {c : Char} (h : (c.isAlphanum || c == '_') = true) :
    c ≠ '>' ∧ Reader.continuesGroupName c = true := by
  constructor
  · rintro rfl
    exact absurd h (by decide)
  · simp only [Char.isAlphanum, Bool.or_eq_true, beq_iff_eq] at h
    rcases h with (h | h) | h <;> simp [Reader.continuesGroupName, Reader.startsGroupName, h]

theorem groupName_of_validName {name : String} (h : Token.validName name = true)
    (rest : List Char) : Reader.groupName (name.toList ++ '>' :: rest) = some (name, rest) := by
  rw [Token.validName] at h
  cases hn : name.toList with
  | nil =>
    rw [hn] at h
    cases h
  | cons first more =>
    rw [hn] at h
    simp only [Bool.and_eq_true, List.all_eq_true] at h
    have hf := continuesGroupName_of (c := first) (by simp [Char.isAlphanum, h.1])
    have hp : ∀ c ∈ first :: more, decide (c ≠ '>') = true := by
      intro c hc
      rcases List.mem_cons.1 hc with rfl | hc
      · simpa using hf.1
      · simpa using (continuesGroupName_of (h.2 c hc)).1
    have hm : more.all Reader.continuesGroupName = true :=
      List.all_eq_true.2 fun c hc => (continuesGroupName_of (h.2 c hc)).2
    rw [Reader.groupName, List.takeWhile_append_of_pos hp, List.dropWhile_append_of_pos hp]
    simp only [ne_eq, not_true, decide_false, List.takeWhile_cons_of_neg, Bool.false_eq_true,
      not_false_eq_true, List.append_nil, List.dropWhile_cons_of_neg,
      startsGroupName_of_isAlpha h.1, hm, Bool.and_self, if_true]
    rw [← hn, String.ofList_toList]

theorem reads_named {name : String} {cs rest : List Char} {ls : List Lexeme}
    (hn : Token.validName name = true) (h : Reads cs ls (')' :: rest)) :
    Reads ('(' :: '?' :: 'P' :: '<' :: (name.toList ++ '>' :: (cs ++ [')'])))
      (.opening (.capture (some name)) :: (ls ++ [.close])) rest := by
  have ho : Reader.lexeme false ('(' :: (['?', 'P', '<'] ++ name.toList ++ ['>'] ++
      (cs ++ ')' :: rest))) = some (.opening (.capture (some name)), cs ++ ')' :: rest) := by
    simp [Reader.lexeme, Reader.opening, groupName_of_validName hn]
  simpa using Reads.around _ ho (fun _ => rfl) h

/-! ### Flags -/

/-- The letter of a flag. -/
def Flag.letter : Flag → Char
  | caseless => 'i'
  | multiLine => 'm'
  | dotAll => 's'
  | swapGreed => 'U'
  | unicode => 'u'
  | crlf => 'R'
  | verbose => 'x'

theorem Flag.eq_letter {c : Char} {flag : Flag} (h : Flag.ofChar? c = some flag) :
    c = flag.letter := by
  unfold Flag.ofChar? at h
  split at h <;> cases h <;> rfl

theorem exists_flag {c : Char} (h : c ∈ Options.allowedFlags) :
    (c ≠ ':' ∧ c ≠ ')' ∧ c ≠ '-' ∧ c ≠ 'P' ∧ c ≠ '<') ∧
      ∃ flag, Flag.ofChar? c = some flag ∧ flag ≠ .verbose := by
  simp only [Options.allowedFlags, List.mem_cons, List.not_mem_nil, or_false] at h
  rcases h with rfl | rfl | rfl | rfl | rfl <;> exact ⟨by decide, _, rfl, by decide⟩

/-- Flags without a fault are read one by one, latest first. -/
theorem flagList_of_fault (flags : List Char) : ∀ seen : List Char,
    Options.firstFlagFault? seen flags = none → ∀ rest : List Char,
      Reader.flagList ⟨seen.filterMap Flag.ofChar?, []⟩ false false (flags ++ ')' :: rest) =
        some (⟨(flags.reverse ++ seen).filterMap Flag.ofChar?, []⟩, ')' :: rest) := by
  induction flags with
  | nil => intro seen _ rest; simp [Reader.flagList]
  | cons c flags ih =>
    intro seen h rest
    rw [Options.firstFlagFault?] at h
    split at h
    · cases h
    · next ha =>
      split at h
      · cases h
      · next hs =>
        obtain ⟨⟨h₁, h₂, h₃, -⟩, flag, hf, -⟩ := exists_flag (by simpa using ha)
        -- A flag that comes twice has the same letter both times.
        have hn : flag ∉ seen.filterMap Flag.ofChar? := by
          intro hm
          obtain ⟨d, hd, hdf⟩ := List.mem_filterMap.1 hm
          exact hs (by rwa [Flag.eq_letter hf, ← Flag.eq_letter hdf])
        have hi := ih (c :: seen) h rest
        rw [List.filterMap_cons_some hf] at hi
        rw [List.cons_append, Reader.flagList, if_neg (by simp [h₁, h₂]), if_neg h₃, hf]
        simp only [Option.bind_eq_bind, Option.bind_some, Reader.addFlag, hn, List.not_mem_nil,
          or_self, if_false, Bool.false_eq_true]
        rw [hi, List.reverse_cons, List.append_assoc, List.singleton_append]

end PathTemplate.Regex

namespace PathTemplate.Options

/-- The flags of the options, as they are read. -/
def flagChange (o : Options) : Regex.FlagChange :=
  ⟨o.flags.toList.reverse.filterMap Regex.Flag.ofChar?, []⟩

end PathTemplate.Options

namespace PathTemplate.Regex

theorem firstFlagFault?_of_fault? {o : Options} (h : o.fault? = none) :
    Options.firstFlagFault? [] o.flags.toList = none := by
  unfold Options.fault? at h
  split at h
  · cases h
  · exact h

theorem allowed_of_firstFlagFault? (flags : List Char) : ∀ seen : List Char,
    Options.firstFlagFault? seen flags = none → ∀ c ∈ flags, c ∈ Options.allowedFlags := by
  induction flags with
  | nil => intro _ _ c hc; cases hc
  | cons d flags ih =>
    intro seen h c hc
    rw [Options.firstFlagFault?] at h
    split at h
    · cases h
    · next ha =>
      split at h
      · cases h
      · rcases List.mem_cons.1 hc with rfl | hc
        · simpa using ha
        · exact ih _ h c hc

theorem allowed_of_fault? {o : Options} (h : o.fault? = none) :
    ∀ c ∈ o.flags.toList, c ∈ Options.allowedFlags :=
  allowed_of_firstFlagFault? _ [] (firstFlagFault?_of_fault? h)

theorem verbose_not_mem_flagChange {o : Options} (h : o.fault? = none) :
    Flag.verbose ∉ o.flagChange.on := by
  intro hm
  obtain ⟨c, hc, hv⟩ := List.mem_filterMap.1 hm
  obtain ⟨-, flag, hf, hn⟩ := exists_flag (allowed_of_fault? h c (List.mem_reverse.1 hc))
  rw [hf] at hv
  exact hn (Option.some.inj hv)

/-- The flags before a source. -/
theorem reads_flags {o : Options} (h : o.fault? = none) (hn : o.flags ≠ "") (rest : List Char) :
    Reads ('(' :: '?' :: (o.flags.toList ++ [')'])) [.opening (.flags o.flagChange)] rest := by
  have hv : FlagChange.apply o.flagChange .verbose false = false := by
    simp only [FlagChange.apply, verbose_not_mem_flagChange h, if_false]
    rfl
  refine .one ?_ fun outer => by rw [Lexeme.verbosity, hv]
  cases hf : o.flags.toList with
  | nil => exact absurd (String.toList_eq_nil_iff.1 hf) hn
  | cons c flags =>
    obtain ⟨⟨-, -, -, h₁, h₂⟩, flag, hc, -⟩ :=
      exists_flag (allowed_of_fault? h c (hf ▸ List.mem_cons_self))
    have hne : o.flagChange ≠ {} := by
      intro he
      have hm : flag ∈ o.flagChange.on :=
        List.mem_filterMap.2 ⟨c, by simp [hf], hc⟩
      rw [he] at hm
      cases hm
    have hr : Reader.flagList {} false false (c :: (flags ++ ')' :: rest)) =
        some (o.flagChange, ')' :: rest) := by
      have hr := flagList_of_fault _ [] (firstFlagFault?_of_fault? h) rest
      rw [List.append_nil, hf] at hr
      rw [Options.flagChange, hf]
      exact hr
    simp [Reader.lexeme, Reader.opening, h₁, h₂, hr, hne]

end PathTemplate.Regex
