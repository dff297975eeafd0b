import PathTemplate.Proofs.Faults
/-!
# Reading by offsets

A template can be read without keeping any of its characters: it is enough to know the offset where
the text or the placeholder at hand starts. Texts and names are cut out of the template when they
are complete, at offsets that are worked out from the sizes of the markers. A cut can only be made
between characters, and an offset cannot go back before the start of the template; where a step asks
for anything else, it fails.

Not every step moves on. The character that gives up a placeholder is looked at a second time, and
so is the end. Still each character takes two steps at most, and no step fails: the scan ends with
what the template is read as (`Cursor.scan_eq_ofTemplate`). This holds for markers of any size, and
of the same character as well.
-/

namespace PathTemplate

namespace Lexer

/-! ## Cuts -/

/-- The text between two offsets, if both are between characters and they are in order. -/
def cut? (template : String) (start stop : Nat) : Option String :=
  if h : (String.Pos.Raw.mk start).IsValid template ∧ (String.Pos.Raw.mk stop).IsValid template ∧
      start ≤ stop then
    some (template.extract ⟨⟨start⟩, h.1⟩ ⟨⟨stop⟩, h.2.1⟩)
  else none

/-- An offset that many bytes before, if there is one. -/
def back? (offset size : Nat) : Option Nat :=
  if size ≤ offset then some (offset - size) else none

/-- The characters of a text with their offsets, from `start` on. -/
def offsets (start : Nat) : List Char → List (Nat × Char)
  | [] => []
  | c :: text => (start, c) :: offsets (start + c.utf8Size) text

variable {template : String} {a b rest text : List Char} {c : Char}

theorem byteLength_append (a b : List Char) :
    byteLength (a ++ b) = byteLength a + byteLength b := by
  induction a with
  | nil => exact (Nat.zero_add _).symm
  | cons c a ih => rw [List.cons_append, byteLength, byteLength, ih, Nat.add_assoc]

theorem byteLength_reverse (a : List Char) : byteLength a.reverse = byteLength a := by
  induction a with
  | nil => rfl
  | cons c a ih =>
    rw [List.reverse_cons, byteLength_append, ih, byteLength, byteLength, byteLength,
      Nat.add_zero, Nat.add_comm]

theorem isValid_of_toList_eq (h : template.toList = a ++ b) :
    (String.Pos.Raw.mk (byteLength a)).IsValid template := by
  rw [String.Pos.Raw.isValid_iff_exists_append]
  refine ⟨String.ofList a, String.ofList b, ?_, ?_⟩
  · rw [← String.ofList_append, ← h, String.ofList_toList]
  · exact String.Pos.Raw.ext (byteLength_ofList a).symm

/-- What stands between two other parts of a template is what is cut out there. -/
theorem cut?_of_toList_eq (h : template.toList = a ++ b ++ rest) :
    cut? template (byteLength a) (byteLength a + byteLength b) = some (String.ofList b) := by
  have ht : template = String.ofList a ++ String.ofList b ++ String.ofList rest := by
    rw [← String.ofList_append, ← String.ofList_append, ← h, String.ofList_toList]
  have ha : (String.Pos.Raw.mk (byteLength a)).IsValid template :=
    isValid_of_toList_eq (h.trans (List.append_assoc a b rest))
  have hb : (String.Pos.Raw.mk (byteLength a + byteLength b)).IsValid template := by
    rw [← byteLength_append]
    exact isValid_of_toList_eq h
  rw [cut?, dif_pos ⟨ha, hb, Nat.le_add_right _ _⟩, Option.some_inj, ← String.toByteArray_inj,
    String.toByteArray_extract]
  have hsize : ∀ w, byteLength w = (String.ofList w).toByteArray.size := fun w => by
    rw [String.size_toByteArray, byteLength_ofList]
  dsimp only
  rw [← byteLength_append, hsize (a ++ b), String.ofList_append, ht, String.toByteArray_append,
    ByteArray.extract_append_size_left, String.toByteArray_append]
  exact ByteArray.extract_append_eq_right (hsize a) ByteArray.size_append

theorem offsets_append (a b : List Char) : ∀ start,
    offsets start (a ++ b) = offsets start a ++ offsets (start + byteLength a) b := by
  induction a with
  | nil => exact fun _ => rfl
  | cons c a ih =>
    intro start
    rw [List.cons_append, offsets, ih, offsets, byteLength, List.cons_append, Nat.add_assoc]

theorem length_offsets (text : List Char) : ∀ start, (offsets start text).length = text.length := by
  induction text with
  | nil => exact fun _ => rfl
  | cons c text ih => exact fun start => congrArg (· + 1) (ih _)

theorem getElem?_offsets (h : template.toList = a ++ c :: rest) :
    (offsets 0 template.toList)[a.length]? = some (byteLength a, c) := by
  rw [h, offsets_append, List.getElem?_append_right (by rw [length_offsets]), length_offsets,
    Nat.sub_self, Nat.zero_add]
  rfl

theorem getElem?_offsets_length (template : String) :
    (offsets 0 template.toList)[template.toList.length]? = none := by
  rw [List.getElem?_eq_none_iff, length_offsets]

/-! ## Steps -/

/-- Where a reader by offsets is. -/
structure Cursor where
  /-- The tokens so far, latest first. -/
  done : List Token := []
  /-- What is at hand. There is nothing when the end of the template has been seen. -/
  mode : Option Mode := some .text
  /-- The offset where the text or the placeholder at hand starts. -/
  mark : Nat := 0
  /-- How many characters are behind. -/
  index : Nat := 0
  deriving DecidableEq, Repr, Inhabited

/-- What comes of a step. -/
inductive Turn where
  | next (c : Cursor)
  | stop (result : Except TemplateError (List Token))

namespace Cursor

/-- Closes a placeholder with the given name before the offset `mark`. -/
def close (c : Cursor) (name : String) (optional : Bool) (mark : Nat) : Turn :=
  if Token.validName name then
    .next ⟨.placeholder name optional :: c.done, some .text, mark, c.index + 1⟩
  else .stop (.error (.invalidName name c.mark))

/-- A step, unless it fails. -/
def step (o : Options) (template : String) (c : Cursor) : Option Turn :=
  match c.mode, (offsets 0 template.toList)[c.index]? with
  | none, _ => do
    let text ← cut? template c.mark template.utf8ByteSize
    return .stop (.ok (Token.addText text.toList c.done).reverse)
  | some .text, none => return .next { c with mode := none }
  | some .text, some (pos, x) =>
    if x = o.separator then do
      let text ← cut? template c.mark pos
      return .next ⟨.separator :: Token.addText text.toList c.done, some .text, pos + x.utf8Size,
        c.index + 1⟩
    else if x = o.startMarker then do
      let text ← cut? template c.mark pos
      return .next ⟨Token.addText text.toList c.done, some .placeholder, pos, c.index + 1⟩
    else return .next { c with index := c.index + 1 }
  | some _, none => return .stop (.error (.unterminated c.mark))
  | some .placeholder, some (pos, x) =>
    if x = o.optionalMarker then return .next { c with mode := some .marked, index := c.index + 1 }
    else if x = o.endMarker then do
      let name ← cut? template (c.mark + o.startMarker.utf8Size) pos
      return c.close name false (pos + x.utf8Size)
    else return .next { c with index := c.index + 1 }
  | some .marked, some (pos, x) =>
    if x = o.endMarker then do
      let stop ← back? pos o.optionalMarker.utf8Size
      let name ← cut? template (c.mark + o.startMarker.utf8Size) stop
      return c.close name true (pos + x.utf8Size)
    else return .next { c with mode := some .text }

/-- What comes of `n` steps, or of fewer if they are the last ones. -/
def scan (o : Options) (template : String) : Nat → Cursor → Option Turn
  | 0, c => some (.next c)
  | n + 1, c =>
    match c.step o template with
    | some (.next c) => scan o template n c
    | turn => turn

/-- Where the reader by offsets is when the other one is in a state after so many characters. -/
def ofState (s : State) (index : Nat) : Cursor :=
  ⟨s.done, some s.mode, s.mark, index⟩

end Cursor

namespace Turn

/-- What comes of `n` steps after a turn. -/
def scan (o : Options) (template : String) (n : Nat) : Turn → Option Turn
  | next c => c.scan o template n
  | stop result => some (stop result)

/-- The turn that is taken when the other reader reads a character, the one before `index`. -/
def ofRead (index : Nat) : Except TemplateError State → Turn
  | .ok s => next (.ofState s index)
  | .error e => stop (.error e)

end Turn

namespace Cursor

variable {o : Options} {c : Cursor}

theorem scan_succ {turn : Turn} (h : c.step o template = some turn) (n : Nat) :
    c.scan o template (n + 1) = turn.scan o template n := by
  rw [scan, h]
  cases turn <;> rfl

/-- A scan that comes to its end has not failed at any time, and will not. -/
theorem isSome_scan_of_stop {n : Nat} {r : Except TemplateError (List Token)} :
    ∀ {c : Cursor}, c.scan o template n = some (.stop r) →
      ∀ k, (c.scan o template k).isSome = true := by
  induction n with
  | zero => exact fun h => nomatch h
  | succ n ih =>
    intro c h k
    cases k with
    | zero => rfl
    | succ k =>
      cases hs : c.step o template with
      | none => rw [scan, hs] at h; cases h
      | some turn =>
        rw [scan_succ hs] at h ⊢
        cases turn with
        | next c' => exact ih h k
        | stop r' => rfl

end Cursor

/-! ## What can be cut out -/

section Cuts

variable {o : Options} {s s' : State} {pre : List Char} (hr : readAll o {} pre = .ok s)
include hr

theorem byteLength_eq_position : byteLength pre = s.position := by
  rw [position_readAll hr]
  exact (Nat.zero_add _).symm

theorem records_of_readAll : s.Records o pre :=
  (State.Records.init o).readAll hr

/-- The characters at hand come last in what has been read, and the mark is where they start. -/
theorem exists_before_run :
    ∃ before, pre = before ++ s.run.reverse ∧ s.mark = byteLength before := by
  have hc := (records_of_readAll hr).chars
  refine ⟨_, hc.symm, ?_⟩
  have hp := byteLength_eq_position hr
  rw [← hc, byteLength_append, byteLength_reverse] at hp
  exact (Nat.add_right_cancel hp).symm

variable (ht : template.toList = pre ++ rest)
include ht

theorem cut?_run : cut? template s.mark (byteLength pre) = some (String.ofList s.run.reverse) := by
  obtain ⟨before, hb, hm⟩ := exists_before_run hr
  rw [hm, hb, byteLength_append]
  exact cut?_of_toList_eq (hb ▸ ht)

/-- The name of an open placeholder comes right after its start marker. -/
theorem cut?_name {name more : List Char} (hn : s.run.reverse = o.startMarker :: (name ++ more)) :
    cut? template (s.mark + o.startMarker.utf8Size)
      (s.mark + o.startMarker.utf8Size + byteLength name) = some (String.ofList name) := by
  obtain ⟨before, hb, hm⟩ := exists_before_run hr
  have hw : template.toList = (before ++ [o.startMarker]) ++ name ++ (more ++ rest) := by
    rw [ht, hb, hn]
    simp
  have := cut?_of_toList_eq hw
  rwa [byteLength_append, ← hm] at this

end Cuts

/-! ## Both readers read alike -/

namespace Cursor

section Step

variable {o : Options} {s : State} {x : Char} {pre : List Char} (hr : readAll o {} pre = .ok s)
include hr

/-- A placeholder is closed by both readers, or has no valid name for both. -/
theorem close_eq_ofRead (name : List Char) (optional : Bool) :
    (ofState s pre.length).close (String.ofList name) optional (byteLength pre + x.utf8Size) =
      .ofRead (pre.length + 1) (s.close name optional x) := by
  rw [byteLength_eq_position hr, close, State.close]
  split <;> rfl

variable (ht : template.toList = pre ++ x :: rest)
include ht

theorem step_text : (Cursor.mk s.done (some .text) s.mark pre.length).step o template =
    some (.ofRead (pre.length + 1) (.ok (s.readText o x))) := by
  have hc := cut?_run hr ht
  rw [byteLength_eq_position hr] at hc
  simp only [step, getElem?_offsets ht, byteLength_eq_position hr, hc, Option.bind_eq_bind,
    Option.bind_some]
  unfold State.readText
  split
  · simp [State.flushed, Turn.ofRead, ofState]
  · split
    · simp [State.flushed, Turn.ofRead, ofState]
    · rfl

theorem step_placeholder (hm : s.mode = .placeholder) :
    (ofState s pre.length).step o template =
      some (.ofRead (pre.length + 1) (s.read o x)) := by
  simp only [step, ofState, hm, getElem?_offsets ht, State.read]
  split
  · rfl
  · split
    · obtain ⟨name, hn⟩ := (records_of_readAll hr).opened hm
      -- The name goes from behind the start marker up to here.
      have hp : byteLength pre = s.mark + o.startMarker.utf8Size + byteLength name := by
        rw [byteLength_eq_position hr, State.position, ← byteLength_reverse, hn, byteLength,
          Nat.add_assoc]
      have hc := cut?_name hr ht (hn.trans (congrArg _ (List.append_nil name).symm))
      rw [← hp] at hc
      rw [hn, List.drop_one, List.tail_cons, ← close_eq_ofRead hr, hc, ofState, hm]
      rfl
    · rfl

theorem step_marked (hm : s.mode = .marked) (he : x = o.endMarker) :
    (ofState s pre.length).step o template =
      some (.ofRead (pre.length + 1) (s.read o x)) := by
  obtain ⟨name, hn⟩ := (records_of_readAll hr).marked hm
  -- The name goes from behind the start marker up to the optional marker before here.
  have hp : byteLength pre =
      s.mark + o.startMarker.utf8Size + byteLength name + o.optionalMarker.utf8Size := by
    rw [byteLength_eq_position hr, State.position, ← byteLength_reverse, hn, byteLength,
      byteLength_append]
    simp [byteLength, Nat.add_assoc]
  have hb : back? (byteLength pre) o.optionalMarker.utf8Size =
      some (s.mark + o.startMarker.utf8Size + byteLength name) := by
    rw [back?, hp, if_pos (Nat.le_add_left _ _), Nat.add_sub_cancel]
  have hname : (s.run.drop 1).reverse.drop 1 = name := by
    rw [← List.reverse_reverse s.run, hn]
    simp
  simp only [step, ofState, State.read, hm, getElem?_offsets ht, if_pos he, hb, cut?_name hr ht hn,
    Option.bind_eq_bind, Option.bind_some, hname, ← close_eq_ofRead hr]
  rfl

/-- A character is read in one step, or in two if it gives up a placeholder. -/
theorem exists_scan_eq : ∃ n ≤ 1, ∀ k, (ofState s pre.length).scan o template (n + 1 + k) =
    (Turn.ofRead (pre.length + 1) (s.read o x)).scan o template k := by
  have one {turn : Turn} (h : (ofState s pre.length).step o template = some turn) :
      ∃ n ≤ 1, ∀ k, (ofState s pre.length).scan o template (n + 1 + k) =
        turn.scan o template k :=
    ⟨0, Nat.zero_le 1, fun k => by rw [Nat.zero_add, Nat.add_comm, scan_succ h]⟩
  cases hm : s.mode with
  | text =>
    refine one ?_
    rw [ofState, hm, step_text hr ht, State.read, hm]
  | placeholder => exact one (step_placeholder hr ht hm)
  | marked =>
    by_cases he : x = o.endMarker
    · exact one (step_marked hr ht hm he)
    · have hs : (ofState s pre.length).step o template =
          some (.next ⟨s.done, some .text, s.mark, pre.length⟩) := by
        simp only [step, ofState, hm, getElem?_offsets ht, if_neg he]
        rfl
      refine ⟨1, Nat.le_refl 1, fun k => ?_⟩
      rw [Nat.add_comm, scan_succ hs, Turn.scan, scan_succ (step_text hr ht), State.read, hm]
      simp only [if_neg he]

end Step

variable {o : Options}

/-- At the end of a template there are two steps left at most. -/
theorem exists_scan_eq_finish {s : State} (hr : readAll o {} template.toList = .ok s) :
    ∃ n ≤ 2, (ofState s template.toList.length).scan o template n = some (.stop s.finish) := by
  have hend := getElem?_offsets_length template
  cases hm : s.mode with
  | text =>
    have h₁ : (ofState s template.toList.length).step o template =
        some (.next ⟨s.done, none, s.mark, template.toList.length⟩) := by
      simp only [step, ofState, hm, hend]
      rfl
    have hc := cut?_run hr (List.append_nil _).symm
    rw [byteLength_toList] at hc
    have h₂ : (Cursor.mk s.done none s.mark template.toList.length).step o template =
        some (.stop s.finish) := by
      simp only [step, hc, State.finish, hm, State.flushed, Option.bind_eq_bind, Option.bind_some,
        String.toList_ofList]
      rfl
    exact ⟨2, Nat.le_refl 2, by rw [scan_succ h₁, Turn.scan, scan_succ h₂, Turn.scan]⟩
  | placeholder =>
    have h : (ofState s template.toList.length).step o template = some (.stop s.finish) := by
      simp only [step, ofState, hm, hend, State.finish]
      rfl
    exact ⟨1, Nat.le_succ 1, by rw [scan_succ h, Turn.scan]⟩
  | marked =>
    have h : (ofState s template.toList.length).step o template = some (.stop s.finish) := by
      simp only [step, ofState, hm, hend, State.finish]
      rfl
    exact ⟨1, Nat.le_succ 1, by rw [scan_succ h, Turn.scan]⟩

/-- From any place on the scan comes to the end that the other reader comes to. -/
theorem exists_scan_eq_tokensFrom (rest : List Char) : ∀ {pre : List Char} {s : State},
    readAll o {} pre = .ok s → template.toList = pre ++ rest →
      ∃ n ≤ 2 * rest.length + 2,
        (ofState s pre.length).scan o template n = some (.stop (tokensFrom o s rest)) := by
  induction rest with
  | nil =>
    intro pre s hr ht
    rw [List.append_nil] at ht
    subst ht
    exact exists_scan_eq_finish hr
  | cons x rest ih =>
    intro pre s hr ht
    obtain ⟨n, hn, hs⟩ := exists_scan_eq hr ht
    rw [tokensFrom_cons]
    cases hx : s.read o x with
    | error e =>
      rw [hx] at hs
      exact ⟨n + 1, by omega, hs 0⟩
    | ok s' =>
      rw [hx] at hs
      have hr' : readAll o {} (pre ++ [x]) = .ok s' := readAll_concat_eq_ok_iff.2 ⟨s, hr, hx⟩
      obtain ⟨m, hm, hs'⟩ := ih hr' (by rw [ht, List.append_assoc, List.singleton_append])
      rw [List.length_append, List.length_singleton] at hs'
      refine ⟨n + 1 + m, ?_, (hs m).trans hs'⟩
      rw [List.length_cons]
      omega

/-- Under any options at all, reading a template by offsets never fails: no cut is made anywhere but
between characters and in order, and no offset goes back too far. It comes to an end after at most
two steps for each character and two more, with the tokens or the error of the template. -/
theorem scan_eq_ofTemplate (o : Options) (template : String) :
    (∀ k, (Cursor.scan o template k {}).isSome = true) ∧
      ∃ n ≤ 2 * template.length + 2,
        Cursor.scan o template n {} = some (.stop (Token.ofTemplate o template)) := by
  have hr : readAll o {} [] = .ok {} := rfl
  obtain ⟨n, hn, hs⟩ := exists_scan_eq_tokensFrom template.toList hr rfl
  exact ⟨isSome_scan_of_stop hs, n, hn, hs⟩

end Cursor

end Lexer

end PathTemplate
