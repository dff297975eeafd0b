import PathTemplate.Regex.Encoding
import PathTemplate.Regex.Factoring
import Std.Data.TreeMap.Basic
/-!
# Weight

How much memory an expression would take as an automaton over UTF-8 bytes, so that expressions with
huge repetitions can be refused before they are laid out. The automaton is not built, only measured
as it grows: a state counts 32 bytes, a transition of a state with several of them 8, and a branch
to another state 4.

There are two automata, one that reads texts forwards, and one that reads them backwards and keeps
no groups. Each of them has to stay within the limit.
-/

namespace PathTemplate.Regex

/-- How far an automaton has grown. -/
structure Meter where
  /-- How large it may grow. -/
  limit : Nat
  /-- The number of states. The next state has it as its number. -/
  states : Nat := 0
  /-- The memory of transitions and branches. -/
  links : Nat := 0
  deriving DecidableEq, Repr, Inhabited

namespace Meter

/-- The memory in all. -/
def size (m : Meter) : Nat :=
  32 * m.states + m.links

/-- Whether the limit is passed. From here on nothing more has to be measured. -/
def isFull (m : Meter) : Bool :=
  m.limit < m.size

/-- Adds states, and memory for their links. -/
def add (m : Meter) (states : Nat) (links : Nat := 0) : Meter :=
  { m with states := m.states + states, links := m.links + links }

/-- Adds a part, unless the limit is passed. -/
def part (f : Meter → Meter) (m : Meter) : Meter :=
  if m.isFull then m else f m

/-- Adds a part a number of times. -/
def times (f : Meter → Meter) : Nat → Meter → Meter
  | 0, m => m
  | n + 1, m => if m.isFull then m else times f n (f m)

end Meter

/-! ## Sets read forwards

The encodings of a set come in rising order, so that the states for a common beginning can be shared
while it lasts. A state is made when the next encoding leaves it, and a state with the same
transitions as one before is not made again. What has been made is remembered in a fixed number of
slots, by a hash of its transitions; a later state takes the slot of an earlier one. -/

namespace Weight

/-- A transition: the first and the last byte, and the number of the state that it leads to. -/
abbrev Link :=
  Nat × Nat × Nat

/-- The hash of a list of numbers, one of `slots`. -/
def hash (slots : Nat) (numbers : List Nat) : Nat :=
  let mixed := numbers.foldl (fun h n => (h ^^^ n.toUInt64) * 1099511628211)
    (14695981039346656037 : UInt64)
  mixed.toNat % slots

/-- The states of a set on the way, and what has been made of it. -/
structure SetMeter where
  meter : Meter
  made : Std.TreeMap Nat (List Link × Nat) := {}

/-- The number of the state with the given transitions, which is made if it is not remembered. -/
def state (links : List Link) (m : SetMeter) : Nat × SetMeter :=
  let slot := hash 10000 (links.flatMap fun (lo, hi, next) => [lo, hi, next])
  let fresh (_ : Unit) :=
    (m.meter.states, { m with
      meter := m.meter.add 1 (8 * links.length)
      made := m.made.insert slot (links, m.meter.states) })
  match m.made[slot]? with
  | some (same, number) => if same = links then (number, m) else fresh ()
  | none => fresh ()

/-- A state that is still open: its transitions but for the last one, latest first, and the bytes of
the last one. -/
structure Open where
  before : List Link := []
  last : Option (Nat × Nat) := none

/-- The transitions of a state whose last transition leads to `next`. -/
def Open.close (o : Open) (next : Nat) : List Link :=
  match o.last with
  | some (lo, hi) => (lo, hi, next) :: o.before
  | none => o.before

/-- Makes open states, each of them the target of the last transition of the one before, and the
last of them leading to `target`. Gives the number of the first. -/
def makeAll (target : Nat) : List Open → SetMeter → Nat × SetMeter
  | [], m => (target, m)
  | o :: deeper, m =>
    let (next, m) := makeAll target deeper m
    state (o.close next).reverse m

/-- Adds an encoding to the open states, which start with the state that the set starts in. -/
def addSequence (target : Nat) : List Open → List (Nat × Nat) → SetMeter → List Open × SetMeter
  | o :: deeper, range :: more, m =>
    if o.last = some range then
      let (deeper, m) := addSequence target deeper more m
      (o :: deeper, m)
    else
      let (next, m) := makeAll target deeper m
      (⟨o.close next, some range⟩ :: more.map fun range => ⟨[], some range⟩, m)
  | opened, _, m => (opened, m)

/-- Adds a set, given by its encodings, to the automaton that reads forwards. -/
def forward (sequences : List (List (Nat × Nat))) (m : Meter) : Meter :=
  let target := m.states
  let (opened, made) := sequences.foldl (fun (opened, made) sequence =>
    addSequence target opened sequence made) ([{}], { meter := m.add 1 })
  (makeAll target opened made).2.meter

/-! ## Sets read backwards

Each encoding is a chain of states from its last byte to the first one. Chains share their ends. -/

/-- Adds an encoding, whose first byte leads to `target`. Gives the number of its first state. -/
def chain (target : Nat) : List (Nat × Nat) → Meter × Std.TreeMap Nat (Link × Nat) →
    Meter × Std.TreeMap Nat (Link × Nat)
  | [], m => m
  | (lo, hi) :: more, (m, made) =>
    let slot := hash 1000 [target, lo, hi]
    let fresh (_ : Unit) :=
      chain m.states more (m.add 1, made.insert slot ((target, lo, hi), m.states))
    match made[slot]? with
    | some (same, number) =>
      if same = (target, lo, hi) then chain number more (m, made) else fresh ()
    | none => fresh ()

/-- Adds a set, given by its encodings, to the automaton that reads backwards: a state that branches
to the chains, and one that they lead to. -/
def backward (sequences : List (List (Nat × Nat))) (m : Meter) : Meter :=
  let target := m.states + 1
  (sequences.foldl (fun (m, made) sequence =>
    let (m, made) := chain target sequence (m, made)
    (m.add 0 4, made)) (m.add 2, {})).1

/-! ## Alternatives that are texts

They are kept as a tree of bytes. Texts that go on after another one has ended come after it in
order of preference, so the transitions of a state of the tree are in groups with an end between. -/

/-- Adds a text to the groups of texts between ends, latest first, each with its latest text first.
An end that only follows another one, with no text before, counts for nothing. -/
def addText (groups : List (List (List Nat))) (text : List Nat) : List (List (List Nat)) :=
  if text.isEmpty then
    if groups.all (·.isEmpty) && 2 ≤ groups.length then groups else [] :: groups
  else
    match groups with
    | group :: before => (text :: group) :: before
    | [] => [[text]]

/-- Adds the states for texts that begin alike, given what comes after that. -/
def texts : Nat → List (List Nat) → Meter → Meter
  | 0, _, m => m
  | fuel + 1, rest, m =>
    let groups := rest.foldl addText [[]]
    let inner := groups.filter (!·.isEmpty)
    if inner.isEmpty then m
    else
      let m := inner.foldl (fun m group =>
        let group := group.reverse
        let bytes := (group.filterMap List.head?).eraseDups
        let m := bytes.foldl (fun m byte =>
          texts fuel ((group.filter (·.head? = some byte)).map List.tail) m) m
        m.add 1 (if bytes.length = 1 then 0 else 8 * bytes.length)) m
      m.add 1 (4 * (inner.length + groups.length - 1))

end Weight

/-- What a set comes to in an automaton. -/
inductive SetPlan where
  /-- A state for each byte of a single character. -/
  | char (bytes : Nat)
  /-- A state with all transitions, and the one that they lead to. -/
  | ascii (ranges : Nat)
  /-- States for the encodings. -/
  | encoded (sequences : List (List (Nat × Nat)))
  deriving Repr, Inhabited

namespace SetPlan

/-- What a set comes to. -/
def ofSet (s : CharSet) : SetPlan :=
  match s.only? with
  | some c => char c.utf8Size
  | none =>
    let ranges := s.ranges
    if ranges.all (·.2 < 0x80) then ascii ranges.length
    else encoded (ranges.flatMap fun (lo, hi) => Encoding.sequences lo hi)

/-- Adds a set to an automaton. -/
def measure (backwards : Bool) : SetPlan → Meter → Meter
  | char bytes, m => m.add bytes
  | ascii ranges, m => m.add 2 (8 * ranges)
  | encoded sequences, m =>
    if backwards then Weight.backward sequences m else Weight.forward sequences m

end SetPlan

/-! ## Expressions -/

/-- How an expression is added to an automaton. -/
structure Measure where
  /-- As a part of a row. -/
  part : Meter → Meter
  /-- As an alternative, given how many come before it. -/
  choice : Nat × Meter → Nat × Meter

namespace Measure

/-- On its own, an expression has at least one state. -/
def alone (r : Tree) (f : Meter → Meter) (m : Meter) : Meter :=
  if r.parts.isEmpty then m.add 1 else m.part f

/-- An expression that is no choice. From the second alternative on there is a state that branches
to all of them, and one that they lead to. -/
def ofPart (r : Tree) (f : Meter → Meter) : Measure where
  part := f
  choice := fun (before, m) =>
    let m := alone r f m
    (before + 1, if before = 0 then m else if before = 1 then m.add 2 8 else m.add 0 4)

/-- A repetition, from the measure `f` of what is repeated, which `advances` if it does not match the
empty text. -/
def repeated (min : Nat) (max : Option Nat) (advances : Bool) (f : Meter → Meter) (m : Meter) :
    Meter :=
  match min, max with
  | 0, some 1 => (f (m.add 1)).add 1 8
  | 0, none => if advances then (f (m.add 1)).add 0 8 else (f m).add 3 16
  | min + 1, none => (m.times f (min + 1)).add 1 8
  | min, some max =>
    let m := if min = 0 then m.add 1 else m.times f min
    if max ≤ min then m else (m.add 1).times (fun m => f (m.add 1 8)) (max - min)

end Measure

namespace Tree

/-- The bytes of an expression that is a text. -/
def text? (r : Tree) : Option (List Nat) :=
  let chars := r.parts.map only?
  if chars.isEmpty ∨ none ∈ chars then none
  else some ((chars.filterMap id).flatMap fun c => Encoding.encode c.toNat)

/-- How an expression is added to an automaton. -/
def measure (backwards : Bool) : Tree → Measure
  | empty => .ofPart empty id
  | set s =>
    let plan := SetPlan.ofSet s
    .ofPart (set s) (plan.measure backwards)
  | look l => .ofPart (look l) (·.add 1)
  | cat a b =>
    let first := (a.measure backwards).part
    let second := (b.measure backwards).part
    .ofPart (cat a b) fun m => if backwards then first (second m) else second (first m)
  | alt a b =>
    let choice := fun m => (b.measure backwards).choice ((a.measure backwards).choice m)
    let all := Thunk.mk fun _ => (alt a b).choices.map text?
    { part := fun m =>
        if none ∈ all.get then (choice (0, m)).2
        else
          let all := (all.get.filterMap id).map fun text =>
            if backwards then text.reverse else text
          Weight.texts ((all.map List.length).sum + 1) all (m.add 1)
      choice }
  | group index name r =>
    let inner := Measure.alone r (r.measure backwards).part
    .ofPart (group index name r) fun m => if backwards then inner m else (inner (m.add 1)).add 1
  | rep min max greedy r =>
    .ofPart (rep min max greedy r)
      (Measure.repeated min max r.advances (Measure.alone r (r.measure backwards).part))

/-- Whether every match starts at the start of the text, as far as the form of the expression
shows. -/
def startsText : Tree → Bool
  | look l => l = .textStart
  | cat a b => a.startsText || (a.isEmptyOnly && b.startsText)
  | alt a b => a.startsText && b.startsText
  | group _ _ r => r.startsText
  | rep min _ _ r => 0 < min && r.startsText
  | _ => false

/-- Whether every match ends at the end of the text, as far as the form of the expression shows. -/
def endsText : Tree → Bool
  | look l => l = .textEnd
  | cat a b => b.endsText || (b.isEmptyOnly && a.endsText)
  | alt a b => a.endsText && b.endsText
  | group _ _ r => r.endsText
  | rep min _ _ r => 0 < min && r.endsText
  | _ => false

/-- The whole automaton. If a match can start anywhere, it begins with a loop over all bytes. -/
def automaton (backwards : Bool) (limit : Nat) (r : Tree) : Meter :=
  let bound := if backwards then r.endsText else r.startsText
  let m : Meter := if bound then { limit, states := 1 } else { limit, states := 3, links := 16 }
  let inner := Measure.alone r (r.measure backwards).part
  if backwards then (inner m).add 1 else (inner (m.add 1)).add 2

/-- Whether the automata of an expression stay within a limit. So many texts that a table of them is
used have none. -/
def fits (limit : Nat) (r : Tree) : Bool :=
  let texts := r.choices.map text?
  (3000 ≤ texts.length && none ∉ texts) ||
    (!(r.automaton false limit).isFull && !(r.automaton true limit).isFull)

end Tree

end PathTemplate.Regex
