import PathTemplate.Regex.Program
/-!
# Searching a text

A program is run on a text by following its threads in order of preference: the best one first, and
another one when all that came from the better ones have failed. What a thread can still reach
depends on its instruction and its place alone, and not on what it has noted on the way. So an
instruction is run only once at each place, and the time is bounded by the number of instructions
times the number of places.

The start of a match is sought from the left. What failed from one start fails from the next, so the
record of what has been run is kept.
-/

namespace PathTemplate.Regex

/-- A run of a program, at an instruction and a progress. -/
structure Thread extends Progress where
  /-- The next instruction. -/
  instr : Nat
  deriving DecidableEq, Repr, Inhabited

namespace Thread

/-- What comes of a thread by its instruction, best first. -/
def next (text : Array Char) (t : Thread) : Instr → List Thread
  | .take s => (t.take? text s).toList.map (⟨·, t.instr + 1⟩)
  | .look l => if t.meets text l then [⟨t.toProgress, t.instr + 1⟩] else []
  | .save slot => [⟨t.note slot, t.instr + 1⟩]
  | .split first second => [⟨t.toProgress, first⟩, ⟨t.toProgress, second⟩]
  | .jump target => [⟨t.toProgress, target⟩]
  | .accept => []

end Thread

/-- A match: where it starts, and the progress at its end. -/
structure Match where
  start : Nat
  stop : Progress
  deriving DecidableEq, Repr, Inhabited

namespace Search

/-- The entry for an instruction at a place, in a record of all of them. -/
def entry (text : Array Char) (t : Thread) : Nat :=
  t.instr * (text.size + 1) + t.place

/-- Follows threads, best first, until one accepts. `seen` records which instructions have been run
at which places. -/
def follow (program : Array Instr) (text : Array Char) :
    Nat → List Thread → Array Bool → Option Progress × Array Bool
  | 0, _, seen => (none, seen)
  | _ + 1, [], seen => (none, seen)
  | fuel + 1, t :: waiting, seen =>
    if seen.getD (entry text t) true then follow program text fuel waiting seen
    else
      match program[t.instr]? with
      | none => follow program text fuel waiting seen
      | some .accept => (some t.toProgress, seen)
      | some instr =>
        follow program text fuel (t.next text instr ++ waiting)
          (seen.setIfInBounds (entry text t) true)

/-- How many threads can be followed at most: each instruction at each place leaves two of them. -/
def enough (program : Array Instr) (text : Array Char) : Nat :=
  2 * (program.size * (text.size + 1)) + 2

/-- The first match from one of the next `n` starts. -/
def seek (program : Array Instr) (text : Array Char) :
    Nat → Nat → Array Bool → Option Match
  | 0, _, _ => none
  | n + 1, start, seen =>
    match follow program text (enough program text) [⟨⟨start, []⟩, 0⟩] seen with
    | (some stop, _) => some ⟨start, stop⟩
    | (none, seen) => seek program text n (start + 1) seen

/-- The best of the matches that start first. -/
def find? (program : Array Instr) (text : Array Char) : Option Match :=
  seek program text (text.size + 1) 0 (Array.replicate (program.size * (text.size + 1)) false)

end Search

end PathTemplate.Regex
