import PathTemplate.Regex.Ranges
/-!
# Encoded ranges

A range of characters is a union of sequences of byte ranges: cut where the length of the encoding
changes and where a continuation byte would not run through all its values, each piece encodes to
all that lies byte by byte between the encodings of its ends.
-/

namespace PathTemplate.Regex.Encoding

/-- The bytes of a character, by its code point. -/
def encode (code : Nat) : List Nat :=
  if code < 0x80 then [code]
  else if code < 0x800 then [0xc0 + code / 64, 0x80 + code % 64]
  else if code < 0x10000 then [0xe0 + code / 4096, 0x80 + code / 64 % 64, 0x80 + code % 64]
  else [0xf0 + code / 262144, 0x80 + code / 4096 % 64, 0x80 + code / 64 % 64, 0x80 + code % 64]

/-- Cuts a range before a code point, and leaves out a gap of the given length there. -/
def cut (place gap : Nat) (range : Nat × Nat) : List (Nat × Nat) :=
  if range.1 < place ∧ place ≤ range.2 then
    [(range.1, place - 1), (place + gap, range.2)]
  else [range]

/-- Cuts a range so that blocks of the given length are in it as a whole or in one piece of it. -/
def align (block : Nat) (range : Nat × Nat) : List (Nat × Nat) :=
  let (lo, hi) := range
  if lo / block = hi / block then [range]
  else
    let first := (lo + block - 1) / block * block
    let last := (hi + 1) / block * block
    (if lo < first then [(lo, first - 1)] else []) ++
      (if first < last then [(first, last - 1)] else []) ++
      (if last ≤ hi then [(last, hi)] else [])

/-- The sequences of byte ranges for the characters of a range. -/
def sequences (lo hi : Nat) : List (List (Nat × Nat)) :=
  let pieces := (cut 0xd800 0x800 (lo, hi)).flatMap (cut 0x80 0) |>.flatMap (cut 0x800 0)
    |>.flatMap (cut 0x10000 0)
  let pieces := pieces.flatMap fun range =>
    if range.2 < 0x80 then [range]
    else (align 64 range).flatMap (align 4096) |>.flatMap (align 262144)
  pieces.map fun (lo, hi) => (encode lo).zip (encode hi)

end PathTemplate.Regex.Encoding
