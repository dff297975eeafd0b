import PathTemplate.Unicode.RangeSet
/-!
# Recent characters

The tables are those of edition 16 of the standard. Edition 17 added characters and left the
properties below as they were for the characters before. Texts are shown, and groups are named, with
the added characters in mind; regular expressions ask for properties without them.
-/

namespace PathTemplate.Unicode.Recent

/-- The characters that were added. All of them have a glyph, or are marks. -/
def added : RangeSet := RangeSet.ofGaps
  "2191 1 972 1 127 1 3570 15 2 12 1493 1 2772 1 31799 2 2 1 1 1 28 1 21457 16 445 2 54 7 2929 26
  1387 3 8 9 33 2 3172 8 584 44 4 10 20662 25 2 25 286 5 6145 8 1289 22 97 115 16135 3 445 23 15
  17 6095 31 1 22 8 2 4056 1 158 4 341 9 379 4 50 1 3 1 57 1 4 1 28 1 4 1 266 1 47935 6 5986 12
  21762 4298"

/-- Those of them that are alphabetic. -/
def alphabetic : RangeSet := RangeSet.ofGaps
  "2191 1 972 1 127 1 39665 2 2 1 1 1 28 1 24910 26 1387 3 50 2 3172 8 584 44 20676 25 2 25 286 5
  6145 8 1289 22 97 115 22733 31 1 22 8 2 53306 6 5986 12 21762 4298"

/-- Those of them that are numbers. -/
def numeric : RangeSet := RangeSet.ofGaps
  "73184 10 21002 3"

/-- Those of them that extend the character before them. -/
def graphemeExtend : RangeSet := RangeSet.ofGaps
  "6863 15 2 12 62478 2 3172 1 1 3 1 1 52092 1 2 1 7 2 5 1"

end PathTemplate.Unicode.Recent
