/-!
# Code points in hexadecimal

Characters are written by the hexadecimal digits of their code points. Digits above nine are letters
of either case, and surrogates are no characters.
-/

namespace PathTemplate.Text.Hex

/-- The value of a digit. -/
def digit? (c : Char) : Option Nat :=
  if c.isDigit then some (c.toNat - '0'.toNat)
  else if 'a' ≤ c ∧ c ≤ 'f' then some (c.toNat - 'a'.toNat + 10)
  else if 'A' ≤ c ∧ c ≤ 'F' then some (c.toNat - 'A'.toNat + 10)
  else none

/-- The value of digits, the most significant first. -/
def value? (digits : List Char) : Option Nat :=
  digits.foldlM (fun sum c => (digit? c).map (sum * 16 + ·)) 0

/-- The character with the given code point. -/
def scalar? (code : Nat) : Option Char :=
  if h : code.isValidChar then some (Char.ofNatAux code h) else none

/-- The code point of a character gives the character back. -/
theorem scalar?_toNat (c : Char) : scalar? c.toNat = some c := by
  have h : c.toNat.isValidChar := c.valid
  rw [scalar?, dif_pos h]
  exact congrArg some (Char.ext rfl)

end PathTemplate.Text.Hex
