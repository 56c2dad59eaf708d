/-
# Blanks

The characters that the Unicode property White_Space holds, and the removal of
such characters at both ends of a text. ASCII blanks alone would not do: a
process number or a timeout may be surrounded by any of these.
-/

namespace EditorClient.Blank

/-- The code points with the property White_Space, as closed ranges. -/
def ranges : List (Nat × Nat) :=
  [(0x09, 0x0D), (0x20, 0x20), (0x85, 0x85), (0xA0, 0xA0), (0x1680, 0x1680),
    (0x2000, 0x200A), (0x2028, 0x2029), (0x202F, 0x202F), (0x205F, 0x205F),
    (0x3000, 0x3000)]

/-- Whether a character is a blank. -/
def isBlank (c : Char) : Bool :=
  ranges.any fun r => r.1 ≤ c.toNat && c.toNat ≤ r.2

/-- A sequence of characters without the blanks at its two ends. -/
def trim (cs : List Char) : List Char :=
  ((cs.dropWhile isBlank).reverse.dropWhile isBlank).reverse

example : trim "\u00A0 12\u2003".toList = ['1', '2'] := by decide

end EditorClient.Blank
