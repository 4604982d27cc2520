/-!
# Blank characters

The characters with the Unicode property White_Space. Settings are trimmed of
them at both ends before they are read; nothing else about them is ignored.
-/

namespace Flotilla

namespace Blank

/-- The ranges of code points with the property White_Space, in ascending order. -/
def ranges : List (Nat × Nat) :=
  [(0x0009, 0x000D), (0x0020, 0x0020), (0x0085, 0x0085), (0x00A0, 0x00A0), (0x1680, 0x1680),
    (0x2000, 0x200A), (0x2028, 0x2029), (0x202F, 0x202F), (0x205F, 0x205F), (0x3000, 0x3000)]

/-- Whether a character is blank. -/
def isBlank (c : Char) : Bool :=
  ranges.any fun range => range.1 ≤ c.toNat && c.toNat ≤ range.2

/-- A text without the blanks at its front. -/
def trimFront (cs : List Char) : List Char := cs.dropWhile isBlank

/-- A text without the blanks at either end. -/
def trim (cs : List Char) : List Char :=
  (trimFront (trimFront cs).reverse).reverse

@[simp] theorem trim_nil : trim [] = [] := rfl

end Blank

end Flotilla
