/-!
# White space

The Unicode property `White_Space`, which separates a command name from its
arguments and the arguments from each other.
-/

namespace LineShell.Text

/-- Whether a code point lies in one of the closed ranges. -/
def inRanges (ranges : List (Nat × Nat)) (point : Nat) : Bool :=
  ranges.any fun range => range.1 ≤ point && point ≤ range.2

/-- The code points with the property `White_Space`, in ascending order. -/
def whiteSpaceRanges : List (Nat × Nat) :=
  [(0x09, 0x0D), (0x20, 0x20), (0x85, 0x85), (0xA0, 0xA0), (0x1680, 0x1680),
    (0x2000, 0x200A), (0x2028, 0x2029), (0x202F, 0x202F), (0x205F, 0x205F),
    (0x3000, 0x3000)]

def isWhiteSpace (c : Char) : Bool :=
  inRanges whiteSpaceRanges c.toNat

-- The property covers twenty-five code points.
example :
    (whiteSpaceRanges.flatMap fun range =>
      List.range' range.1 (range.2 + 1 - range.1)).length = 25 := by
  decide

theorem isWhiteSpace_space : isWhiteSpace ' ' = true := by decide

theorem isWhiteSpace_quote : isWhiteSpace '"' = false := by decide

theorem isWhiteSpace_backslash : isWhiteSpace '\\' = false := by decide

end LineShell.Text
