import Entity.Text.Ranges

/-!
# Halves of surrogate pairs

A text may hold one half of a surrogate pair, which is no character.  Such a half is held as the
private character whose code point is 0x100000 higher, and counts as the half wherever code points
are written.  Main statement: a half that is held is read back as the same half.
-/

namespace Entity.Text

/-- Half of a surrogate pair. -/
def isHalf (n : Nat) : Bool := 0xd800 ≤ n && n < 0xe000

/-- How far the character that holds a half is from the half. -/
def halfShift : Nat := 0x100000

/-- The character that stands for a code point, if there is such a code point. -/
def charOfCode? (n : Nat) : Option Char :=
  if isHalf n then some (Char.ofNat (n + halfShift))
  else if n.isValidChar then some (Char.ofNat n)
  else none

/-- The character holds a half. -/
def holdsHalf (c : Char) : Bool := halfShift ≤ c.toNat && isHalf (c.toNat - halfShift)

/-- The code point that a character stands for. -/
def codeOf (c : Char) : Nat := if holdsHalf c then c.toNat - halfShift else c.toNat

/-! ## Laws -/

theorem codeOf_eq_toNat {c : Char} (h : holdsHalf c = false) : codeOf c = c.toNat := by
  simp [codeOf, h]

theorem codeOf_half {n : Nat} {c : Char} (h : isHalf n = true) (hc : charOfCode? n = some c) :
    codeOf c = n := by
  have hr : 0xd800 ≤ n ∧ n < 0xe000 := by simpa [isHalf] using h
  have hv : (n + halfShift).isValidChar := by
    right
    simp only [halfShift]
    omega
  have hn : c.toNat = n + halfShift := by
    simp only [charOfCode?, h, if_true, Option.some.injEq] at hc
    rw [← hc, toNat_ofNat hv]
  have hh : holdsHalf c = true := by simp [holdsHalf, hn, h]
  simp [codeOf, hh, hn]

end Entity.Text
