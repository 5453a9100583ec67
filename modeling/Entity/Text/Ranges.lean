/-!
# Ranges of code points

Character properties of the Unicode standard (version 14) are stored as ascending lists of closed
ranges; a property holds of a character when one range contains its code point.
-/

namespace Entity.Text

/-- Membership in an ascending list of closed ranges of code points. -/
def inRanges (n : Nat) : List (Nat × Nat) → Bool
  | [] => false
  | (first, last) :: rest => if n < first then false else n ≤ last || inRanges n rest

/-- The character of a code point has that code point. -/
theorem toNat_ofNat {n : Nat} (h : n.isValidChar) : (Char.ofNat n).toNat = n := by
  unfold Char.ofNat
  rw [dif_pos h]
  rfl

end Entity.Text
