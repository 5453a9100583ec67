import Entity.Text.Split
import Entity.Text.Width

/-!
# Wrapping lines

Text on lines of a bounded width.  A line is broken before a word that would not fit; a word that is
wider than a whole line is cut, or folded onto several lines.
-/

namespace Entity.Terminal

open Entity.Text

/-- What becomes of text that is wider than a line. -/
inductive Overflow where
  /-- The text is cut, and a mark at the end says so. -/
  | cut
  /-- A word goes on on the next line. -/
  | fold
  deriving DecidableEq, Repr, Inhabited

/-! ## Words -/

/-- The words of a line, each with the blanks after it, and the first also with those before it. -/
def wordRuns : (fuel : Nat) → List Char → List (List Char)
  | 0, _ => []
  | fuel + 1, cs =>
    let before := cs.takeWhile isBlank
    let rest := cs.dropWhile isBlank
    let word := rest.takeWhile fun c => !isBlank c
    let rest := rest.dropWhile fun c => !isBlank c
    if word.isEmpty then []
    else (before ++ word ++ rest.takeWhile isBlank) :: wordRuns fuel (rest.dropWhile isBlank)

/-- Pieces of a word that fit on lines of a width; `used` cells of the present piece are taken. -/
def chop (width : Nat) (used : Nat) (piece : List Char) : List Char → List (List Char)
  | [] => [piece.reverse]
  | c :: cs =>
    let n := cellWidth c
    if used + n > width then piece.reverse :: chop width n [c] cs
    else chop width (used + n) (c :: piece) cs

/-! ## Breaks -/

/-- The places at which consecutive pieces start, but for the start of the line. -/
def startsOf (start : Nat) : List (List Char) → List Nat
  | [] => []
  | piece :: pieces => (if start = 0 then [] else [start]) ++ startsOf (start + piece.length) pieces

/-- The places at which a line is broken; `start` is the place of the next word, and `used` cells of
the present line are taken. -/
def breaks (o : Overflow) (width : Nat) : (start used : Nat) → List (List Char) → List Nat
  | _, _, [] => []
  | start, used, word :: words =>
    let next := start + word.length
    let size := textWidth (trimEnd word)
    let here := if start = 0 then [] else [start]
    if used + size ≤ width then breaks o width next (used + textWidth word) words
    else if width < size then
      match o with
      | .fold =>
        let pieces := chop width 0 [] word
        startsOf start pieces ++
          breaks o width next (textWidth (pieces.getLast?.getD [])) words
      | .cut => here ++ breaks o width next (textWidth word) words
    else if used = 0 then breaks o width next used words
    else here ++ breaks o width next (textWidth word) words

/-- The pieces of a line between places; `start` is the place at which the line starts. -/
def divide (start : Nat) (cs : List Char) : List Nat → List (List Char)
  | [] => [cs]
  | place :: places => cs.take (place - start) :: divide place (cs.drop (place - start)) places

/-! ## Fitting -/

/-- A start of a text that takes exactly some cells, found by halving between two lengths; half of a
wide character is a blank.  Where marks without width follow, several starts take as many cells, and
the first one that is met counts. -/
def halved? (cells : Nat) (cs : List Char) : (fuel low high : Nat) → Option (List Char)
  | 0, _, _ => none
  | fuel + 1, low, high =>
    let middle := (low + high) / 2
    let start := cs.take (middle + 1)
    let last := start.getLast?.map cellWidth
    if textWidth start = cells + 1 ∧ last = some 2 then some (start.dropLast ++ [' '])
    else if textWidth start = cells then some start
    else if cells < textWidth start then halved? cells cs fuel low middle
    else halved? cells cs fuel middle high

/-- As much of a text as fits in some cells. -/
def prefixOf (cells : Nat) (cs : List Char) : List Char :=
  if cells = 0 then [] else (halved? cells cs (cs.length + 1) 0 cs.length).getD []

/-- A line that is too long, made to fit. -/
def fitted (o : Overflow) (width : Nat) (cs : List Char) : List Char :=
  if textWidth cs ≤ width then cs
  else match o with
    | .cut => prefixOf (width - 1) cs ++ ['…']
    | .fold => prefixOf width cs

/-- Blanks at the end of a line that is too long are dropped, as far as it is too long. -/
def dropExcess (width : Nat) (cs : List Char) : List Char :=
  let blanks := cs.length - (trimEnd cs).length
  cs.take (cs.length - min blanks (cs.length - width))

/-- Blanks in the place of tabs, up to the next multiple of eight; `used` cells are taken before. -/
def withoutTabs (used : Nat) : List Char → List Char
  | [] => []
  | c :: cs =>
    if c = '\t' then
      let next := (used / 8 + 1) * 8
      List.replicate (next - used) ' ' ++ withoutTabs next cs
    else c :: withoutTabs (used + cellWidth c) cs

/-- The lines of a text that is wrapped, where `wraps` allows it, and made to fit. -/
def wrapped (o : Overflow) (wraps : Bool) (width : Nat) (text : List Char) : List (List Char) :=
  (splitAt '\n' text).flatMap fun line =>
    let line := withoutTabs 0 line
    let pieces := if wraps then divide 0 line (breaks o width 0 0 (wordRuns line.length line))
      else [line]
    pieces.map fun piece => fitted o width (dropExcess width piece)

/-- A line with blanks after it, up to a width. -/
def padded (width : Nat) (cs : List Char) : List Char :=
  cs ++ List.replicate (width - textWidth cs) ' '

/-! ## Laws -/

/-- Broken lines hold the text, whatever the places of the breaks. -/
theorem flatten_divide (start : Nat) (cs : List Char) (places : List Nat) :
    (divide start cs places).flatten = cs := by
  induction places generalizing start cs with
  | nil => simp [divide]
  | cons place places ih => simp [divide, ih]

/-- The width of a text is that of its parts. -/
theorem textWidth_append (cs ds : List Char) :
    textWidth (cs ++ ds) = textWidth cs + textWidth ds := by
  simp [textWidth]

/-- A blank takes one cell. -/
theorem textWidth_blanks (n : Nat) : textWidth (List.replicate n ' ') = n := by
  have h : cellWidth ' ' = 1 := by decide
  simp [textWidth, h]

/-- A text with a wide character at its end takes two cells more than without it. -/
theorem textWidth_dropLast {cs : List Char} (h : cs.getLast?.map cellWidth = some 2) :
    textWidth cs.dropLast + 2 = textWidth cs := by
  obtain ⟨c, hc, hw⟩ := Option.map_eq_some_iff.1 h
  obtain ⟨ds, rfl⟩ := List.getLast?_eq_some_iff.1 hc
  simp [textWidth, hw]

/-- What halving finds takes exactly the cells that are asked for. -/
theorem textWidth_of_halved? {cells : Nat} {cs r : List Char} {fuel low high : Nat}
    (h : halved? cells cs fuel low high = some r) : textWidth r = cells := by
  induction fuel generalizing low high with
  | zero => simp [halved?] at h
  | succ fuel ih =>
    simp only [halved?] at h
    split at h
    · rename_i hw
      have := textWidth_dropLast hw.2
      simp only [Option.some.injEq] at h
      rw [← h, textWidth_append, show [' '] = List.replicate 1 ' ' from rfl, textWidth_blanks]
      omega
    · split at h
      · rename_i hw
        simpa [← Option.some.inj h] using hw
      · split at h
        · exact ih h
        · exact ih h

/-- What is cut to some cells takes no more of them. -/
theorem textWidth_prefixOf_le (cells : Nat) (cs : List Char) :
    textWidth (prefixOf cells cs) ≤ cells := by
  unfold prefixOf
  split
  · simp [textWidth]
  · cases h : halved? cells cs (cs.length + 1) 0 cs.length with
    | none => simp [textWidth]
    | some r => exact Nat.le_of_eq (textWidth_of_halved? h)

/-- A line that is made to fit fits. -/
theorem textWidth_fitted_le (o : Overflow) {width : Nat} (h : 0 < width) (cs : List Char) :
    textWidth (fitted o width cs) ≤ width := by
  unfold fitted
  split
  · assumption
  · cases o with
    | cut =>
      have hd : cellWidth '…' = 1 := by decide +kernel
      have := textWidth_prefixOf_le (width - 1) cs
      simp only [textWidth_append]
      simp only [textWidth, List.map_cons, List.map_nil, total_cons, total_nil, hd] at this ⊢
      omega
    | fold => exact textWidth_prefixOf_le width cs

end Entity.Terminal
