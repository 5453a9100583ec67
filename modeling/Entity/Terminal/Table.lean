import Entity.Terminal.Wrap

/-!
# Tables

A table with a title on a terminal: columns as wide as their texts, and narrower where the terminal
is too small.  The widest columns give up space first.  Main statement: every line of a cell is as
wide as its column.
-/

namespace Entity.Terminal

open Entity.Text

/-- A column. -/
structure Column where
  heading : List Char
  cells : List (List Char)
  /-- Texts may go on on further lines. -/
  wraps : Bool := true
  deriving Inhabited

/-! ## Widths -/

/-- The width of the widest line of a text. -/
def widest (text : List Char) : Nat :=
  ((linesWithEnds text).map fun line => textWidth (dropEndWhile isLineEnd line)).max?.getD 0

/-- The width that a column wants, with a blank on both sides, if no more than `limit` are left. -/
def Column.width (limit : Nat) (c : Column) : Nat :=
  min limit ((((c.heading :: c.cells).map widest).max?.getD 0) + 2)

/-- The nearest whole number to a quotient; a tie goes to the even neighbour. -/
def roundQuotient (a b : Nat) : Nat :=
  let q := a / b
  let twice := 2 * (a % b)
  if twice < b then q else if b < twice then q + 1 else q + q % 2

/-- A width that may be reduced by some amount at the most. -/
structure Reducible where
  width : Nat
  most : Nat
  deriving Inhabited

/-- Take an amount from widths in equal shares; `shares` of them are still to give one. -/
def reduce : (shares amount : Nat) → List Reducible → List Nat
  | _, _, [] => []
  | shares, amount, r :: rs =>
    if r.most = 0 ∨ shares = 0 then r.width :: reduce shares amount rs
    else
      let share := min r.most (roundQuotient amount shares)
      (r.width - share) :: reduce (shares - 1) (amount - share) rs

/-- Take an amount from widths in equal shares. -/
def reduced (amount : Nat) (rs : List Reducible) : List Nat :=
  reduce (rs.countP fun r => 0 < r.most) amount rs

/-- Narrow the widest columns that wrap until the sum is within a limit.  Every round brings them
down to the next width or to the limit, and so takes a cell at least; the sum bounds the rounds. -/
def narrowed (limit : Nat) (wraps : List Bool) : (rounds : Nat) → List Nat → List Nat
  | 0, widths => widths
  | rounds + 1, widths =>
    let excess := total widths - limit
    let wrapping := ((widths.zip wraps).filter Prod.snd).map Prod.fst
    let first := wrapping.max?.getD 0
    let second := (wrapping.filter (· ≠ first)).max?.getD 0
    if excess = 0 ∨ first = second then widths
    else narrowed limit wraps rounds (reduced excess ((widths.zip wraps).map fun (w, wraps) =>
      ⟨w, if wraps && w == first then min excess (first - second) else 0⟩))

/-- The widths of columns that take no more than a limit together. -/
def widths (limit : Nat) (columns : List Column) : List Nat :=
  let wanted := columns.map (Column.width limit)
  if total wanted ≤ limit then wanted
  else
    let narrow := narrowed limit (columns.map Column.wraps) (total wanted) wanted
    let narrow := reduced (total narrow - limit) (narrow.map fun w => ⟨w, w⟩)
    List.zipWith Column.width narrow columns

/-! ## Lines -/

/-- A text in the middle of a line. -/
def centred (width : Nat) (text : List Char) : List Char :=
  let text := fitted .cut width text
  padded width (List.replicate ((width - textWidth text) / 2) ' ' ++ text)

/-- The lines of a cell; a column without room for text has none. -/
def cellLines (width : Nat) (wraps : Bool) (text : List Char) : List (List Char) :=
  if width ≤ 2 then []
  else (wrapped .cut wraps (width - 2) text).map fun line => ' ' :: padded (width - 2) line ++ [' ']

/-- The lines of a row; missing lines are blank, and stand above the text where `low` says. -/
def rowLines (low : Bool) (bar : Char) (widths : List Nat) (cells : List (List (List Char))) :
    List (List Char) :=
  let height := max 1 ((cells.map List.length).max?.getD 0)
  let filled := List.zipWith (fun w lines =>
    let missing := List.replicate (height - lines.length) (List.replicate w ' ')
    if low then missing ++ lines else lines ++ missing) widths cells
  (List.range height).map fun i =>
    bar :: joinWith [bar] (filled.map fun lines => lines.getD i []) ++ [bar]

/-- A line between rows: its left end, what fills it, what stands between columns, its right end. -/
def rule (left fill between right : Char) (widths : List Nat) : List Char :=
  left :: joinWith [between] (widths.map fun w => List.replicate w fill) ++ [right]

/-- The cells of the rows of a table. -/
def rowsOf (columns : List Column) : List (List (List Char)) :=
  let height := (columns.map fun c => c.cells.length).max?.getD 0
  (List.range height).map fun i => columns.map fun c => c.cells.getD i []

/-- The lines of a table with a title, on a terminal of a width. -/
def tableLines (width : Nat) (title : List Char) (columns : List Column) : List (List Char) :=
  let ws := widths (width - (columns.length + 1)) columns
  let row (low : Bool) (bar : Char) (cells : List (List Char)) :=
    rowLines low bar ws ((ws.zip (columns.zip cells)).map fun (w, c, text) =>
      cellLines w c.wraps text)
  [centred (total ws + columns.length + 1) title, rule '┏' '━' '┳' '┓' ws] ++
    row true '┃' (columns.map Column.heading) ++ [rule '┡' '━' '╇' '┩' ws] ++
    (rowsOf columns).flatMap (row false '│') ++ [rule '└' '─' '┴' '┘' ws]

/-! ## Laws -/

/-- Padding fills a line that is not too wide up to its width. -/
theorem textWidth_padded {width : Nat} {cs : List Char} (h : textWidth cs ≤ width) :
    textWidth (padded width cs) = width := by
  rw [padded, textWidth_append, textWidth_blanks]
  omega

/-- Every line of a cell is as wide as its column. -/
theorem textWidth_of_mem_cellLines {width : Nat} {wraps : Bool} {text line : List Char}
    (h : line ∈ cellLines width wraps text) : textWidth line = width := by
  unfold cellLines at h
  split at h
  · simp at h
  · rename_i hw
    obtain ⟨body, hbody, rfl⟩ := List.mem_map.1 h
    obtain ⟨l, -, hl⟩ := List.mem_flatMap.1 hbody
    obtain ⟨piece, -, rfl⟩ := List.mem_map.1 hl
    have hpos : 0 < width - 2 := by omega
    have hfit := textWidth_fitted_le .cut hpos (dropExcess (width - 2) piece)
    have hpad := textWidth_padded hfit
    have hb : cellWidth ' ' = 1 := by decide
    rw [textWidth_append]
    simp only [textWidth, List.map_cons, List.map_nil, total_cons, total_nil, hb] at hpad ⊢
    omega

end Entity.Terminal
