import Entity.Text.Blank

/-!
# Cutting text apart and putting it together

Text is cut at a separator, at runs of blanks or at line ends, and joined again.  Main statement:
cutting at a character and joining with the same character gives the text back.
-/

namespace Entity.Text

/-! ## Cutting at one character -/

/-- The pieces between the occurrences of `sep`; a text without `sep` is one piece. -/
def splitAt (sep : Char) : List Char → List (List Char)
  | [] => [[]]
  | c :: cs =>
    if c = sep then [] :: splitAt sep cs
    else match splitAt sep cs with
      | [] => [[c]]
      | piece :: pieces => (c :: piece) :: pieces

/-- The text before the first `sep`, and the text after it. -/
def cutAt? (sep : Char) : List Char → Option (List Char × List Char)
  | [] => none
  | c :: cs =>
    if c = sep then some ([], cs)
    else (cutAt? sep cs).map fun (before, after) => (c :: before, after)

/-- The pieces of a string between the occurrences of `sep`. -/
def pieces (sep : Char) (s : String) : List String :=
  (splitAt sep s.toList).map String.ofList

theorem splitAt_ne_nil (sep : Char) (cs : List Char) : splitAt sep cs ≠ [] := by
  cases cs with
  | nil => simp [splitAt]
  | cons c cs =>
    unfold splitAt
    split
    · simp
    · split <;> simp

/-! ## Joining -/

/-- The pieces with `sep` between neighbours. -/
def joinWith (sep : List Char) : List (List Char) → List Char
  | [] => []
  | [piece] => piece
  | piece :: rest => piece ++ sep ++ joinWith sep rest

/-- Strings with `sep` between neighbours. -/
def join (sep : String) (pieces : List String) : String :=
  String.ofList (joinWith sep.toList (pieces.map String.toList))

theorem joinWith_cons (sep piece : List Char) {rest : List (List Char)} (h : rest ≠ []) :
    joinWith sep (piece :: rest) = piece ++ sep ++ joinWith sep rest := by
  cases rest with
  | nil => exact absurd rfl h
  | cons _ _ => rfl

/-- Joining at the character of the cut undoes the cut. -/
theorem joinWith_splitAt (sep : Char) (cs : List Char) :
    joinWith [sep] (splitAt sep cs) = cs := by
  induction cs with
  | nil => rfl
  | cons c cs ih =>
    unfold splitAt
    split
    · rename_i h
      rw [joinWith_cons _ _ (splitAt_ne_nil sep cs), ih, h]
      rfl
    · split
      · rename_i h
        exact absurd h (splitAt_ne_nil sep cs)
      · rename_i piece pieces h
        rw [h] at ih
        cases pieces with
        | nil =>
          simp only [joinWith] at ih ⊢
          rw [ih]
        | cons q qs =>
          simp only [joinWith, List.cons_append] at ih ⊢
          rw [ih]

/-! ## Prefixes, and searching -/

/-- What follows `start` in a text that begins with it. -/
def afterStart? : (start : List Char) → List Char → Option (List Char)
  | [], cs => some cs
  | _ :: _, [] => none
  | a :: start, c :: cs => if a = c then afterStart? start cs else none

/-- The text begins with `start`. -/
def beginsWith (start : List Char) (cs : List Char) : Bool := (afterStart? start cs).isSome

/-- The text ends with `stop`. -/
def endsWith (stop : List Char) (cs : List Char) : Bool := beginsWith stop.reverse cs.reverse

/-- Some part of the text is `part`. -/
def contains (part : List Char) : List Char → Bool
  | [] => part.isEmpty
  | c :: cs => beginsWith part (c :: cs) || contains part cs

/-- What is left after dropping `skip` characters, with every non-empty `part` replaced. -/
def replaceFrom (part new : List Char) : Nat → List Char → List Char
  | _, [] => []
  | skip + 1, _ :: cs => replaceFrom part new skip cs
  | 0, c :: cs =>
    if beginsWith part (c :: cs) then new ++ replaceFrom part new (part.length - 1) cs
    else c :: replaceFrom part new 0 cs

/-- Every occurrence of a non-empty `part`, found from the left, is replaced by `new`. -/
def replaceAll (part new cs : List Char) : List Char := replaceFrom part new 0 cs

/-- A text that is there and not empty. -/
def nonEmpty? : Option String → Option String
  | some s => if s.isEmpty then none else some s
  | none => none

/-! ## Words and lines -/

/-- The maximal runs of characters that are not blank. -/
def words (cs : List Char) : List (List Char) :=
  ((cs.map fun c => if isBlank c then ' ' else c) |> splitAt ' ').filter (· ≠ [])

/-- The lines of a text, each with its line end; a carriage return and a line feed are one end. -/
def linesAcc (line : List Char) : List Char → List (List Char)
  | [] => if line.isEmpty then [] else [line.reverse]
  | '\r' :: '\n' :: cs => ('\n' :: '\r' :: line).reverse :: linesAcc [] cs
  | c :: cs =>
    if isLineEnd c then (c :: line).reverse :: linesAcc [] cs else linesAcc (c :: line) cs

/-- The lines of a text, each with its line end. -/
def linesWithEnds (cs : List Char) : List (List Char) := linesAcc [] cs

end Entity.Text
