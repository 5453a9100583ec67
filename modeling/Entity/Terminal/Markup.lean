import Entity.Failure
import Entity.Terminal.Emoji
import Entity.Text.Split

/-!
# Markup

Texts for a terminal may hold tags in brackets that say how what follows looks.  A backslash before
a tag makes it plain text, and backslashes before a tag are written twice.  On a terminal without
colours the tags have no effect, but a closing tag has to have an opening one.
-/

namespace Entity.Terminal

open Entity.Text

/-! ## Tags -/

/-- A part of a text with markup. -/
inductive Part where
  | text (cs : List Char)
  /-- A tag, by what stands between its brackets, after a number of backslashes. -/
  | tag (slashes : Nat) (body : List Char)
  deriving DecidableEq, Repr, Inhabited

/-- The first character of a tag. -/
def isTagStart (c : Char) : Bool := ('a' ≤ c && c ≤ 'z') || c == '#' || c == '/' || c == '@'

/-- A tag at the start of a text, and the rest. -/
def tag? : List Char → Option (List Char × List Char)
  | '[' :: c :: cs =>
    let body := cs.takeWhile fun c => c != '[' && c != ']'
    match cs.drop body.length with
    | ']' :: rest => if isTagStart c then some (c :: body, rest) else none
    | _ => none
  | _ => none

/-- The parts of a text; `read` is the plain text before, in reverse. -/
def partsFrom (read : List Char) : (fuel : Nat) → List Char → List Part
  | 0, cs => [.text (read.reverse ++ cs)]
  | _, [] => [.text read.reverse]
  | fuel + 1, c :: cs =>
    let slashes := (c :: cs).takeWhile (· == '\\')
    match tag? ((c :: cs).drop slashes.length) with
    | some (body, rest) =>
      .text read.reverse :: .tag slashes.length body :: partsFrom [] fuel rest
    | none => match slashes with
      | [] => partsFrom (c :: read) fuel cs
      | _ => partsFrom (slashes ++ read) fuel ((c :: cs).drop slashes.length)

/-- The parts of a text. -/
def parts (cs : List Char) : List Part := partsFrom [] cs.length cs

/-- Some backslashes. -/
def backslashes (n : Nat) : List Char := List.replicate n '\\'

/-! ## Plain text as markup -/

/-- A part that stands for itself. -/
def Part.escaped : Part → List Char
  | text cs => cs
  | tag n body => backslashes (2 * n + 1) ++ ('[' :: body ++ [']'])

/-- Markup for a plain text.  A single backslash at the end is written twice, so that it does not
change a tag after it. -/
def escape (cs : List Char) : List Char :=
  let new := (parts cs).flatMap Part.escaped
  if (new.reverse.takeWhile (· == '\\')).length = 1 then new ++ ['\\'] else new

/-! ## What a terminal shows -/

/-- The name of a tag, without its parameters. -/
def tagName (body : List Char) : List Char :=
  (trim (body.takeWhile (· != '='))).map Char.toLower

/-- The tags that are open after one more tag; a closing tag needs the tag that it names, or any tag
if it names none. -/
def afterTag (opened : List (List Char)) (body : List Char) :
    Except Failure (List (List Char)) :=
  match body with
  | '/' :: rest =>
    match tagName rest, opened with
    | [], _ :: others => .ok others
    | name, opened =>
      if opened.contains name then .ok (opened.erase name)
      else .error (.fault .badMarkup "closing tag without an opening one")
  | _ => .ok (tagName body :: opened)

/-- What the parts show, after tags that are open. -/
def shownParts (opened : List (List Char)) : List Part → Except Failure (List Char)
  | [] => .ok []
  | .text cs :: ps => (shownParts opened ps).map (pictured (replaceAll ['\\', '['] ['['] cs) ++ ·)
  | .tag n body :: ps =>
    let before := backslashes (n / 2)
    if n % 2 = 1 then
      (shownParts opened ps).map fun rest => before ++ pictured ('[' :: body ++ [']']) ++ rest
    else do
      let rest ← shownParts (← afterTag opened body) ps
      return before ++ rest

/-- A control character that a terminal is not sent. -/
def isSilent (c : Char) : Bool :=
  let n := c.toNat
  n == 7 || n == 8 || (11 ≤ n && n ≤ 13)

/-- What a terminal shows of a text with markup; codes of pictures count within plain text. -/
def shown (cs : List Char) : Except Failure (List Char) :=
  (if cs.contains '[' then shownParts [] (parts cs) else .ok (pictured cs)).map
    (·.filter fun c => !isSilent c)

end Entity.Terminal
