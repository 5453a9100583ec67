import Entity.Terminal.Emoji.Code
import Entity.Text.Case
import Entity.Text.Split

/-!
# Pictures in texts

A code between colons stands for a picture: `:star:`.  Letter case is ignored.  A picture of a
person can be asked for in a tone, and any picture as text or in colour: `:star-text:`.  What is no
code stays as it is.
-/

namespace Entity.Terminal

open Entity.Text

/-! ## Codes -/

/-- The tones of skin, from light to dark, with the characters that ask for them. -/
def skinTones : List (String × Char) :=
  [("_light_skin_tone", Char.ofNat 0x1f3fb), ("_medium-light_skin_tone", Char.ofNat 0x1f3fc),
    ("_medium_skin_tone", Char.ofNat 0x1f3fd), ("_medium-dark_skin_tone", Char.ofNat 0x1f3fe),
    ("_dark_skin_tone", Char.ofNat 0x1f3ff)]

/-- The character that asks for a picture in colour. -/
def inColour : Char := Char.ofNat 0xfe0f

/-- The character that asks for a picture as text. -/
def asText : Char := Char.ofNat 0xfe0e

/-- A picture in a tone: the tone stands after its first character, in place of a colour there. -/
def inTone (tone : Char) : List Char → List Char
  | [] => []
  | c :: cs => c :: tone :: cs.dropWhile (· == inColour)

/-- The pictures, each with its codes. -/
def pictures : List (List Char × List (List Char)) :=
  (splitAt ',' pictureCodes.toList).filterMap fun entry => match words entry with
    | picture :: codes => some (picture, codes)
    | [] => none

/-- The picture with exactly a code. -/
def pictureOf? (code : List Char) : Option (List Char) :=
  (pictures.find? fun entry => entry.2.contains code).map Prod.fst

/-- The code without an ending. -/
def withoutEnd? (stop : String) (code : List Char) : Option (List Char) :=
  (afterStart? stop.toList.reverse code.reverse).map List.reverse

/-- The picture of a code that comes in tones, in the tone that the code ends with. -/
def tonedPicture? (code : List Char) : Option (List Char) :=
  skinTones.findSome? fun (stop, tone) => do
    let base ← withoutEnd? stop code
    (pictureOf? (base ++ ['~'])).map (inTone tone)

/-- The picture of a code in lower case. -/
def picture? (code : List Char) : Option (List Char) :=
  if code.contains '~' then none
  else match pictureOf? code with
    | some picture => some picture
    | none => (pictureOf? (code ++ ['~'])).orElse fun _ => tonedPicture? code

/-- The picture of what stands between colons. -/
def codePicture? (code : List Char) : Option (List Char) :=
  let lower (cs : List Char) : List Char := (toLower (String.ofList cs)).toList
  match withoutEnd? "-emoji" code, withoutEnd? "-text" code with
  | some base, _ => (picture? (lower base)).map (· ++ [inColour])
  | none, some base => (picture? (lower base)).map (· ++ [asText])
  | none, none => picture? (lower code)

/-! ## Texts -/

/-- What stands between the colon before a text and the next one, if no blank does. -/
def codeFirst? (cs : List Char) : Option (List Char) :=
  let code := cs.takeWhile fun c => c != ':' && !isBlank c
  if (cs.drop code.length).head? = some ':' then some code else none

/-- A text after some characters, with pictures in place of their codes. -/
def picturedFrom : (skip : Nat) → List Char → List Char
  | _, [] => []
  | skip + 1, _ :: cs => picturedFrom skip cs
  | 0, c :: cs =>
    match if c = ':' then codeFirst? cs else none with
    | some code =>
      (codePicture? code).getD (':' :: (code ++ [':'])) ++ picturedFrom (code.length + 1) cs
    | none => c :: picturedFrom 0 cs

/-- A text with pictures in place of their codes. -/
def pictured (cs : List Char) : List Char := picturedFrom 0 cs

/-- A text without colons stays as it is. -/
theorem pictured_of_not_mem {cs : List Char} (h : ':' ∉ cs) : pictured cs = cs := by
  unfold pictured
  induction cs with
  | nil => rfl
  | cons c cs ih =>
    simp only [List.mem_cons, not_or] at h
    simp [picturedFrom, Ne.symm h.1, ih h.2]

end Entity.Terminal
