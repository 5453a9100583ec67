/-!
# Runs of names

Characters of the Unicode standard (version 14) have names, and neighbours have names that are
alike.  A run has the code point of its first character and the names of it and of those after it
with commas between them.  A digit before a name counts the words that it shares with the name
before it; a character without a name has an empty place.
-/

namespace Entity.Text

/-- The first code point of a run and its names. -/
abbrev NameRun := Nat × String

end Entity.Text
