import Entity.Value

/-!
# The library of functions

The labels and the source texts of the functions of the library.  Item functions and scripted
handlers have no source text.
-/

namespace Entity

namespace LibraryFunction

/-- All functions of the library. -/
def all : List LibraryFunction :=
  [arr, label, pair, twin, active, mine, ranked, multiline, argc, healthScore, burnMultiple, boom,
    asyncScore, area, len]

/-- The label under which a function is known. -/
def key : LibraryFunction → String
  | arr => "arr"
  | label => "label"
  | pair => "pair"
  | twin => "twin"
  | active => "active"
  | mine => "mine"
  | ranked => "ranked"
  | multiline => "multiline"
  | argc => "argc"
  | healthScore => "health_score"
  | burnMultiple => "burn_multiple"
  | boom => "boom"
  | asyncScore => "async_score"
  | area => "area"
  | len => "len"

/-- The function with a label. -/
def ofKey? (k : String) : Option LibraryFunction := all.find? fun f => f.key == k

/-- A label belongs to one function. -/
theorem ofKey?_key (f : LibraryFunction) : ofKey? f.key = some f := by cases f <;> decide

end LibraryFunction

/-- The source text of a library function; `len` has none. -/
def LibraryFunction.source : LibraryFunction → Option String
  | arr => some "lambda r: r[\"mrr\"] * 12"
  | label => some "lambda record: record[\"name\"].upper()"
  | pair => some "lambda b, c: b * c"
  | twin => some "lambda x: x + 1"
  | active => some "lambda c: c[\"status\"] == \"active\""
  | mine => some
      "lambda item, context=None: context is not None and item[\"owner\"] == context[\"id\"]"
  | ranked => some "lambda *args: \"ranked\""
  | multiline => some "lambda r: (\n    r[\"a\"]\n    + r[\"b\"]\n)"
  | argc => some "lambda *args: len(args)"
  | healthScore => some
      "def health_score(record):\n    return record[\"stars\"] + record[\"forks\"] * 2\n"
  | burnMultiple => some ("def burn_multiple(record):\n" ++
      "    \"\"\"Net burn per net new revenue.\"\"\"\n    # a comment\n" ++
      "    if not record[\"netNew\"]:\n        return None\n" ++
      "    return record[\"burn\"] / record[\"netNew\"]\n")
  | boom => some "def boom(*args):\n    raise ValueError(\"boom\")\n"
  | asyncScore => some "async def async_score(record):\n    return 1\n"
  | area => some
      "def area(record, scale=1):\n    return record[\"w\"] * record[\"h\"] * scale\n"
  | len => none

/-- The source text of a function, when it is known. -/
def Callable.source : Callable → Option String
  | library f => f.source
  | _ => none

end Entity
