import Entity.Text.Split

/-!
# The fixed parts of generated modules

Every generated module has the same header, the same functions that look things up and match them,
and the same functions that its users call.
-/

namespace Entity.Module

/-- Lines, one under the other. -/
def lines (ls : List String) : String := Text.join "\n" ls

/-- What every module imports. -/
def importLines : List String := [
    "from __future__ import annotations",
    "",
    "import inspect",
    "from collections.abc import Callable, Iterable, Mapping",
    "from types import SimpleNamespace",
    "from typing import Any"]

/-- Functions that follow paths, compare references, match filters and stand for missing code. -/
def lookupCode : String := lines [
    "def _path(record: Any, path: str) -> Any:",
    "    \"\"\"Follow a dotted path through mappings and attributes.\"\"\"",
    "    current = record",
    "    for segment in path.split(\".\"):",
    "        if current is None:",
    "            return None",
    "        if isinstance(current, Mapping):",
    "            current = current.get(segment)",
    "        else:",
    "            current = getattr(current, segment, None)",
    "    return current",
    "",
    "",
    "def _ref_id(value: Any) -> Any:",
    "    if isinstance(value, Mapping):",
    "        return value.get(\"$id\", value.get(\"id\"))",
    "    return getattr(value, \"id\", value)",
    "",
    "",
    "def _refers_to(value: Any, context: Any) -> bool:",
    "    if context is None:",
    "        return value is not None",
    "    target = _ref_id(context)",
    "    if isinstance(value, (list, tuple)):",
    "        return any(_ref_id(v) == target for v in value)",
    "    return _ref_id(value) == target",
    "",
    "",
    "def _match(item: Any, field: str, op: str, expected: Any) -> bool:",
    "    actual = _path(item, field)",
    "    if op in (\"=\", \"!=\"):",
    "        equal = actual == expected or _ref_id(actual) == expected",
    "        return equal if op == \"=\" else not equal",
    "    if isinstance(actual, bool) or not isinstance(actual, (int, float)):",
    "        return False",
    "    if op == \">\":",
    "        return actual > expected",
    "    if op == \"<\":",
    "        return actual < expected",
    "    if op == \">=\":",
    "        return actual >= expected",
    "    return actual <= expected",
    "",
    "",
    "def _unavailable(field: str, code: str) -> Callable[..., Any]:",
    "    def _raise(*args: Any, **kwargs: Any) -> Any:",
    "        raise NotImplementedError(" ++
      "f\"Code for \x7bfield!r\x7d could not be compiled: \x7bcode\x7d\")",
    "",
    "    return _raise",
    "",
    "",
    "def _accepts_context(fn: Callable[..., Any]) -> bool:",
    "    try:",
    "        params = list(inspect.signature(fn).parameters.values())",
    "    except (TypeError, ValueError):",
    "        return False",
    "    if any(p.kind == p.VAR_POSITIONAL for p in params):",
    "        return True",
    "    positional = [p for p in params " ++
      "if p.kind in (p.POSITIONAL_ONLY, p.POSITIONAL_OR_KEYWORD)]",
    "    return len(positional) >= 2"]

/-- Functions that compute a field and filter the items of a link. -/
def entryCode : String := lines [
    "def compute(field: str, record: Any) -> Any:",
    "    \"\"\"Execute a compute function; None when *field* has none.\"\"\"",
    "    fn = COMPUTE_FUNCTIONS.get(field)",
    "    if fn is None:",
    "        return None",
    "    return fn(record)",
    "",
    "",
    "def filter_link(field: str, items: Iterable[Any], context: Any = None) -> list[Any]:",
    "    \"\"\"Filter *items* by a link's filter; unfiltered links keep every item.\"\"\"",
    "    fn = LINK_FILTERS.get(field)",
    "    if fn is None:",
    "        return list(items)",
    "    if _accepts_context(fn):",
    "        return [item for item in items if fn(item, context)]",
    "    return [item for item in items if fn(item)]"]

end Entity.Module
