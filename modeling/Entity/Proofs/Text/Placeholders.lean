import Entity.Field.Reading
import Entity.Proofs.Text.Ends
import Mathlib.Data.List.Nodup
import Mathlib.Tactic.Common

/-!
# Placeholders of prompts

The names of the placeholders in texts that are put together.  Main statement: the prompt that is
made for a schema has exactly the placeholders of the schema, if the name of the field has none.
-/

namespace Entity

open Entity.Text

namespace Template

variable {α : Type} [DecidableEq α]

/-! ## First appearances -/

theorem mem_firstAppearances {a : α} {as : List α} : a ∈ firstAppearances as ↔ a ∈ as := by
  induction as with
  | nil => rfl
  | cons b as ih =>
      rw [firstAppearances, List.mem_cons, List.mem_filter, ih, List.mem_cons]
      constructor
      · rintro (h | ⟨h, -⟩)
        · exact Or.inl h
        · exact Or.inr h
      · rintro (h | h)
        · exact Or.inl h
        · by_cases hab : a = b
          · exact Or.inl hab
          · exact Or.inr ⟨h, by simpa using hab⟩

theorem nodup_firstAppearances (as : List α) : (firstAppearances as).Nodup := by
  induction as with
  | nil => exact List.nodup_nil
  | cons a as ih =>
      rw [firstAppearances, List.nodup_cons]
      refine ⟨?_, ih.filter _⟩
      intro h
      simpa using (List.mem_filter.mp h).2

/-- Elements that stand once are their first appearances. -/
theorem firstAppearances_of_nodup {as : List α} (h : as.Nodup) : firstAppearances as = as := by
  induction as with
  | nil => rfl
  | cons a as ih =>
      rw [List.nodup_cons] at h
      rw [firstAppearances, ih h.2]
      congr 1
      refine List.filter_eq_self.mpr fun b hb => ?_
      have hne : b ≠ a := by
        rintro rfl
        exact h.1 hb
      simpa using hne

/-! ## Scanning -/

theorem scan_cons (open? : Option (List Char)) (c : Char) (cs : List Char) :
    scan open? (c :: cs) =
      if c = '\x7b' then scan (some []) cs
      else match open? with
        | none => scan none cs
        | some name =>
          if isWord c then scan (some (c :: name)) cs
          else if c = '\x7d' ∧ name ≠ [] then name.reverse :: scan none cs
          else scan none cs := by
  cases open? <;> rfl

/-- A character that ends every name that is being read. -/
structure Breaks (c : Char) : Prop where
  word : isWord c = false
  opening : c ≠ '\x7b'
  closing : c ≠ '\x7d'

theorem breaks_blank : Breaks ' ' := ⟨by decide, by decide, by decide⟩

theorem breaks_comma : Breaks ',' := ⟨by decide, by decide, by decide⟩

theorem scan_cons_of_breaks {c : Char} (hc : Breaks c) (open? : Option (List Char))
    (cs : List Char) : scan open? (c :: cs) = scan none cs := by
  cases open? with
  | none => simp [scan, hc.opening]
  | some name => simp [scan, hc.opening, hc.closing, hc.word]

/-- The placeholders before a character that ends names, and those after it. -/
theorem scan_append_of_breaks {c : Char} (hc : Breaks c) (open? : Option (List Char))
    (cs ds : List Char) : scan open? (cs ++ c :: ds) = scan open? cs ++ scan none ds := by
  induction cs generalizing open? with
  | nil =>
      rw [List.nil_append, scan_cons_of_breaks hc]
      rfl
  | cons b cs ih =>
      rw [List.cons_append, scan_cons, scan_cons]
      split
      · exact ih _
      · split
        · exact ih _
        · split
          · exact ih _
          · split
            · rw [ih, List.cons_append]
            · exact ih _

theorem placeholders_append_of_breaks {c : Char} (hc : Breaks c) (cs ds : List Char) :
    placeholders (cs ++ c :: ds) = placeholders cs ++ placeholders ds :=
  scan_append_of_breaks hc none cs ds

/-- A text without an opening brace has no placeholders. -/
theorem scan_none_of_not_mem {cs : List Char} (h : '\x7b' ∉ cs) : scan none cs = [] := by
  induction cs with
  | nil => rfl
  | cons c cs ih =>
      rw [List.mem_cons, not_or] at h
      rw [scan, if_neg (Ne.symm h.1)]
      exact ih h.2

/-- Names that are found are words. -/
theorem word_of_mem_scan {open? : Option (List Char)} {cs name : List Char}
    (hopen : ∀ read, open? = some read → ∀ c ∈ read, isWord c = true)
    (h : name ∈ scan open? cs) : Word name := by
  induction cs generalizing open? with
  | nil => cases h
  | cons c cs ih =>
      have hnone : ∀ read, (none : Option (List Char)) = some read → ∀ c ∈ read,
          isWord c = true := by
        rintro read ⟨⟩
      rw [scan_cons] at h
      split at h
      · refine ih ?_ h
        rintro read ⟨⟩ c hc
        cases hc
      · split at h
        · exact ih hnone h
        · rename_i read
          split at h
          · rename_i hc
            refine ih ?_ h
            rintro _ ⟨⟩ d hd
            rcases List.mem_cons.mp hd with rfl | hd
            · exact hc
            · exact hopen read rfl d hd
          · split at h
            · rename_i hclose
              rcases List.mem_cons.mp h with rfl | h
              · refine ⟨by simpa using hclose.2, ?_⟩
                intro d hd
                exact hopen read rfl d (List.mem_reverse.mp hd)
              · exact ih hnone h
            · exact ih hnone h

/-- While a name is being read, word characters are added to it. -/
theorem scan_some_append {cs : List Char} (h : ∀ c ∈ cs, isWord c = true)
    (read rest : List Char) :
    scan (some read) (cs ++ rest) = scan (some (cs.reverse ++ read)) rest := by
  induction cs generalizing read with
  | nil => rfl
  | cons c cs ih =>
      have hc : isWord c = true := h c (by simp)
      have hopening : c ≠ '\x7b' := by
        rintro rfl
        exact absurd hc (by decide)
      rw [List.cons_append, scan, if_neg hopening, if_pos hc, ih (fun d hd => h d (by simp [hd]))]
      simp

/-- A placeholder is found, and the scan goes on behind it. -/
theorem placeholders_placeholder_append {name : String} (h : Word name.toList) (rest : List Char) :
    placeholders (placeholder name ++ rest) = name.toList :: placeholders rest := by
  have hclose : isWord '\x7d' = false := by decide
  rw [placeholders, placeholder, List.cons_append, List.append_assoc, scan, if_pos rfl,
    scan_some_append h.all]
  simp [scan, hclose, h.ne_nil, placeholders]

/-- Placeholders with commas between them. -/
theorem placeholders_joinWith {names : List String} (h : ∀ v ∈ names, Word v.toList) :
    placeholders (joinWith [',', ' '] (names.map placeholder)) = names.map String.toList := by
  induction names with
  | nil => rfl
  | cons name names ih =>
      have hname : Word name.toList := h name (by simp)
      have hrest := ih fun v hv => h v (by simp [hv])
      cases names with
      | nil =>
          have halone := placeholders_placeholder_append hname []
          rw [List.append_nil] at halone
          rw [List.map_singleton, joinWith, halone]
          rfl
      | cons next names =>
          rw [List.map_cons, joinWith_cons _ _ (by simp), List.append_assoc,
            placeholders_placeholder_append hname]
          -- the comma and the blank after it begin no name
          rw [List.cons_append, List.singleton_append, placeholders,
            scan_cons_of_breaks breaks_comma, scan_cons_of_breaks breaks_blank]
          rw [List.map_cons (f := String.toList), ← hrest]
          rfl

/-! ## Names -/

theorem nodup_names (text : String) : (names text).Nodup := nodup_firstAppearances _

/-- The names of placeholders are words. -/
theorem word_of_mem_names {text v : String} (h : v ∈ names text) : Word v.toList := by
  obtain ⟨name, hname, rfl⟩ := List.mem_map.mp (mem_firstAppearances.mp h)
  rw [String.toList_ofList]
  refine word_of_mem_scan ?_ hname
  rintro read ⟨⟩

theorem placeholders_of_not_hasPlaceholder {text : String} (h : hasPlaceholder text = false) :
    placeholders text.toList = [] := by
  simpa [hasPlaceholder] using h

end Template

/-! ## The prompt of a schema -/

open Template

theorem word_of_mem_schemaNames {schema : Entries String Value} {v : String}
    (h : v ∈ schemaNames schema) : Word v.toList := by
  obtain ⟨text, -, hv⟩ := List.mem_flatMap.mp (mem_firstAppearances.mp h)
  exact word_of_mem_names hv

/-- **The prompt of a schema asks for what the schema names.**  Its placeholders are those of the
schema, each once and in the same order. -/
theorem names_ofSchema {name : String} (hname : hasPlaceholder name = false)
    (schema : Entries String Value) (model : Option String) :
    names (Generation.ofSchema name schema model).prompt =
      (Generation.ofSchema name schema model).placeholders := by
  have hshown : placeholders (join ", " ((schemaNames schema).map fun v =>
      String.ofList (placeholder v))).toList = (schemaNames schema).map String.toList := by
    rw [join, String.toList_ofList, List.map_map]
    have hmap : (String.toList ∘ fun v => String.ofList (placeholder v)) = placeholder := by
      funext v
      exact String.toList_ofList
    rw [hmap]
    exact placeholders_joinWith fun v hv => word_of_mem_schemaNames hv
  -- a blank stands before the name of the field, behind it and before the placeholders
  have hprompt : (Generation.ofSchema name schema model).prompt.toList =
      "Generate".toList ++ ' ' :: (name.toList ++ ' ' :: ("for context with:".toList ++ ' ' ::
        (join ", " ((schemaNames schema).map fun v =>
          String.ofList (placeholder v))).toList)) := by
    simp [Generation.ofSchema]
  have hfirst : placeholders "Generate".toList = [] := scan_none_of_not_mem (by decide)
  have hsecond : placeholders "for context with:".toList = [] := scan_none_of_not_mem (by decide)
  rw [names, hprompt, placeholders_append_of_breaks breaks_blank,
    placeholders_append_of_breaks breaks_blank, placeholders_append_of_breaks breaks_blank, hfirst,
    hsecond, placeholders_of_not_hasPlaceholder hname, hshown]
  simp only [List.nil_append, List.map_map]
  have hmap : (String.ofList ∘ String.toList) = id := by
    funext v
    exact String.ofList_toList
  rw [hmap, List.map_id]
  exact firstAppearances_of_nodup (nodup_firstAppearances _)

end Entity
