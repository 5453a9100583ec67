import Entity.Proofs.Formula.Scopes
import Entity.Proofs.Module.Tables
import Entity.Proofs.Serialized.Raw

/-!
# Where entries come from

Code becomes an entry in one of six ways, by what stands at its start and by whether it can be read.
Main statements: the way in which an entry came out of code, with everything that was checked on it,
and that every entry of a table came from a field in such a way or is the condition of a link.
-/

namespace Entity

open Entity.Text

namespace Formula

/-- A compiled formula begins with the word of an anonymous function. -/
theorem beginsWith_compile {code parameters text : String}
    (h : compile code parameters = .ok text) :
    beginsWith "lambda".toList text.toList = true := by
  obtain ⟨t, shown, -, -, -, rfl⟩ := compile_eq_ok.mp h
  simp [beginsWith, afterStart?]

end Formula

namespace Module

open Formula

/-! ## Entries -/

/-- Code without its margin and without blanks at its ends. -/
def codeText (code : String) : List Char := trim (dedent code.toList)

/-- The entry for a function that stands in the table itself. -/
def bracketed (text : List Char) : Entry := { text := "(" ++ String.ofList text ++ ")" }

/-- The ways in which code becomes an entry. -/
inductive Entry.Route (table : EntryTable) (field : String) : Option String → Entry → Prop where
  | missing {code : Option String} (hcode : nonEmpty? code = none) :
      Route table field code (unavailable field "")
  | unreadable {code : String} {problem : Failure}
      (htext : functionText table.parameters code.toList = .error problem) :
      Route table field (some code) (unavailable field code)
  | unnamed {code : String} (hsource : isFunctionSource (codeText code) = true)
      (hbegins : beginsWith "lambda".toList (codeText code) = false)
      (hname : functionName? (codeText code) = .ok none) :
      Route table field (some code) (unavailable field code)
  | lambda {code : String} {ss : List Statement}
      (hsource : isFunctionSource (codeText code) = true)
      (hread : statementsOf (codeText code) = .ok ss)
      (hbegins : beginsWith "lambda".toList (codeText code) = true) :
      Route table field (some code) (bracketed (codeText code))
  | formula {code text : String} (hsource : isFunctionSource (codeText code) = false)
      (hcompile : compile (String.ofList (codeText code)) table.parameters = .ok text) :
      Route table field (some code) (bracketed text.toList)
  | function {code : String} {ss : List Statement} {name : String}
      (hsource : isFunctionSource (codeText code) = true)
      (hread : statementsOf (codeText code) = .ok ss)
      (hbegins : beginsWith "lambda".toList (codeText code) = false)
      (hname : functionName? (codeText code) = .ok (some name)) :
      Route table field (some code)
        { text := table.functionName field
          functions := [String.ofList (renameFunction name.toList
            (table.functionName field).toList none (codeText code))] }

/-- The text of a function is the code itself, or the formula that it is, compiled. -/
theorem functionText_eq_ok {parameters code : String} {text : List Char}
    (h : functionText parameters code.toList = .ok text) :
    (isFunctionSource (codeText code) = true ∧ (∃ ss, statementsOf (codeText code) = .ok ss) ∧
        text = codeText code) ∨
      (isFunctionSource (codeText code) = false ∧
        compile (String.ofList (codeText code)) parameters = .ok (String.ofList text)) := by
  unfold functionText at h
  change (if isFunctionSource (codeText code) = true then _ else _) = _ at h
  split at h
  · rename_i hsource
    split at h
    · rename_i ss hread
      cases h
      exact .inl ⟨hsource, ⟨ss, hread⟩, rfl⟩
    · cases h
  · rename_i hsource
    obtain ⟨shown, hcompile, rfl⟩ := map_eq_ok.mp h
    refine .inr ⟨by simpa using hsource, ?_⟩
    rw [String.ofList_toList]
    exact hcompile

/-- Every entry for code came out of it in one of the ways. -/
theorem route_of_ofCode {table : EntryTable} {field : String} {code : Option String} {e : Entry}
    (h : (Entry.ofCode table field code).result = .ok e) : e.Route table field code := by
  unfold Entry.ofCode at h
  cases hcode : nonEmpty? code with
  | none =>
      rw [hcode] at h
      cases h
      exact .missing hcode
  | some c =>
      obtain rfl := eq_of_nonEmpty? hcode
      simp only [hcode] at h
      cases htext : functionText table.parameters c.toList with
      | error problem =>
          simp only [htext] at h
          split at h
          · cases h
            exact .unreadable htext
          · cases h
      | ok text =>
          simp only [htext, Outcome.result_lift, Entry.ofFunction] at h
          rcases functionText_eq_ok htext with ⟨hsource, ⟨ss, hread⟩, rfl⟩ | ⟨hsource, hcompile⟩
          · split at h
            · rename_i hbegins
              cases h
              exact .lambda hsource hread hbegins
            · rename_i hbegins
              obtain ⟨name, hname, h⟩ := bind_eq_ok.mp h
              cases name with
              | none =>
                  cases h
                  exact .unnamed hsource (by simpa using hbegins) hname
              | some name =>
                  cases h
                  exact .function hsource hread (by simpa using hbegins) hname
          · have hbegins : beginsWith "lambda".toList text = true := by
              simpa only [String.toList_ofList] using beginsWith_compile hcompile
            rw [if_pos hbegins] at h
            cases h
            have hroute : Entry.Route table field (some c)
                (bracketed (String.ofList text).toList) := .formula hsource hcompile
            rwa [String.toList_ofList] at hroute

/-! ## Tables -/

/-- A row of the compute functions came from the code of a field. -/
theorem exists_of_mem_computeEntries {fs : Entries String FunctionField}
    {t : List (String × Entry)} (h : (computeEntries fs).result = .ok t) :
    ∀ r ∈ t, ∃ c, (r.1, .computation c) ∈ fs ∧ r.2.Route .compute r.1 c.text? := by
  induction fs generalizing t with
  | nil =>
      cases h
      nofun
  | cons f fs ih =>
      obtain ⟨name, f⟩ := f
      cases f with
      | generation g =>
          rw [computeEntries] at h
          intro r hr
          obtain ⟨c, hc, hroute⟩ := ih h r hr
          exact ⟨c, List.mem_cons_of_mem _ hc, hroute⟩
      | computation c =>
          rw [computeEntries, Outcome.result_bind, bind_eq_ok] at h
          obtain ⟨e, he, h⟩ := h
          rw [Outcome.result_bind, bind_eq_ok] at h
          obtain ⟨rest, hrest, h⟩ := h
          cases h
          intro r hr
          rcases List.mem_cons.mp hr with rfl | hr
          · exact ⟨c, List.mem_cons_self, route_of_ofCode he⟩
          · obtain ⟨c', hc', hroute⟩ := ih hrest r hr
            exact ⟨c', List.mem_cons_of_mem _ hc', hroute⟩

/-- The entry of a link is the condition on its instances, or came from the code that the link
selects by. -/
theorem route_of_ofLink {field : String} {c : Cascade} {e : Entry}
    (h : (Entry.ofLink field c).result = .ok (some e)) :
    (∃ s, c.selector = some s ∧ e.Route .filter field s.text?) ∨
      (c.selector = none ∧ ∃ code, condition? c = some code ∧ e = Entry.ofCondition code) := by
  rw [ofLink_eq] at h
  cases hselector : c.selector with
  | some s =>
      rw [hselector, Outcome.result_map] at h
      obtain ⟨e', he, heq⟩ := map_eq_ok.mp h
      cases heq
      exact .inl ⟨s, rfl, route_of_ofCode he⟩
  | none =>
      rw [hselector, Outcome.result_pure, Except.ok.injEq, Option.map_eq_some_iff] at h
      obtain ⟨code, hcode, rfl⟩ := h
      exact .inr ⟨rfl, code, hcode, rfl⟩

/-- A row of the link filters is the condition of a link, or came from the code that the link
selects by. -/
theorem exists_of_mem_filterEntries {cs : Entries String Cascade} {t : List (String × Entry)}
    (h : (filterEntries cs).result = .ok t) :
    ∀ r ∈ t, ∃ c, (r.1, c) ∈ cs ∧
      ((∃ s, c.selector = some s ∧ r.2.Route .filter r.1 s.text?) ∨
        (c.selector = none ∧ ∃ code, condition? c = some code ∧
          r.2 = Entry.ofCondition code)) := by
  induction cs generalizing t with
  | nil =>
      cases h
      nofun
  | cons f cs ih =>
      obtain ⟨name, c⟩ := f
      rw [filterEntries, Outcome.result_bind, bind_eq_ok] at h
      obtain ⟨o, ho, h⟩ := h
      cases o with
      | none =>
          intro r hr
          obtain ⟨c', hc', hroute⟩ := ih h r hr
          exact ⟨c', List.mem_cons_of_mem _ hc', hroute⟩
      | some e =>
          rw [Outcome.result_bind, bind_eq_ok] at h
          obtain ⟨rest, hrest, h⟩ := h
          cases h
          intro r hr
          rcases List.mem_cons.mp hr with rfl | hr
          · exact ⟨c, List.mem_cons_self, route_of_ofLink ho⟩
          · obtain ⟨c', hc', hroute⟩ := ih hrest r hr
            exact ⟨c', List.mem_cons_of_mem _ hc', hroute⟩

end Module

end Entity
