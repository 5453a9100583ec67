import Entity.Command.Report
import Entity.Proofs.Definition.Unreadable
import Entity.Proofs.Serialized.Broken
import Entity.Proofs.Serialized.Inert

/-!
# Loading definitions

A command goes on with the definition in a file, or it ends with an explanation of what is wrong
with the file.  Main statement: it does one of these, unless the text of the file is one that
loading breaks off at with a fault; these texts are those with an integer or a nesting beyond the
limits of the reader, with a document that cannot be taken apart, or with a raw mapping that is
unreadable.
-/

namespace Entity

open Value

/-! ## Raw mappings -/

theorem onlyFaults_documentEntries (v : Value) : OnlyFaults (documentEntries v) := by
  -- which fault it is depends on the metadata keys that are found in the value
  have hfault : ∀ named : Bool,
      ¬ (if named = true then wrongKind v else noAttributes v).Explained := by
    intro named
    cases named with
    | true => exact not_explained_wrongKind v
    | false => exact not_explained_noAttributes v
  cases v with
  | map entries => exact .ok entries
  | list | tuple | text => exact .error (hfault _)
  | _ => exact .error (not_explained_wrongKind _)

/-- The raw mapping of a document, once its entries are there. -/
theorem rebuiltRaw_map (data : Entries String Value) : rebuiltRaw (.map data) =
    (if (Value.lookup data "fields").isFalsy then .ok []
      else rawFields (Value.lookup data "fields")).map (Entries.merge (metadataOf data)) := by
  rw [rebuiltRaw, documentEntries]
  dsimp only [bind, Except.bind]
  split
  · rfl
  · cases rawFields (Value.lookup data "fields") <;> rfl

theorem exists_rebuiltRaw_of_shapeless {v : Value} (h : v.map? = none) :
    ∃ e, rebuiltRaw v = .error e := by
  cases v with
  | map => cases h
  | _ => exact ⟨_, rfl⟩

/-- The document cannot be taken apart: it is no mapping, or something stands for its fields in
which there is a broken entry. -/
inductive Unrebuildable : Value → Prop
  | shapeless {v : Value} (h : v.map? = none) : Unrebuildable v
  | fields {data : Entries String Value} (htruthy : (Value.lookup data "fields").isFalsy = false)
      (h : (Value.lookup data "fields").BrokenFields) : Unrebuildable (.map data)

theorem exists_rebuiltRaw_error_iff (v : Value) :
    (∃ e, rebuiltRaw v = .error e) ↔ Unrebuildable v := by
  cases v with
  | map data =>
      rw [rebuiltRaw_map, exists_map_eq_error]
      constructor
      · intro h
        cases hfalsy : (Value.lookup data "fields").isFalsy with
        | true => simp [hfalsy] at h
        | false =>
            rw [hfalsy, if_neg (by simp), exists_rawFields_error_iff] at h
            exact .fields hfalsy h
      · rintro (h | ⟨hfalsy, h⟩)
        · cases h
        · rw [hfalsy, if_neg (by simp), exists_rawFields_error_iff]
          exact h
  | _ => exact iff_of_true (exists_rebuiltRaw_of_shapeless rfl) (.shapeless rfl)

theorem onlyFaults_rebuiltRaw (v : Value) : OnlyFaults (rebuiltRaw v) := by
  refine (onlyFaults_documentEntries v).bind fun data => ?_
  dsimp only
  split
  · exact .ok _
  · exact (faulty _).fields.bind fun raws => .ok _

/-! ## Texts -/

/-- Loading a definition from the text breaks off with a fault. -/
inductive Unloadable (text : String) : Prop
  /-- An integer has too many digits. -/
  | digits (h : Json.document text.toList = .error .tooManyDigits) : Unloadable text
  /-- Too many lists and mappings are nested in one another. -/
  | depth (h : Json.document text.toList = .error .tooDeep) : Unloadable text
  | document {v : Value} (hdocument : Json.document text.toList = .ok v) (h : Unrebuildable v) :
      Unloadable text
  | raw {v : Value} (hdocument : Json.document text.toList = .ok v) {raw : Entries String Value}
      (hraw : rebuiltRaw v = .ok raw) (h : Unreadable raw) : Unloadable text

theorem explained_toFailure_iff (cs : List Char) (fault : Json.Fault) :
    (fault.toFailure cs).Explained ↔ fault ≠ .tooManyDigits ∧ fault ≠ .tooDeep := by
  cases fault with
  | grammar message left => exact iff_of_true (Or.inl ⟨_, rfl⟩) (by simp)
  | tooManyDigits | tooDeep =>
      exact iff_of_false (not_explained_fault (by decide) _) (by simp)

theorem onlyExplained_rebuild_iff {v : Value} (hv : v.CallableFree) :
    OnlyExplained (Definition.rebuild v).result ↔
      ¬ Unrebuildable v ∧ ∀ raw, rebuiltRaw v = .ok raw → ¬ Unreadable raw := by
  rw [Definition.rebuild, Outcome.result_bind, Outcome.result_lift]
  have hraws := (onlyFaults_rebuiltRaw v).onlyExplained_iff
  rw [exists_rebuiltRaw_error_iff] at hraws
  refine FailsOnly.bind_iff.trans (and_congr hraws (forall₂_congr fun raw hraw => ?_))
  exact onlyExplained_read_iff (allFree_of_rebuiltRaw hv hraw)

/-- **Texts that loading breaks off at.**  A text is loaded as a definition or with an explanation,
unless loading breaks off at it. -/
theorem onlyExplained_rebuildText_iff (text : String) :
    OnlyExplained (Definition.rebuildText text).result ↔ ¬ Unloadable text := by
  rw [Definition.rebuildText, Outcome.result_bind, Outcome.result_lift]
  refine FailsOnly.bind_iff.trans ?_
  cases hdocument : Json.document text.toList with
  | error fault =>
      have herror : Json.ofText text = .error (fault.toFailure text.toList) := by
        rw [Json.ofText, hdocument]
        rfl
      rw [herror]
      -- without a document it is the reader that decides
      have hexplained := explained_toFailure_iff text.toList fault
      constructor
      · rintro ⟨h, -⟩ hunloadable
        obtain ⟨hdigits, hdepth⟩ := hexplained.mp (h _ rfl)
        rcases hunloadable with h | h | ⟨h⟩ | ⟨h⟩ <;> rw [hdocument] at h <;> cases h
        · exact hdigits rfl
        · exact hdepth rfl
      · intro h
        refine ⟨.error (hexplained.mpr ⟨?_, ?_⟩), nofun⟩
        · rintro rfl
          exact h (.digits hdocument)
        · rintro rfl
          exact h (.depth hdocument)
  | ok v =>
      have hok : Json.ofText text = .ok v := by
        rw [Json.ofText, hdocument]
        rfl
      rw [hok]
      -- a document holds no functions, so that all its unreserved entries are fields
      have hrebuild := onlyExplained_rebuild_iff (Json.callableFree_of_ofText hok)
      constructor
      · rintro ⟨-, h⟩ hunloadable
        obtain ⟨hrebuildable, hreadable⟩ := hrebuild.mp (h v rfl)
        rcases hunloadable with h | h | ⟨h, hbad⟩ | ⟨h, hraw, hbad⟩ <;>
          rw [hdocument] at h <;> cases h
        · exact hrebuildable hbad
        · exact hreadable _ hraw hbad
      · intro h
        refine ⟨.ok v, ?_⟩
        rintro _ ⟨⟩
        refine hrebuild.mpr ⟨fun hbad => h (.document hdocument hbad), fun raw hraw hbad => ?_⟩
        exact h (.raw hdocument hraw hbad)

/-! ## Commands -/

namespace Command

/-- The file of the definition that a request is about. -/
def Request.file? : Request → Option String
  | .inspect file => some file
  | .codegen file _ _ => some file
  | .context _ _ => none

/-- What an invocation does with the definition, once it is there. -/
def continued (s : Surroundings) (i : Invocation) (d : Definition) : Outcome Report :=
  match i.request with
  | .inspect _ => return .ofLines d.inspection
  | .codegen _ output exportName => generated s i.config output exportName d
  | .context host override => liftM (baseReport s i.config host override)

theorem perform_of_file? {s : Surroundings} {i : Invocation} {file : String}
    (h : i.request.file? = some file) :
    perform s i = withDefinition s (Path.ofText file) (continued s i) := by
  obtain ⟨config, request⟩ := i
  cases request with
  | inspect | codegen =>
      cases h
      rfl
  | context => cases h

/-- The report of an exit with code 1 and an explanation of what is wrong with a file. -/
structure Report.Explains (r : Report) (file : Path) (e : Failure) : Prop where
  exitCode : r.exitCode = 1
  failure : r.failure = none
  errors : ∃ kind ∈ ["JSON", "definition"],
    r.errors = "Invalid " ++ kind ++ " in " ++ file.toText ++ ": " ++ e.message ++ "\n"

theorem refusedDefinition_eq {e : Failure} (h : ∀ message, e ≠ .fault .badJson message)
    (file : Path) : refusedDefinition file e = if e.isAboutEntities then
      .refusal ("Invalid definition in " ++ file.toText ++ ": " ++ e.message)
      else .ofFailure e := by
  unfold refusedDefinition
  split
  · exact absurd rfl (h _)
  · rfl

theorem explains_refusedDefinition {e : Failure} (h : e.Explained) (file : Path) :
    (refusedDefinition file e).Explains file e := by
  rcases h with ⟨message, rfl⟩ | habout
  · exact ⟨rfl, rfl, "JSON", by simp, rfl⟩
  · have hjson : ∀ message, e ≠ .fault .badJson message := by
      rintro message rfl
      cases habout
    rw [refusedDefinition_eq hjson, if_pos habout]
    exact ⟨rfl, rfl, "definition", by simp, rfl⟩

theorem refusedDefinition_of_not_explained {e : Failure} (h : ¬ e.Explained) (file : Path) :
    refusedDefinition file e = .ofFailure e := by
  have hjson : ∀ message, e ≠ .fault .badJson message := by
    rintro message rfl
    exact h (Or.inl ⟨message, rfl⟩)
  rw [refusedDefinition_eq hjson, if_neg fun habout => h (Or.inr habout)]

/-- What comes of a command on a file: it goes on with the definition, or it reports why it does
not. -/
theorem result_perform_of_file {s : Surroundings} {i : Invocation} {file written : String}
    (hfile : i.request.file? = some file)
    (hfound : s.files.find (Path.ofText file) = .file written) :
    (perform s i).result = match (Definition.rebuildText (withLineFeeds written)).result with
      | .ok d => (continued s i d).result
      | .error e => .ok (refusedDefinition (Path.ofText file) e) := by
  rw [perform_of_file? hfile, withDefinition, hfound]
  dsimp only
  cases hloaded : (Definition.rebuildText (withLineFeeds written)).result with
  | error e => rfl
  | ok d =>
      dsimp only
      rw [Outcome.result_andThen, hloaded]
      rfl

/-- The command goes on with the definition in a file, or explains why it does not. -/
def Settles (s : Surroundings) (i : Invocation) (file : Path) (text : String) : Prop :=
  (∃ d, (Definition.rebuildText text).result = .ok d ∧
    (perform s i).result = (continued s i d).result) ∨
  ∃ e r, (Definition.rebuildText text).result = .error e ∧
    (perform s i).result = .ok r ∧ r.Explains file e

theorem settles_iff {s : Surroundings} {i : Invocation} {file written : String}
    (hfile : i.request.file? = some file)
    (hfound : s.files.find (Path.ofText file) = .file written) :
    Settles s i (Path.ofText file) (withLineFeeds written) ↔
      OnlyExplained (Definition.rebuildText (withLineFeeds written)).result := by
  rw [Settles, result_perform_of_file hfile hfound]
  cases (Definition.rebuildText (withLineFeeds written)).result with
  | ok d => exact iff_of_true (Or.inl ⟨d, rfl, rfl⟩) (.ok d)
  | error e =>
      constructor
      · rintro (⟨d, h, -⟩ | ⟨_, r, h, hr, hexplains⟩)
        · cases h
        · cases h
          cases hr
          refine .error ?_
          by_contra hfault
          -- a fault would stay a failure
          have hfailure := hexplains.failure
          rw [refusedDefinition_of_not_explained hfault] at hfailure
          cases hfailure
      · intro h
        exact Or.inr ⟨e, _, rfl, rfl, explains_refusedDefinition (h e rfl) _⟩

end Command

/-- **Loading definitions.**  A text is loaded as a definition or it fails with an explanation, and
a command on a file that holds the text goes on with the definition or ends with exit code 1 and the
explanation, exactly if loading does not break off at the text. -/
theorem loading_explained_iff (text : String) :
    (((∃ d, (Definition.rebuildText text).result = .ok d) ∨
      ∃ e, (Definition.rebuildText text).result = .error e ∧ e.Explained) ↔ ¬ Unloadable text) ∧
    ∀ (s : Command.Surroundings) (i : Command.Invocation) (file written : String),
      i.request.file? = some file → s.files.find (Path.ofText file) = .file written →
        Command.withLineFeeds written = text →
          (Command.Settles s i (Path.ofText file) text ↔ ¬ Unloadable text) := by
  constructor
  · rw [← onlyExplained_rebuildText_iff]
    cases (Definition.rebuildText text).result with
    | ok d => exact iff_of_true (Or.inl ⟨d, rfl⟩) (.ok d)
    | error e => simp [FailsOnly]
  · rintro s i file written hfile hfound rfl
    rw [Command.settles_iff hfile hfound, onlyExplained_rebuildText_iff]

/-- A mapping without entries is loaded with an explanation, and so is the file that holds it. -/
theorem loading_explained_untyped :
    let s : Command.Surroundings :=
      { files := .ofList ⟨"/", ["home"]⟩ [("t.json", "\x7b\x7d")] }
    s.files.find (Path.ofText "t.json") = .file "\x7b\x7d" ∧
      Command.Settles s ⟨none, .inspect "t.json"⟩ (Path.ofText "t.json") "\x7b\x7d" := by
  have hresult : (Definition.rebuildText "\x7b\x7d").result =
      .error (.definition .missingType none) := rfl
  obtain ⟨hloads, hsettles⟩ := loading_explained_iff "\x7b\x7d"
  have hloadable := hloads.mp (Or.inr ⟨_, hresult, Or.inr rfl⟩)
  exact ⟨rfl, (hsettles _ _ "t.json" _ rfl rfl rfl).mpr hloadable⟩

/-- A list is no mapping of entries, and what is looked up in it is a fault: no definition comes of
it and no explanation, and the command on a file that holds it fails. -/
theorem loading_unexplained_list :
    ¬ ((∃ d, (Definition.rebuildText "[]").result = .ok d) ∨
      ∃ e, (Definition.rebuildText "[]").result = .error e ∧ e.Explained) ∧
    (Definition.rebuildText "[]").result =
      .error (.fault .missingAttribute "'list' object has no attribute 'get'") ∧
    (Command.perform { files := .ofList ⟨"/", ["home"]⟩ [("t.json", "[]")] }
      ⟨none, .inspect "t.json"⟩).result.toOption.bind Command.Report.failure =
        some (.fault .missingAttribute "'list' object has no attribute 'get'") := by
  have hresult : (Definition.rebuildText "[]").result =
      .error (.fault .missingAttribute "'list' object has no attribute 'get'") := rfl
  refine ⟨?_, hresult, rfl⟩
  rw [hresult]
  rintro (⟨d, hd⟩ | ⟨e, he, hexplained⟩)
  · cases hd
  · cases he
    exact not_explained_fault (by decide) _ hexplained

end Entity
