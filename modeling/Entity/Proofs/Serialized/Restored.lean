import Entity.Proofs.Cascade.Clauses
import Entity.Proofs.Lifecycle.Migration
import Entity.Proofs.Serialized.Classification

/-!
# What a rebuilt definition has

A definition is serialized, by hand or by a bind that records it, and rebuilt.  Main statements: it
comes back exactly when all its fields can be read again, and then with its metadata and the names
of its fields, without handlers.
-/

namespace Entity

open Entries Entity.Text

/-! ## Metadata -/

namespace Definition

theorem lookup_id (d : Definition) : Value.lookup d.serialize "$id" =
    ((Text.nonEmpty? d.id).map Value.text).getD .null := by
  simp [Value.lookup, serialize, get?_cons]

theorem lookup_extends (d : Definition) : Value.lookup d.serialize "$extends" =
    ((Text.nonEmpty? d.parent).map Value.text).getD .null := by
  simp [Value.lookup, serialize, get?_cons]

theorem lookup_seed (d : Definition) : Value.lookup d.serialize "$seed" = d.seed := by
  by_cases hseed : d.seed.isNull
  · have hnull : d.seed = .null := by
      cases hs : d.seed <;> simp_all [Value.isNull]
    simp [Value.lookup, serialize, get?_cons, hnull, Value.isNull]
  · simp [Value.lookup, serialize, get?_cons, hseed]

end Definition

/-- A parent that is written as a text brings no context. -/
theorem readParent_text (s : Option String) :
    readParent ((s.map Value.text).getD .null) = (s, none) := by
  cases s <;> rfl

theorem ne_empty_of_nonEmpty? {s : Option String} {t : String} (h : Text.nonEmpty? s = some t) :
    t ≠ "" := by
  rintro rfl
  obtain rfl := eq_of_nonEmpty? h
  cases h

theorem readContext_nonEmpty? (s : Option String) :
    readContext (((Text.nonEmpty? s).map Value.text).getD .null) none = .ok (Text.nonEmpty? s) := by
  cases hs : Text.nonEmpty? s with
  | none => rfl
  | some t => simp [readContext, Value.isFalsy, ne_empty_of_nonEmpty? hs, requireText?]

/-! ## Texts that cannot be read again -/

namespace Field

/-- The text that the field is read from again is a cascade whose filter compares with an integer
that is too long.  The text of a link without an operator is read behind an arrow. -/
def OverlongText (f : Field) : Prop :=
  match f.source with
  | .link => Cascade.Overlong (trimmed f.literal) ∨
      Cascade.read? (trimmed f.literal) = .ok none ∧ Cascade.Overlong ("->" ++ trimmed f.literal)
  | .input => Cascade.Overlong f.inputText
  | _ => False

/-- The field, its element or a nested field has such a text, and the text is read: the members of
an object that is read as one prompt are not. -/
inductive Overlong : Field → Prop
  | marked {f : Field} (hf : f.form = .marked) (h : f.OverlongText) : Overlong f
  | list {f i : Field} (hf : f.form = .list i) (h : Overlong i) : Overlong f
  | object {f : Field} {fs : List (String × Field)} (hf : f.form = .object fs)
      (hexposes : ¬ f.Exposes) {e : String × Field} (he : e ∈ fs) (h : Overlong e.2) : Overlong f

theorem legible_iff_of_link {f : Field} (hs : f.source = .link) :
    f.Legible ↔ ¬ f.OverlongText := by
  simp only [Legible, OverlongText, hs, result_linkText_text, not_or, not_and,
    ← Cascade.exists_read?_error_iff]
  rw [← exists_ok_iff_not_error]
  constructor
  · rintro ⟨text, c, htext, hread⟩
    obtain ⟨c₀, hc₀, rfl⟩ := map_eq_ok.mp htext
    refine ⟨⟨c₀, hc₀⟩, fun hnone => (exists_ok_iff_not_error _).mp ?_⟩
    rw [hc₀] at hnone
    cases hnone
    exact ⟨c, hread⟩
  · rintro ⟨⟨c₀, hc₀⟩, harrow⟩
    rw [hc₀] at harrow ⊢
    cases c₀ with
    | none =>
        obtain ⟨c, hc⟩ := (exists_ok_iff_not_error _).mpr (harrow rfl)
        exact ⟨_, c, rfl, hc⟩
    | some c => exact ⟨_, some c, rfl, hc₀⟩

theorem legible_iff_not_overlongText (f : Field) : f.Legible ↔ ¬ f.OverlongText := by
  cases hs : f.source with
  | link => exact legible_iff_of_link hs
  | input =>
      simp only [Legible, OverlongText, hs, ← Cascade.exists_read?_error_iff]
      exact exists_ok_iff_not_error _
  | _ => simp [Legible, OverlongText, hs]

theorem Rereads.not_overlong {f : Field} (h : f.Rereads) : ¬ f.Overlong := by
  intro hlong
  -- by induction over the place of the text
  induction hlong with
  | marked hf hlong =>
      exact (legible_iff_not_overlongText _).mp ((rereads_iff_of_marked hf).mp h) hlong
  | list hf _ ih => exact ih ((rereads_iff_of_list hf).mp h)
  | object hf hexposes he _ ih =>
      exact ih (((rereads_iff_of_object hf).mp h).resolve_left hexposes _ he)

theorem Formed.rereads_iff {f : Field} (h : f.Formed) : f.Rereads ↔ ¬ f.Overlong := by
  refine ⟨Rereads.not_overlong, fun hlong => ?_⟩
  induction h with
  | @intro f _ _ _ members _ item _ ihmembers ihitem =>
      cases hf : f.form with
      | marked =>
          refine .marked hf ((legible_iff_not_overlongText f).mpr fun htext => ?_)
          exact hlong (.marked hf htext)
      | list i =>
          obtain ⟨-, -, hi⟩ := form_eq_list.mp hf
          exact .list hf (ihitem i hi fun hlong' => hlong (.list hf hlong'))
      | object fs =>
          obtain ⟨-, -, hn⟩ := form_eq_object.mp hf
          by_cases hexposes : f.Exposes
          · exact .exposed hf hexposes
          · exact .object hf fun e he =>
              ihmembers fs hn e he fun hlong' => hlong (.object hf hexposes he hlong')

end Field

/-! ## Rebuilding -/

theorem Field.AllRead.keys_eq {raws : List (String × Value)} {fs : List (String × Field)}
    (h : Field.AllRead raws fs) : keys fs = keys raws := by
  induction h with
  | nil => rfl
  | cons he _ ih =>
      rw [keys] at ih ⊢
      rw [List.map_cons, ih, he.1]
      rfl

namespace Definition

/-- What a definition has that comes back for another: its metadata, with an empty text counting as
none, and its names of fields, but no handlers. -/
structure Restores (d d' : Definition) : Prop where
  type : d'.type = d.type
  version : d'.version = d.version
  seed : d'.seed = d.seed
  context : d'.context = Text.nonEmpty? d.context
  id : d'.id = Text.nonEmpty? d.id
  parent : d'.parent = Text.nonEmpty? d.parent
  enrichments : d'.enrichments = d.enrichments
  names : keys d'.fields = keys d.fields
  events : d'.events = []
  schedules : d'.schedules = []
  crons : d'.crons = []
  migrations : d'.migrations = []

/-- What is read from carried metadata and rebuilt fields. -/
theorem Sound.restores {d d' : Definition} (h : d.Sound) {raws : List (String × Value)}
    (hraws : Field.AllRebuilt d.fields raws)
    (hread : (Definition.read (metadataOf d.serialize ++ raws)).result = .ok d')
    (hnames : keys d'.fields = keys d.fields) : d.Restores d' := by
  obtain ⟨r, hr⟩ := exists_readFrom hread
  have hunreserved := hraws.unreserved h.fields.unreserved
  have hlookup := lookup_rebuiltRaw d hunreserved
  have htype : d'.type = d.type := by
    have hsame := hlookup "$type" (by decide)
    rw [Value.lookup, hr.type, lookup_type] at hsame
    simpa using hsame
  have hversion := hr.version
  rw [hlookup "$version" (by decide), lookup_version, readVersion,
    if_neg (by have := h.version; omega)] at hversion
  have hextends := hlookup "$extends" (by decide)
  rw [lookup_extends] at hextends
  have hcontext := hr.context
  rw [hextends, readParent_text, hlookup "$context" (by decide), lookup_context,
    readContext_nonEmpty?] at hcontext
  have henrichments := hr.enrichments
  rw [hlookup "$enrich" (by decide), lookup_enrich, readEnrichments_toValue] at henrichments
  -- metadata is passed over, and what fields are rebuilt from is no function
  have hno : ∀ e ∈ metadataOf d.serialize ++ raws, NoHandler e := by
    intro e he
    rcases List.mem_append.mp he with he | he
    · exact Or.inl (isReserved_of_mem_metadataOf d.serialize e he)
    · refine Or.inr fun f hf => ?_
      have hbuilt := hraws.built e he
      simp [hf, Value.map?, Value.items?] at hbuilt
  obtain ⟨hevents, hschedules, hcrons, hmigrations⟩ := hr.sameHandlers hno
  refine ⟨htype, (Except.ok.inj hversion).symm, ?_, (Except.ok.inj hcontext).symm, ?_, ?_,
    (Except.ok.inj henrichments).symm, hnames, hevents, hschedules, hcrons,
    hmigrations⟩
  · rw [hr.seed, hlookup "$seed" (by decide), lookup_seed]
  · rw [hr.id, hlookup "$id" (by decide), lookup_id]
    cases Text.nonEmpty? d.id <;> rfl
  · rw [hr.parent, hextends, readParent_text]

/-- What comes back for a definition restores it. -/
theorem Sound.restores_of_rebuild {d d' : Definition} (h : d.Sound)
    (hd' : (Definition.rebuild (.map d.serialize)).result = .ok d') : d.Restores d' := by
  obtain ⟨raws, hraws, hall⟩ :=
    Field.exists_allRebuilt fun e he => (h.fields.formed e he).exists_rebuilt
  obtain ⟨raws', hall', hread'⟩ := h.exists_allRead_of_rebuild hd'
  have hnames : keys d'.fields = keys d.fields := hread'.keys_eq.trans hall'.keys_eq
  simp only [Definition.rebuild, rebuiltRaw_serialize h.fields hraws hall, Outcome.result_bind,
    Outcome.result_lift] at hd'
  exact h.restores hall hd' hnames

/-- A definition is rebuilt exactly when none of its texts is too long. -/
theorem Sound.exists_rebuild_iff {d : Definition} (h : d.Sound) :
    (∃ d', (Definition.rebuild (.map d.serialize)).result = .ok d') ↔
      ∀ e ∈ d.fields, ¬ e.2.Overlong := by
  have hiff : (∀ e ∈ d.fields, e.2.Rereads) ↔ ∀ e ∈ d.fields, ¬ e.2.Overlong :=
    forall₂_congr fun e he => (h.fields.formed e he).rereads_iff
  rw [← hiff]
  constructor
  · rintro ⟨d', hd'⟩
    exact h.rereads_of_rebuild hd'
  · intro hread
    obtain ⟨-, d', -, hd', -⟩ := h.exists_allRead_rebuild hread
    exact ⟨d', hd'⟩

end Definition

/-- A bind that succeeds records the serialized definition of the runtime. -/
theorem get?_definitionKey_of_bindTo {invoke : Invoke} {i : Nat} {w w' : World}
    (hbind : Run.exec (Run.bindTo invoke i) w = (.ok (), w')) (hi : i < w'.stores.length) :
    get? Storage.definitionKey (w'.store i) = some (.map w.definition.serialize) := by
  have hrecorded : ∃ reached : World, w' = reached.binding i w.definition := by
    rw [Run.exec_bindTo_eq] at hbind
    split at hbind
    · cases hbind
    · split at hbind
      · cases hbind
      · split at hbind
        · split at hbind
          · cases hbind
            exact ⟨_, rfl⟩
          · cases hbind
        · cases hbind
          exact ⟨_, rfl⟩
  obtain ⟨reached, rfl⟩ := hrecorded
  refine (World.get?_binding ?_ w.definition).2
  have hlength : (reached.binding i w.definition).stores.length = reached.stores.length := by
    show ((reached.recording i w.definition.version).changeStore i _).stores.length = _
    rw [World.length_changeStore, World.recording, World.length_changeStore]
  rwa [← hlength]

/-- **What rebuilding accepts, and what it gives back.**  A definition that is read is rebuilt from
its serialized form exactly when no cascade text in it compares with an integer that is too long;
what is rebuilt has its metadata and the names of its fields, and no handlers.  The serialized form
is what a bind records. -/
theorem rebuild_restores {raw : Entries String Value} (hraw : (Value.map raw).WellKeyed)
    {d : Definition} (hd : (Definition.read raw).result = .ok d) :
    ((∃ d', (Definition.rebuild (.map d.serialize)).result = .ok d') ↔
      ∀ e ∈ d.fields, ¬ e.2.Overlong) ∧
    (∀ d', (Definition.rebuild (.map d.serialize)).result = .ok d' → d.Restores d') ∧
    ∀ (invoke : Invoke) (i : Nat) (w w' : World), w.definition = d →
      Run.exec (Run.bindTo invoke i) w = (.ok (), w') → i < w'.stores.length →
      get? Storage.definitionKey (w'.store i) = some (.map d.serialize) := by
  have hsound := Definition.sound_of_read hraw hd
  refine ⟨hsound.exists_rebuild_iff, fun d' hd' => hsound.restores_of_rebuild hd', ?_⟩
  rintro invoke i w w' rfl hbind hi
  exact get?_definitionKey_of_bindTo hbind hi

/-! ### A definition that comes back -/

namespace Portfolio

/-- Metadata of every kind but a context, a handler, a link and a prompt. -/
def raw : Entries String Value :=
  [("$type", .text "Portfolio"), ("$version", .int 3), ("$id", .text "main"),
    ("$extends", .text "Thing"), ("$seed", .list [.int 1]), ("$enrich", .text "->Github"),
    ("onStartupCreated", .function (.library .len)),
    ("startups", .text "->Startup[open=true]"), ("memo", .text "Memo on \x7bname\x7d")]

/-- The startups that are open. -/
def startups : Cascade where
  operator := .outgoing
  target := "Startup"
  filters := [⟨"open", .eq, .bool true⟩]

def definition : Definition where
  raw := raw
  type := "Portfolio"
  id := some "main"
  version := 3
  context := none
  parent := some "Thing"
  seed := .list [.int 1]
  enrichments := [{ resource := some "->Github" }]
  fields := [
    ("startups", {
      name := "startups"
      description := "Startup"
      source := .link
      cascade := some startups }),
    ("memo", {
      name := "memo"
      description := "Memo on \x7bname\x7d"
      source := .generate
      generation := some { prompt := "Memo on \x7bname\x7d", placeholders := ["name"] } })]
  cascades := [("startups", startups)]
  events := [("onStartupCreated", .library .len)]
  schedules := []
  crons := []
  migrations := []

theorem wellKeyed_raw : (Value.map raw).WellKeyed := by
  refine .map (by decide) ?_
  simp only [raw, List.forall_mem_cons]
  refine ⟨.leaf rfl rfl, .leaf rfl rfl, .leaf rfl rfl, .leaf rfl rfl, .list ?_, .leaf rfl rfl,
    .leaf rfl rfl, .leaf rfl rfl, .leaf rfl rfl, by simp⟩
  simp only [List.forall_mem_cons]
  exact ⟨.leaf rfl rfl, by simp⟩

theorem not_overlong : ∀ e ∈ definition.fields, ¬ e.2.Overlong := by
  simp only [definition, List.forall_mem_cons]
  refine ⟨?_, ?_, by simp⟩
  · exact Field.Rereads.not_overlong (.marked rfl ⟨_, _, rfl, rfl⟩)
  · exact Field.Rereads.not_overlong (.marked rfl trivial)

end Portfolio

/-- The general statement for a definition with metadata and a handler. -/
theorem rebuild_restores_portfolio :
    (Value.map Portfolio.raw).WellKeyed ∧
      (Definition.read Portfolio.raw).result = .ok Portfolio.definition ∧
      ∃ d', (Definition.rebuild (.map Portfolio.definition.serialize)).result = .ok d' ∧
        Portfolio.definition.Restores d' := by
  have hread : (Definition.read Portfolio.raw).result = .ok Portfolio.definition := rfl
  obtain ⟨haccepts, hrestores, -⟩ := rebuild_restores Portfolio.wellKeyed_raw hread
  obtain ⟨d', hd'⟩ := haccepts.mpr Portfolio.not_overlong
  exact ⟨Portfolio.wellKeyed_raw, hread, d', hd', hrestores d' hd'⟩

/-! ### A definition that does not come back -/

namespace Nines

/-- The text of a link with such a filter. -/
def text (n : Nat) : String := String.ofList ('-' :: '>' :: 'T' :: '[' :: (clause n ++ [']']))

theorem overlong_text {n : Nat} (h : Numeral.digitLimit < n) : Cascade.Overlong (text n) := by
  have hpos : 0 < n := by omega
  have hend : SolidEnd ('T' :: '[' :: (clause n ++ [']'])) :=
    ⟨'T' :: '[' :: clause n, ']', rfl, rfl⟩
  have hstart : SolidStart ('T' :: '[' :: (clause n ++ [']'])) := ⟨'T', _, rfl, rfl⟩
  refine ⟨[], .outgoing, 'T' :: '[' :: (clause n ++ [']']), ?_, ['T'], clause n, [], ?_,
    clause n, by simp [filterClauses_clause hpos], overlongClause h⟩
  · rw [text, String.toList_ofList, withoutRoute_arrow]
    exact splitOperator?_arrow 'T' _
  · rw [trim_of_solid hstart hend]
    have htarget : '[' ∉ ['T'] := by decide
    exact bracketed?_append htarget (by simp [clause]) (not_mem_clause n (by decide) (by decide))

/-- One digit more than an integer in a text may have. -/
def long : String := text 4301

/-- An input whose description is such a text. -/
def raw : Entries String Value :=
  [("$type", .text "T"), ("x", .map [("$input", .text "x"), ("description", .text long)])]

def definition : Definition where
  raw := raw
  type := "T"
  id := none
  version := 1
  context := none
  parent := none
  seed := .null
  enrichments := []
  fields := [("x", { name := "x", description := long, source := .input })]
  cascades := []
  events := []
  schedules := []
  crons := []
  migrations := []

theorem wellKeyed_raw : (Value.map raw).WellKeyed := by
  refine .map (by decide) ?_
  simp only [raw, List.forall_mem_cons]
  refine ⟨.leaf rfl rfl, .map (by decide) ?_, by simp⟩
  simp only [List.forall_mem_cons]
  exact ⟨.leaf rfl rfl, .leaf rfl rfl, by simp⟩

theorem read_raw : (Definition.read raw).result = .ok definition := rfl

end Nines

/-- A description that reads as a cascade with a number that is too long stops the rebuilding. -/
theorem rebuild_restores_nines : (Value.map Nines.raw).WellKeyed ∧
    (Definition.read Nines.raw).result = .ok Nines.definition ∧
    ∃ e, (Definition.rebuild (.map Nines.definition.serialize)).result = .error e := by
  have hsound := Definition.sound_of_read Nines.wellKeyed_raw Nines.read_raw
  refine ⟨Nines.wellKeyed_raw, Nines.read_raw, hsound.exists_error_rebuild fun hread => ?_⟩
  have hlong : Cascade.Overlong Nines.long := Nines.overlong_text (by decide)
  exact (hread _ (List.mem_singleton_self _)).not_overlong (.marked rfl hlong)

end Entity
