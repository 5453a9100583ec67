import Entity.Proofs.Definition.Parts
import Entity.Proofs.Field.Fault
import Entity.Proofs.Value.CallableFree

/-!
# Mappings that are no definitions

A mapping without functions is read as a definition, or it is said what is wrong with its metadata,
or the reading breaks off with a fault.  Main statements: what is wrong with a version and with
enrichments is always said; a field that is refused and a context that is no text are faults; and
reading breaks off with a fault exactly if one of these two is reached.
-/

namespace Entity

open Value

/-! ## Versions -/

/-- The value stands for a version: a positive integer, or nothing. -/
def Value.IsVersion (v : Value) : Prop := v = .null ∨ ∃ n : Int, 1 ≤ n ∧ v = .int n

theorem onlyExplained_readVersion (type : String) (v : Value) :
    OnlyExplained (readVersion type v) := by
  unfold readVersion
  split
  · exact .ok 1
  · split
    · exact .error (Or.inr rfl)
    · exact .ok _
  · exact .error (Or.inr rfl)

theorem exists_readVersion_eq_ok_iff (type : String) (v : Value) :
    (∃ n, readVersion type v = .ok n) ↔ v.IsVersion := by
  unfold Value.IsVersion
  cases v with
  | int n =>
      by_cases hn : n < 1
      · simp [readVersion, hn]
      · have hpos : 1 ≤ n := by omega
        simp [readVersion, hn, hpos]
  | _ => simp [readVersion]

/-! ## Enrichments -/

/-- The value can stand for an enrichment: a text, or a mapping with texts as its attributes and as
its parameters. -/
def Value.IsEnrichment : Value → Prop
  | .text _ => True
  | .map entries =>
    (Entries.get? "params" entries = none ∨ ∃ params, Entries.get? "params" entries =
      some (.map params) ∧ ∀ e ∈ params, e.2.Textual ∧ e.2 ≠ .null) ∧
    ∀ key ∈ ["source", "resource", "cache", "auth", "prefix"],
      (Value.lookup entries key).Textual
  | _ => False

theorem exists_requireText?_eq_ok_iff (v : Value) :
    (∃ s, requireText? v = .ok s) ↔ v.Textual := by
  rw [exists_ok_iff_not_error, exists_requireText?_error_iff, not_not]

theorem exists_requireText?_eq_some_iff (v : Value) :
    (∃ s, requireText? v = .ok (some s)) ↔ v.Textual ∧ v ≠ .null := by
  cases v with
  | bytes bs =>
      simp only [requireText?, Value.Textual]
      cases String.fromUTF8? ⟨bs.toArray⟩ <;> simp
  | _ => simp [requireText?, Value.Textual]

theorem exists_readParams_eq_ok_iff (es : Entries String Value) :
    (∃ params, readParams es = .ok params) ↔ ∀ e ∈ es, e.2.Textual ∧ e.2 ≠ .null := by
  induction es with
  | nil => simp [readParams]
  | cons e es ih =>
      rw [List.forall_mem_cons, ← exists_requireText?_eq_some_iff, ← ih, readParams]
      change (∃ params, Except.bind _ _ = _) ↔ _
      cases requireText? e.2 with
      | error err => simp [Except.bind]
      | ok s =>
          cases s with
          | none => simp [Except.bind]
          | some s =>
              cases readParams es <;> simp [Except.bind, bind, pure, Except.pure]

/-- The parameters among the attributes of an enrichment. -/
def paramsOf (entries : Entries String Value) : Except Failure (Entries String String) :=
  match Entries.get? "params" entries with
  | none => .ok []
  | some (.map params) => readParams params
  | some _ => .error invalidModel

/-- The enrichment that attributes make with some parameters. -/
def withParams (entries : Entries String Value) (params : Entries String String) :
    Except Failure Enrichment := do
  let part (key : String) := requireText? (Value.lookup entries key)
  return {
    params
    source := ← part "source"
    resource := ← part "resource"
    cache := ← part "cache"
    auth := ← part "auth"
    keyWord := ← part "prefix" }

theorem ofEntries_eq (entries : Entries String Value) :
    Enrichment.ofEntries entries = (paramsOf entries).bind (withParams entries) := by
  unfold Enrichment.ofEntries paramsOf
  cases Entries.get? "params" entries with
  | none => rfl
  | some v => cases v <;> rfl

theorem exists_paramsOf_eq_ok_iff (entries : Entries String Value) :
    (∃ params, paramsOf entries = .ok params) ↔
      Entries.get? "params" entries = none ∨ ∃ params, Entries.get? "params" entries =
        some (.map params) ∧ ∀ e ∈ params, e.2.Textual ∧ e.2 ≠ .null := by
  unfold paramsOf
  cases Entries.get? "params" entries with
  | none => simp
  | some v =>
      cases v with
      | map params => simp [exists_readParams_eq_ok_iff]
      | _ => simp

theorem exists_withParams_eq_ok_iff (entries : Entries String Value)
    (params : Entries String String) : (∃ e, withParams entries params = .ok e) ↔
      ∀ key ∈ ["source", "resource", "cache", "auth", "prefix"],
        (Value.lookup entries key).Textual := by
  simp only [← exists_requireText?_eq_ok_iff, List.forall_mem_cons, List.not_mem_nil,
    withParams, bind, pure, Except.pure, bind_eq_ok, Except.ok.injEq]
  constructor
  · rintro ⟨_, source, hsource, resource, hresource, cache, hcache, auth, hauth, word, hword, -⟩
    exact ⟨⟨_, hsource⟩, ⟨_, hresource⟩, ⟨_, hcache⟩, ⟨_, hauth⟩, ⟨_, hword⟩, nofun⟩
  · rintro ⟨⟨_, hsource⟩, ⟨_, hresource⟩, ⟨_, hcache⟩, ⟨_, hauth⟩, ⟨_, hword⟩, -⟩
    exact ⟨_, _, hsource, _, hresource, _, hcache, _, hauth, _, hword, rfl⟩

theorem exists_ofEntries_eq_ok_iff (entries : Entries String Value) :
    (∃ e, Enrichment.ofEntries entries = .ok e) ↔ (Value.map entries).IsEnrichment := by
  simp only [ofEntries_eq, bind_eq_ok, Value.IsEnrichment, ← exists_paramsOf_eq_ok_iff]
  constructor
  · rintro ⟨e, params, hparams, he⟩
    exact ⟨⟨params, hparams⟩, (exists_withParams_eq_ok_iff entries params).mp ⟨e, he⟩⟩
  · rintro ⟨⟨params, hparams⟩, h⟩
    obtain ⟨e, he⟩ := (exists_withParams_eq_ok_iff entries params).mpr h
    exact ⟨e, params, hparams, he⟩

theorem onlyExplained_read (type : String) (v : Value) :
    OnlyExplained (Enrichment.read type v) := by
  unfold Enrichment.read
  split
  · split <;> exact .ok _
  · split
    · exact .ok _
    · exact .error (Or.inr rfl)
  · exact .error (Or.inr rfl)

theorem exists_read_eq_ok_iff (type : String) (v : Value) :
    (∃ e, Enrichment.read type v = .ok e) ↔ v.IsEnrichment := by
  cases v with
  | text s =>
      simp only [Enrichment.read, Value.IsEnrichment, iff_true]
      split <;> exact ⟨_, rfl⟩
  | map entries =>
      rw [← exists_ofEntries_eq_ok_iff, Enrichment.read]
      cases Enrichment.ofEntries entries <;> simp
  | _ => simp [Enrichment.read, Value.IsEnrichment]

theorem onlyExplained_readEnrichments (type : String) (v : Value) :
    OnlyExplained (readEnrichments type v) := by
  unfold readEnrichments
  split
  · exact .ok []
  · exact .mapM fun w _ => onlyExplained_read type w

/-- The value can stand for enrichments: nothing, one of them, or a list of them. -/
def Value.IsEnrichments (v : Value) : Prop := v = .null ∨ ∀ w ∈ v.items?.getD [v], w.IsEnrichment

theorem exists_readEnrichments_eq_ok_iff (type : String) (v : Value) :
    (∃ es, readEnrichments type v = .ok es) ↔ v.IsEnrichments := by
  unfold readEnrichments Value.IsEnrichments
  split
  · simp
  · rename_i hnull
    rw [exists_ok_iff_not_error, exists_mapM_eq_error]
    simp only [← exists_read_eq_ok_iff type, exists_ok_iff_not_error]
    push Not
    have hnot : v ≠ .null := hnull
    simp [hnot]

/-! ## Contexts -/

/-- The value cannot stand for a context: it says something, but is no text. -/
def Value.NoContext (v : Value) : Prop := v.isFalsy = false ∧ ¬ v.Textual

theorem exists_readContext_error_iff (v : Value) (inherited : Option String) :
    (∃ e, readContext v inherited = .error e) ↔ v.NoContext := by
  unfold readContext Value.NoContext
  cases v.isFalsy with
  | true => simp
  | false => simpa using exists_requireText?_error_iff v

theorem onlyFaults_readContext (v : Value) (inherited : Option String) :
    OnlyFaults (readContext v inherited) := by
  unfold readContext
  split
  · exact .ok _
  · exact Field.onlyFaults_requireText? v

/-! ## Fields -/

namespace Routed

variable {type : String} {version : Int}

/-- Without functions there are no handlers, and every entry that is not reserved is a field. -/
theorem add_of_callableFree {v : Value} (hv : v.CallableFree) {key : String}
    (hkey : isReserved key = false) (r : Routed) :
    r.add type version key v = r.addField key v := by
  unfold add
  rw [if_neg (by simp [hkey])]
  cases v with
  | function f => exact absurd rfl (hv.ne_function f)
  | _ => rfl

theorem exists_add_error_iff {v : Value} (hv : v.CallableFree) (key : String) (r : Routed) :
    (∃ err, (r.add type version key v).result = .error err) ↔
      isReserved key = false ∧ v.Refused := by
  cases hkey : isReserved key with
  | true => simp [add, hkey]
  | false =>
      rw [add_of_callableFree hv hkey, addField, Outcome.result_bind, exists_bind_eq_error,
        exists_read_error_iff]
      constructor
      · rintro (h | ⟨f, -, err, hpure⟩)
        · exact ⟨rfl, h⟩
        · cases hpure
      · rintro ⟨-, h⟩
        exact Or.inl h

theorem onlyFaults_add {v : Value} (hv : v.CallableFree) (key : String) (r : Routed) :
    OnlyFaults (r.add type version key v).result := by
  cases hkey : isReserved key with
  | true =>
      unfold add
      rw [if_pos hkey]
      exact .ok r
  | false =>
      rw [add_of_callableFree hv hkey, addField, Outcome.result_bind]
      exact (Field.onlyFaults_read v key).bind fun f => .ok _

/-- The fields of a mapping are not read, if one of them is refused. -/
theorem exists_addAll_error_iff {es : Entries String Value} (h : AllFree es) (r : Routed) :
    (∃ err, (r.addAll type version es).result = .error err) ↔
      ∃ e ∈ es, isReserved e.1 = false ∧ e.2.Refused := by
  induction es generalizing r with
  | nil => simp [addAll]
  | cons e es ih =>
      rw [allFree_cons] at h
      rw [addAll, Outcome.result_bind, exists_bind_eq_error, exists_add_error_iff h.1,
        List.exists_mem_cons_iff]
      simp only [ih h.2]
      constructor
      · rintro (hfirst | ⟨r', -, hrest⟩)
        · exact Or.inl hfirst
        · exact Or.inr hrest
      · rintro (hfirst | hrest)
        · exact Or.inl hfirst
        · cases hadd : (r.add type version e.1 e.2).result with
          | error err => exact Or.inl ((exists_add_error_iff h.1 e.1 r).mp ⟨err, hadd⟩)
          -- what was routed before makes no difference to the fields that come
          | ok r' => exact Or.inr ⟨r', rfl, hrest⟩

theorem onlyFaults_addAll {es : Entries String Value} (h : AllFree es) (r : Routed) :
    OnlyFaults (r.addAll type version es).result := by
  induction es generalizing r with
  | nil => exact .ok r
  | cons e es ih =>
      rw [allFree_cons] at h
      rw [addAll, Outcome.result_bind]
      exact (onlyFaults_add h.1 e.1 r).bind fun r' => ih h.2 r'

end Routed

/-! ## Definitions -/

/-- Reading the mapping as a definition breaks off with a fault. -/
inductive Unreadable (raw : Entries String Value) : Prop
  /-- The type and the version are there, and a field is refused. -/
  | field {type : String} (htype : Entries.get? "$type" raw = some (.text type))
      (hnamed : type ≠ "") (hversion : (Value.lookup raw "$version").IsVersion)
      {e : String × Value} (he : e ∈ raw) (hkey : isReserved e.1 = false) (h : e.2.Refused) :
      Unreadable raw
  /-- What is read before the context is there, and it is no text. -/
  | context {type : String} (htype : Entries.get? "$type" raw = some (.text type))
      (hnamed : type ≠ "") (hversion : (Value.lookup raw "$version").IsVersion)
      (henrich : (Value.lookup raw "$enrich").IsEnrichments)
      (h : (Value.lookup raw "$context").NoContext) : Unreadable raw

/-- Without a type this is what is said, and nothing else is looked at. -/
theorem result_read_of_untyped {raw : Entries String Value}
    (h : ¬ ∃ type, Entries.get? "$type" raw = some (.text type) ∧ type ≠ "") :
    (Definition.read raw).result = .error (.definition .missingType none) := by
  unfold Definition.read
  cases hfound : Entries.get? "$type" raw with
  | none => rfl
  | some v =>
      cases v with
      | text type =>
          have hempty : type = "" := by
            by_contra hnamed
            exact h ⟨type, hfound, hnamed⟩
          rw [hempty]
          rfl
      | _ => rfl

/-- The stages of reading, once the type is there. -/
theorem onlyExplained_read_of_type {raw : Entries String Value} {type : String}
    (htype : Entries.get? "$type" raw = some (.text type)) (hnamed : type ≠ "") :
    OnlyExplained (Definition.read raw).result ↔
      ∀ version, readVersion type (Value.lookup raw "$version") = .ok version →
        OnlyExplained (Routed.addAll type version {} raw).result ∧
          ∀ r, (Routed.addAll type version {} raw).result = .ok r →
            ∀ es, readEnrichments type (Value.lookup raw "$enrich") = .ok es →
              OnlyExplained (readContext (Value.lookup raw "$context")
                (readParent (Value.lookup raw "$extends")).2) := by
  have hempty : ¬ type.isEmpty = true := by simpa using hnamed
  unfold Definition.read
  -- what is wrong with the version and with the enrichments is said
  simp only [htype, if_neg hempty, Outcome.result_bind, Outcome.result_pure, Outcome.result_lift,
    Outcome.result_warnAll, FailsOnly.bind_iff, FailsOnly.ok, onlyExplained_readVersion,
    onlyExplained_readEnrichments, Except.ok.injEq, forall_eq', true_and, and_true, implies_true,
    forall_const]

theorem unreadable_iff_of_type {raw : Entries String Value} {type : String}
    (htype : Entries.get? "$type" raw = some (.text type)) (hnamed : type ≠ "") :
    Unreadable raw ↔ (Value.lookup raw "$version").IsVersion ∧
      ((∃ e ∈ raw, isReserved e.1 = false ∧ e.2.Refused) ∨
        (Value.lookup raw "$enrich").IsEnrichments ∧ (Value.lookup raw "$context").NoContext) := by
  constructor
  · rintro (⟨-, -, hversion, he, hkey, h⟩ | ⟨-, -, hversion, henrich, h⟩)
    · exact ⟨hversion, Or.inl ⟨_, he, hkey, h⟩⟩
    · exact ⟨hversion, Or.inr ⟨henrich, h⟩⟩
  · rintro ⟨hversion, ⟨e, he, hkey, h⟩ | ⟨henrich, h⟩⟩
    · exact .field htype hnamed hversion he hkey h
    · exact .context htype hnamed hversion henrich h

/-- **Mappings that are no definitions.**  What is wrong with a mapping without functions is said,
unless its reading breaks off with a fault. -/
theorem onlyExplained_read_iff {raw : Entries String Value} (hraw : AllFree raw) :
    OnlyExplained (Definition.read raw).result ↔ ¬ Unreadable raw := by
  by_cases htype : ∃ type, Entries.get? "$type" raw = some (.text type) ∧ type ≠ ""
  · obtain ⟨type, htype, hnamed⟩ := htype
    rw [onlyExplained_read_of_type htype hnamed, unreadable_iff_of_type htype hnamed]
    have hfields : ∀ version, (∃ err, (Routed.addAll type version {} raw).result = .error err) ↔
        ∃ e ∈ raw, isReserved e.1 = false ∧ e.2.Refused :=
      fun version => Routed.exists_addAll_error_iff hraw {}
    have hcontext := (onlyFaults_readContext (Value.lookup raw "$context")
      (readParent (Value.lookup raw "$extends")).2).onlyExplained_iff
    rw [exists_readContext_error_iff] at hcontext
    constructor
    · rintro h ⟨hversion, hbad⟩
      obtain ⟨version, hversion⟩ := (exists_readVersion_eq_ok_iff type _).mpr hversion
      obtain ⟨hrouted, hrest⟩ := h version hversion
      rw [(Routed.onlyFaults_addAll hraw {}).onlyExplained_iff] at hrouted
      -- the context is reached only past fields that are all read
      rcases hbad with hrefused | ⟨henrich, hno⟩
      · exact hrouted ((hfields version).mpr hrefused)
      · obtain ⟨r, hr⟩ := (exists_ok_iff_not_error _).mpr hrouted
        obtain ⟨es, hes⟩ := (exists_readEnrichments_eq_ok_iff type _).mpr henrich
        exact hcontext.mp (hrest r hr es hes) hno
    · intro h version hversion
      have hversion := (exists_readVersion_eq_ok_iff type _).mp ⟨version, hversion⟩
      refine ⟨?_, fun r _ es hes => hcontext.mpr fun hno => ?_⟩
      · rw [(Routed.onlyFaults_addAll hraw {}).onlyExplained_iff, hfields]
        exact fun hrefused => h ⟨hversion, Or.inl hrefused⟩
      · have henrich := (exists_readEnrichments_eq_ok_iff type _).mp ⟨es, hes⟩
        exact h ⟨hversion, Or.inr ⟨henrich, hno⟩⟩
  · rw [result_read_of_untyped htype]
    refine iff_of_true (.error (Or.inr rfl)) ?_
    rintro (⟨hfound, hnamed, -⟩ | ⟨hfound, hnamed, -⟩)
    · exact htype ⟨_, hfound, hnamed⟩
    · exact htype ⟨_, hfound, hnamed⟩

end Entity
