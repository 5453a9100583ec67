import Entity.Proofs.Query.History
import Entity.Proofs.Text.Ends
import Mathlib.Data.List.DropRight
import Mathlib.Tactic.Common

/-!
# Identities that stand for themselves

A relative identity is resolved against the base of a graph, and the instance is kept under what
results.  That this result stands for itself hangs on the base: an address begins like an absolute
identity, and what is made with it does so too.  A base that is taken from a host is made an
address; one that is given in another way is taken as it stands.  Main statements: when resolving
twice is resolving once, and that a stored identity leads back to its instance in just these cases.
-/

namespace Entity

open Entity.Text

/-! ## Bases that settle identities -/

/-- What is made absolute with the base stands for itself: the base begins like an absolute
identity, or there is nothing in it but slashes. -/
def Settles (base : String) : Prop := isAbsolute base = true ∨ ∀ c ∈ base.toList, c = '/'

theorem isAbsolute_iff {s : String} : isAbsolute s = true ↔ "http".toList <+: s.toList :=
  beginsWith_iff

theorem toList_withoutFinalSlashes (s : String) :
    (withoutFinalSlashes s).toList = dropEndWhile (· == '/') s.toList := by
  rw [withoutFinalSlashes, String.toList_ofList]

/-- Slashes at the end do not count for what a base begins with. -/
theorem isAbsolute_withoutFinalSlashes (s : String) :
    isAbsolute (withoutFinalSlashes s) = true ↔ isAbsolute s = true := by
  rw [isAbsolute_iff, isAbsolute_iff, toList_withoutFinalSlashes, dropEndWhile_eq_rdropWhile]
  have hs : s.toList.rdropWhile (· == '/') ++ s.toList.rtakeWhile (· == '/') = s.toList :=
    List.rdropWhile_append_rtakeWhile
  conv_rhs => rw [← hs]
  cases hdropped : s.toList.rtakeWhile (· == '/') with
  | nil => rw [List.append_nil]
  | cons c dropped =>
      have hc : c ∈ s.toList.rtakeWhile (· == '/') := by simp [hdropped]
      have hslash := List.mem_rtakeWhile_imp (p := (· == '/')) hc
      obtain rfl := eq_of_beq hslash
      exact (prefix_append_cons_iff (by decide) _ _).symm

theorem rdropWhile_slash_eq_nil_iff {cs : List Char} :
    cs.rdropWhile (· == '/') = [] ↔ ∀ c ∈ cs, c = '/' := by
  rw [List.rdropWhile_eq_nil_iff]
  simp

theorem settles_withoutFinalSlashes (s : String) :
    Settles (withoutFinalSlashes s) ↔ Settles s := by
  refine or_congr (isAbsolute_withoutFinalSlashes s) ?_
  rw [toList_withoutFinalSlashes, dropEndWhile_eq_rdropWhile, ← rdropWhile_slash_eq_nil_iff,
    ← rdropWhile_slash_eq_nil_iff, List.rdropWhile_idempotent]

/-! ## Resolving twice -/

variable {base id : String}

theorem resolveIdentity_of_isAbsolute (base : String) (h : isAbsolute id = true) :
    resolveIdentity base id = id := by
  rw [resolveIdentity, if_pos h]

theorem toList_resolveIdentity (base : String) (h : ¬ isAbsolute id = true) :
    (resolveIdentity base id).toList =
      base.toList.rdropWhile (· == '/') ++ '/' :: id.toList.dropWhile (· == '/') := by
  rw [resolveIdentity, if_neg h, String.toList_append, String.toList_append,
    toList_withoutFinalSlashes, dropEndWhile_eq_rdropWhile, String.toList_ofList]
  simp

/-- A relative identity becomes absolute exactly if the base begins like an absolute one. -/
theorem isAbsolute_resolveIdentity (base : String) (h : ¬ isAbsolute id = true) :
    isAbsolute (resolveIdentity base id) = true ↔ isAbsolute base = true := by
  rw [isAbsolute_iff, toList_resolveIdentity base h, prefix_append_cons_iff (by decide),
    ← dropEndWhile_eq_rdropWhile, ← toList_withoutFinalSlashes, ← isAbsolute_iff,
    isAbsolute_withoutFinalSlashes]

/-- What is dropped at the start of a text ends before the first character that is kept. -/
theorem length_lt_dropWhile (p : Char → Bool) {c : Char} (hc : p c = false)
    (cs rest : List Char) : rest.length < ((cs ++ c :: rest).dropWhile p).length := by
  induction cs with
  | nil => simp [hc]
  | cons a cs ih =>
      rw [List.cons_append, List.dropWhile_cons]
      split
      · exact ih
      · simp only [List.length_cons, List.length_append]
        omega

/-- **Resolving twice is resolving once** for what is absolute, and for everything on a base that
settles identities; on any other base it never is. -/
theorem resolveIdentity_twice_iff (base id : String) :
    resolveIdentity base (resolveIdentity base id) = resolveIdentity base id ↔
      isAbsolute id = true ∨ Settles base := by
  by_cases hid : isAbsolute id = true
  · rw [resolveIdentity_of_isAbsolute base hid, resolveIdentity_of_isAbsolute base hid]
    exact iff_of_true rfl (Or.inl hid)
  · by_cases hbase : isAbsolute base = true
    · have habsolute := (isAbsolute_resolveIdentity base hid).mpr hbase
      exact iff_of_true (resolveIdentity_of_isAbsolute base habsolute) (Or.inr (Or.inl hbase))
    · have hrelative : ¬ isAbsolute (resolveIdentity base id) = true := by
        rw [isAbsolute_resolveIdentity base hid]
        exact hbase
      -- both sides begin with the base and a slash; what differs is what the second time adds
      rw [← String.toList_inj, toList_resolveIdentity base hrelative,
        toList_resolveIdentity base hid, List.append_cancel_left_eq, List.cons.injEq]
      by_cases hnil : base.toList.rdropWhile (· == '/') = []
      · refine iff_of_true ⟨rfl, ?_⟩ (Or.inr (Or.inr (rdropWhile_slash_eq_nil_iff.mp hnil)))
        rw [hnil, List.nil_append, List.dropWhile_cons, if_pos (by decide),
          List.dropWhile_idempotent]
      · refine iff_of_false ?_ ?_
        · rintro ⟨-, hrest⟩
          -- the last character of the base is no slash, so nothing behind it is dropped
          have hlast := List.rdropWhile_last_not _ _ hnil
          have hlt := length_lt_dropWhile (· == '/') (eq_false_of_ne_true hlast)
            (base.toList.rdropWhile (· == '/')).dropLast
            ('/' :: id.toList.dropWhile (· == '/'))
          rw [List.append_cons, List.dropLast_append_getLast, hrest, List.length_cons] at hlt
          omega
        · rintro (h | h | h)
          · exact hid h
          · exact hbase h
          · exact hnil (rdropWhile_slash_eq_nil_iff.mpr h)

/-! ## Where a base comes from -/

/-- The first variable of the environment that has a text, with the text. -/
def environmentText? (environment : List (String × String)) : Option (BaseVariable × String) :=
  baseVariables.findSome? fun v =>
    (nonEmpty? (environment.lookup v.name)).map fun value => (v, value)

/-- The text that the base is taken from as it stands; a host is not, it is made an address. -/
def BaseSources.verbatim? (b : BaseSources) : Option String :=
  match nonEmpty? b.override, nonEmpty? b.host, environmentText? b.environment with
  | some text, _, _ => some text
  | none, some _, _ => none
  | none, none, some (v, text) => if v.isHost then none else some text
  | none, none, none => nonEmpty? b.configured

/-- A base that is taken as it stands settles identities. -/
def BaseSources.Settled (b : BaseSources) : Prop :=
  ∀ text, b.verbatim? = some text → Settles text

theorem environmentBase?_eq (environment : List (String × String)) :
    environmentBase? environment = (environmentText? environment).map fun (v, value) =>
      if v.isHost then addressOfHost value else withoutFinalSlashes value := by
  rw [environmentBase?, environmentText?, List.map_findSome?]
  congr 1
  funext v
  rw [Function.comp_apply, Option.map_map]
  rfl

/-- A host is made an address. -/
theorem isAbsolute_addressOfHost (host : String) : isAbsolute (addressOfHost host) = true := by
  have hplain : "http".toList <+: "http://".toList := ⟨"://".toList, rfl⟩
  have hsecure : "http".toList <+: "https://".toList := ⟨"s://".toList, rfl⟩
  rw [addressOfHost, isAbsolute_iff]
  split
  · rename_i hscheme
    have hkept : (String.ofList (dropEndWhile (· == '/') (trim host.toList))).toList =
        dropEndWhile (· == '/') (trim host.toList) := String.toList_ofList
    rw [hkept]
    rcases Bool.or_eq_true_iff.mp hscheme with h | h
    · exact hplain.trans (beginsWith_iff.mp h)
    · exact hsecure.trans (beginsWith_iff.mp h)
  · rw [String.toList_append]
    exact hsecure.trans (List.prefix_append _ _)

/-- Whether a base settles identities is told by its source. -/
theorem BaseSources.settles_resolve_iff (b : BaseSources) : Settles b.resolve ↔ b.Settled := by
  have habsolute : ∀ {base : String}, isAbsolute base = true → (Settles base ↔ True) :=
    fun h => iff_true_intro (Or.inl h)
  unfold Settled verbatim? resolve
  cases nonEmpty? b.override with
  | some text => simp [settles_withoutFinalSlashes]
  | none =>
      cases nonEmpty? b.host with
      | some host => simp [habsolute (isAbsolute_addressOfHost host)]
      | none =>
          rw [environmentBase?_eq]
          rcases environmentText? b.environment with _ | ⟨v, text⟩
          · cases nonEmpty? b.configured with
            | some text => simp [settles_withoutFinalSlashes]
            | none =>
                have hfallback : isAbsolute fallbackBase = true := by decide
                simp [habsolute hfallback]
          · cases hhost : v.isHost with
            | true => simp [hhost, habsolute (isAbsolute_addressOfHost text)]
            | false => simp [hhost, settles_withoutFinalSlashes]

/-! ## Stored identities -/

/-- **A stored identity stands for itself and leads to its instance** if it was registered as
absolute, or the base settles identities; otherwise it leads elsewhere.  The identity under which an
instance was registered leads to it in any case. -/
theorem stored_identity_stable_iff {b : BaseSources} {vs : List Value} {s : Session}
    (hs : ({ base := b.resolve } : Graph).addAll vs = .ok s.sources.graph) (es : List Edit)
    {v : Value} {i : Instance} (hv : Instance.ofValue v = .ok i) :
    ∃ x s', Query.run (Query.register v) (s.after es) = ([], .ok x, s') ∧
      s'.sources.graph.get i.id = .ok x ∧
      (s'.sources.graph.resolve x.id = x.id ↔ isAbsolute i.id = true ∨ b.Settled) ∧
      (s'.sources.graph.get x.id = .ok x ↔ isAbsolute i.id = true ∨ b.Settled) ∧
      ∀ id, s'.sources.graph.resolve (s'.sources.graph.resolve id) = s'.sources.graph.resolve id ↔
        isAbsolute id = true ∨ b.Settled := by
  obtain ⟨hbase, hreflects⟩ := Session.reflects_after hs es
  have hadded := hreflects.add hv
  have hrun := Query.run_register v (s.after es)
  rw [hv] at hrun
  refine ⟨_, _, hrun, ?_⟩
  dsimp only
  generalize hg : (s.after es).sources.graph = g at hbase hadded
  have htwice : ∀ id, (g.add i).resolve ((g.add i).resolve id) = (g.add i).resolve id ↔
      isAbsolute id = true ∨ b.Settled := by
    intro id
    show resolveIdentity g.base (resolveIdentity g.base id) = resolveIdentity g.base id ↔ _
    rw [hbase, resolveIdentity_twice_iff, b.settles_resolve_iff]
  have hfound : ∀ id, (g.add i).find? id =
      if g.resolve i.id = g.resolve id then some (g.adopted i) else g.find? id := g.find?_add i
  have hget : ∀ id, (g.add i).get id = .ok (g.adopted i) ↔
      (g.add i).find? id = some (g.adopted i) := by
    intro id
    rw [Graph.get]
    cases (g.add i).find? id <;> simp
  refine ⟨?_, htwice i.id, ?_, htwice⟩
  · rw [hget, hfound, if_pos rfl]
  · rw [hget, ← htwice i.id]
    constructor
    · intro h
      exact (hadded.keyed _ _ h).symm
    · intro h
      rw [hfound]
      exact if_pos h.symm

/-! ### A host and a bare name -/

namespace Startups

/-- A base that is taken from the host of a deployment. -/
def deployed : BaseSources :=
  { environment := [("WORKER_HOST", "worker.do"), ("VERCEL_URL", "startups.do/")] }

/-- A base that is given without a scheme. -/
def bare : BaseSources := { override := some "startups.do" }

/-- A session without instances, on a base. -/
def opened (b : BaseSources) : Session := ⟨⟨{ base := b.resolve }, []⟩, []⟩

/-- A startup with a relative identity. -/
def acme : Instance := ⟨"acme", "Startup", 1, [], none⟩

end Startups

/-- The general statement for a base from a host: the stored identity leads to the instance. -/
theorem stored_identity_stable_deployed :
    ({ base := Startups.deployed.resolve } : Graph).addAll [] =
        .ok (Startups.opened Startups.deployed).sources.graph ∧
      Instance.ofValue Startups.acme.toValue = .ok Startups.acme ∧
      ∃ x s', Query.run (Query.register Startups.acme.toValue)
          (Startups.opened Startups.deployed) = ([], .ok x, s') ∧
        x.id = "https://startups.do/acme" ∧ s'.sources.graph.resolve x.id = x.id ∧
        s'.sources.graph.get x.id = .ok x ∧ s'.sources.graph.get "acme" = .ok x := by
  have hmade : ({ base := Startups.deployed.resolve } : Graph).addAll [] =
      .ok (Startups.opened Startups.deployed).sources.graph := rfl
  have hvalue : Instance.ofValue Startups.acme.toValue = .ok Startups.acme := rfl
  have hsettled : Startups.deployed.Settled := by
    intro text htext
    cases htext
  obtain ⟨x, s', hrun, hget, hresolve, hstored, -⟩ := stored_identity_stable_iff hmade [] hvalue
  refine ⟨hmade, hvalue, x, s', hrun, ?_, hresolve.mpr (Or.inr hsettled),
    hstored.mpr (Or.inr hsettled), hget⟩
  cases hrun
  rfl

/-- On a base that is given without a scheme the stored identity leads nowhere. -/
theorem stored_identity_lost_bare : ∃ x s',
    Query.run (Query.register Startups.acme.toValue) (Startups.opened Startups.bare) =
        ([], .ok x, s') ∧
      s'.sources.graph.resolve x.id ≠ x.id ∧
      s'.sources.graph.get x.id =
        .error (.notFound .entity "startups.do/startups.do/acme" none) := by
  refine ⟨_, _, rfl, ?_, rfl⟩
  decide

end Entity
