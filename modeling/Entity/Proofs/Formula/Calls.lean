import Entity.Proofs.Formula.Phrases

/-!
# Calls and subscripts

How calls are read from the tokens of their arguments, and subscripts from those of their indices.
Main statements: arguments by position stand before named ones, and a comma after a single index
makes it one of several.
-/

namespace Entity.Formula

variable {ts us : List Token} {t u : Tree}

/-! ## Arguments -/

/-- An argument by position. -/
inductive IsPositional : List Token → Tree → Prop where
  | plain {ts : List Token} {t : Tree} (h : Reads 3 ts t) : IsPositional ts t
  | starred {ts : List Token} {t : Tree} (h : Reads 3 ts t) :
      IsPositional (.mark "*" :: ts) (.starred t)

/-- A named argument, or an unpacked mapping. -/
inductive IsNamed : List Token → Tree → Prop where
  | keyword {w : String} {ts : List Token} {t : Tree} (hw : keywords.contains w = false)
      (h : Reads 3 ts t) :
      IsNamed (.word w :: .mark "=" :: ts) (.keyword (Text.normalName w) t)
  | unpacked {ts : List Token} {t : Tree} (h : Reads 3 ts t) :
      IsNamed (.mark "**" :: ts) (.unpacked t)

/-- What follows an argument. -/
structure EndsArgument (rest : List Token) : Prop where
  follows : Follows 3 rest
  atClause : atClause rest = false

theorem endsArgument_moreCommas (tss : List (List Token)) (rest : List Token) :
    EndsArgument (moreCommas tss ++ .mark ")" :: rest) := by
  refine ⟨follows_moreCommas (by decide) tss (follows_cons (by decide) rest), ?_⟩
  cases tss <;> rfl

theorem IsPositional.arguments_eq (h : IsPositional ts t) {stage : ArgumentStage}
    (hstage : stage.allowsPlain = true) {n : Nat} {rest : List Token}
    (hn : 40 * ts.length + 40 ≤ n) (hrest : EndsArgument rest) :
    arguments (n + 1) stage (ts ++ rest) =
      (moreArguments n stage.next rest).map fun r => (t :: r.1, r.2.1, r.2.2) := by
  cases h with
  | plain h =>
      obtain ⟨n, rfl⟩ : ∃ k, n = k + 1 := ⟨n - 1, by omega⟩
      have hread : namedExpression (n + 1) (ts ++ rest) = some (t, rest) :=
        h.readNamed (by omega) hrest.follows
      unfold arguments
      split
      · rename_i heq
        exact absurd (h.starts.opens_le heq) (by decide)
      · rename_i heq
        exact absurd (h.starts.opens_le heq) (by decide)
      · rename_i heq
        exact absurd (h.starts.opens_le heq) (by decide)
      · rename_i heq
        cases h.starts.binds_eq_false hrest.follows heq
      · cases hmore : moreArguments (n + 1) stage.next rest <;>
          simp [hstage, hread, hrest.atClause, hmore]
  | @starred ts t h =>
      rw [List.length_cons] at hn
      have hread : expression n (ts ++ rest) = some (t, rest) :=
        h.read n rest (by omega) hrest.follows
      have hmappings : stage ≠ .mappings := by
        rintro rfl
        cases hstage
      rw [List.cons_append, arguments, if_neg hmappings, hread]
      simp only [Option.bind_eq_bind, Option.bind_some]
      cases moreArguments n stage.next rest <;> rfl

theorem IsNamed.arguments_eq (h : IsNamed ts t) (stage : ArgumentStage) {n : Nat}
    {rest : List Token} (hn : 40 * ts.length + 40 ≤ n) (hrest : EndsArgument rest) :
    ∃ stage', arguments (n + 1) stage (ts ++ rest) =
      (moreArguments n stage' rest).map fun r => (r.1, t :: r.2.1, r.2.2) := by
  cases h with
  | @keyword w ts t hw h =>
      refine ⟨stage.afterName, ?_⟩
      simp only [List.length_cons] at hn
      have hread : expression n (ts ++ rest) = some (t, rest) :=
        h.read n rest (by omega) hrest.follows
      rw [List.cons_append, List.cons_append, arguments, if_neg (by rw [hw]; decide), hread]
      simp only [Option.bind_eq_bind, Option.bind_some]
      cases moreArguments n stage.afterName rest <;> rfl
  | @unpacked ts t h =>
      refine ⟨.mappings, ?_⟩
      simp only [List.length_cons] at hn
      have hread : expression n (ts ++ rest) = some (t, rest) :=
        h.read n rest (by omega) hrest.follows
      rw [List.cons_append, arguments, hread]
      simp only [Option.bind_eq_bind, Option.bind_some]
      cases moreArguments n .mappings rest <;> rfl

theorem moreArguments_named {tss : List (List Token)} {ts' : List Tree}
    (h : List.Forall₂ IsNamed tss ts') (stage : ArgumentStage) {n : Nat} {rest : List Token}
    (hn : 40 * (moreCommas tss).length + 10 ≤ n) :
    moreArguments n stage (moreCommas tss ++ .mark ")" :: rest) = some ([], ts', rest) := by
  induction h generalizing n stage with
  | nil =>
      obtain ⟨n, rfl⟩ : ∃ k, n = k + 1 := ⟨n - 1, by omega⟩
      rfl
  | @cons ts t tss ts' hnamed _ ih =>
      simp only [moreCommas, List.length_cons, List.length_append] at hn
      obtain ⟨n, rfl⟩ : ∃ k, n = k + 2 := ⟨n - 2, by omega⟩
      obtain ⟨stage', heq⟩ := hnamed.arguments_eq stage (n := n) (by omega)
        (endsArgument_moreCommas tss rest)
      simp only [moreCommas, List.cons_append, List.append_assoc]
      rw [moreArguments, heq, ih stage' (by omega)]
      rfl

theorem moreArguments_append {pss nss : List (List Token)} {ps ks : List Tree}
    (hp : List.Forall₂ IsPositional pss ps) (hk : List.Forall₂ IsNamed nss ks)
    {stage : ArgumentStage} (hstage : stage.allowsPlain = true) {n : Nat} {rest : List Token}
    (hn : 40 * (moreCommas (pss ++ nss)).length + 10 ≤ n) :
    moreArguments n stage (moreCommas (pss ++ nss) ++ .mark ")" :: rest) = some (ps, ks, rest) := by
  induction hp generalizing n stage with
  | nil => exact moreArguments_named hk stage hn
  | @cons ts t tss ts' hpositional _ ih =>
      simp only [moreCommas, List.cons_append, List.length_cons, List.length_append] at hn
      obtain ⟨n, rfl⟩ : ∃ k, n = k + 2 := ⟨n - 2, by omega⟩
      have hnext : stage.next.allowsPlain = true := by
        revert hstage
        cases stage <;> decide
      simp only [moreCommas, List.cons_append, List.append_assoc]
      rw [moreArguments, hpositional.arguments_eq hstage (by omega) (endsArgument_moreCommas _ rest),
        ih hnext (by omega)]
      rfl

theorem arguments_append {pss nss : List (List Token)} {ps ks : List Tree}
    (hp : List.Forall₂ IsPositional pss ps) (hk : List.Forall₂ IsNamed nss ks) {n : Nat}
    {rest : List Token} (hn : 40 * (withCommas (pss ++ nss)).length + 45 ≤ n) :
    arguments n .first (withCommas (pss ++ nss) ++ .mark ")" :: rest) = some (ps, ks, rest) := by
  obtain ⟨n, rfl⟩ : ∃ k, n = k + 1 := ⟨n - 1, by omega⟩
  cases hp with
  | cons hpositional hrest =>
      simp only [withCommas, List.cons_append, List.length_append] at hn
      simp only [withCommas, List.cons_append, List.append_assoc]
      rw [hpositional.arguments_eq rfl (by omega) (endsArgument_moreCommas _ rest),
        moreArguments_append hrest hk rfl (by omega)]
      rfl
  | nil =>
      cases hk with
      | nil => rfl
      | cons hnamed hrest =>
          simp only [withCommas, List.nil_append, List.length_append] at hn
          simp only [withCommas, List.nil_append, List.append_assoc]
          obtain ⟨stage', heq⟩ := hnamed.arguments_eq .first (n := n) (by omega)
            (endsArgument_moreCommas _ rest)
          rw [heq, moreArguments_named hrest stage' (by omega)]
          rfl

theorem Leads.call (h : Leads 17 ts t) {pss nss : List (List Token)} {ps ks : List Tree}
    (hp : List.Forall₂ IsPositional pss ps) (hk : List.Forall₂ IsNamed nss ks) :
    Leads 17 (ts ++ .mark "(" :: (withCommas (pss ++ nss) ++ [.mark ")"]))
      (.call t (ps ++ ks)) := by
  refine h.trailer (.mark "(") rfl (by decide) (by decide) fun n rest hn => ?_
  simp only [List.length_cons, List.length_append, List.length_nil] at hn
  obtain ⟨n, rfl⟩ : ∃ k, n = k + 2 := ⟨n - 2, by omega⟩
  refine ⟨n + 1, by simp only [List.length_cons, List.length_append]; omega, ?_⟩
  rw [List.cons_append, List.append_assoc, List.singleton_append, trailers, callArguments,
    arguments_append hp hk (by omega)]
  rfl

/-! ## Subscripts -/

/-- A bound of a slice, or nothing. -/
inductive IsBound : List Token → Tree → Prop where
  | nothing : IsBound [] .absent
  | present {ts : List Token} {t : Tree} (h : Reads 3 ts t) : IsBound ts t

/-- What may follow a bound. -/
def boundEnds : List String := [":", ",", "]"]

theorem follows_boundEnd {m : String} (hm : m ∈ boundEnds) (rest : List Token) :
    Follows 3 (.mark m :: rest) := by
  have hall : ∀ m ∈ boundEnds, (Token.mark m).goesOn < 3 := by decide
  exact follows_cons (hall m hm) rest

theorem IsBound.read (h : IsBound ts t) {m : String} (hm : m ∈ boundEnds) {n : Nat}
    {rest : List Token} (hn : 40 * ts.length + 40 ≤ n) :
    sliceBound n (ts ++ .mark m :: rest) = some (t, .mark m :: rest) := by
  obtain ⟨n, rfl⟩ : ∃ k, n = k + 1 := ⟨n - 1, by omega⟩
  cases h with
  | nothing =>
      simp only [boundEnds, List.mem_cons, List.not_mem_nil, or_false] at hm
      rcases hm with rfl | rfl | rfl <;> rfl
  | present h =>
      have hat (m' : String) (hopens : (Token.mark m').opens = 0) :
          atMark m' (ts ++ .mark m :: rest) = false := by
        have hnone : afterMark? m' (ts ++ .mark m :: rest) = none :=
          h.starts.not_mark (by rw [hopens]; decide) _
        rw [atMark, hnone]
        rfl
      rw [sliceBound, hat ":" (by decide), hat "," (by decide), hat "]" (by decide)]
      exact h.read n _ (by omega) (follows_boundEnd hm rest)

/-- An index: an expression, the rest of a sequence, or a slice. -/
inductive IsIndex : List Token → Tree → Prop where
  | plain {ts : List Token} {t : Tree} (h : Reads 3 ts t) : IsIndex ts t
  | starred {ts : List Token} {t : Tree} (h : Reads 3 ts t) : IsIndex (.mark "*" :: ts) (.starred t)
  | slice {ts us : List Token} {t u : Tree} (hlow : IsBound ts t) (hhigh : IsBound us u) :
      IsIndex (ts ++ .mark ":" :: us) (.slice t u .absent)
  | stepped {ts us vs : List Token} {t u v : Tree} (hlow : IsBound ts t) (hhigh : IsBound us u)
      (hstep : Reads 3 vs v) :
      IsIndex (ts ++ .mark ":" :: (us ++ .mark ":" :: vs)) (.slice t u v)

/-- What may follow an index. -/
def indexEnds : List String := [",", "]"]

/-- A slice after its first colon. -/
theorem sliceAfter_append (h : IsBound us u) {n : Nat} {m : String} (hm : m ∈ indexEnds)
    {rest : List Token} (hn : 40 * us.length + 41 ≤ n) (low : Tree) :
    sliceAfter n low (us ++ .mark m :: rest) = some (.slice low u .absent, .mark m :: rest) := by
  obtain ⟨n, rfl⟩ : ∃ k, n = k + 1 := ⟨n - 1, by omega⟩
  have hends : ∀ m ∈ indexEnds, m ∈ boundEnds := by decide
  have hread : sliceBound n (us ++ .mark m :: rest) = some (u, .mark m :: rest) :=
    h.read (hends m hm) (by omega)
  simp only [indexEnds, List.mem_cons, List.not_mem_nil, or_false] at hm
  rcases hm with rfl | rfl <;>
  · rw [sliceAfter, hread]
    rfl

theorem sliceAfter_step (h : IsBound us u) {vs : List Token} {v : Tree} (h' : Reads 3 vs v) {n : Nat}
    {m : String} (hm : m ∈ indexEnds) {rest : List Token}
    (hn : 40 * us.length + 40 * vs.length + 81 ≤ n) (low : Tree) :
    sliceAfter n low (us ++ .mark ":" :: (vs ++ .mark m :: rest)) =
      some (.slice low u v, .mark m :: rest) := by
  obtain ⟨n, rfl⟩ : ∃ k, n = k + 1 := ⟨n - 1, by omega⟩
  have hends : ∀ m ∈ indexEnds, m ∈ boundEnds := by decide
  have hread : sliceBound n (us ++ .mark ":" :: (vs ++ .mark m :: rest)) = some (u, _) :=
    h.read (by decide) (by omega)
  have hstep : sliceBound n (vs ++ .mark m :: rest) = some (v, .mark m :: rest) :=
    (IsBound.present h').read (hends m hm) (by omega)
  rw [sliceAfter, hread]
  simp [hstep]

/-- A bound is read before its colon, or there is none. -/
theorem IsBound.subscriptItem_eq (h : IsBound ts t) {n : Nat} (hn : 40 * ts.length + 40 ≤ n)
    (rest : List Token) :
    subscriptItem (n + 1) (ts ++ .mark ":" :: rest) = sliceAfter n t rest := by
  cases h with
  | nothing => rfl
  | present h =>
      obtain ⟨n, rfl⟩ : ∃ k, n = k + 1 := ⟨n - 1, by omega⟩
      have hfollows : Follows 3 (.mark ":" :: rest) := follows_cons (by decide) rest
      have hread : namedExpression (n + 1) (ts ++ .mark ":" :: rest) = some (t, _) :=
        h.readNamed (by omega) hfollows
      unfold subscriptItem
      split
      · rename_i heq
        exact absurd (h.starts.opens_le heq) (by decide)
      · rename_i heq
        exact absurd (h.starts.opens_le heq) (by decide)
      · rw [hread]
        simp [h.starts.not_binding hfollows]

theorem IsIndex.read (h : IsIndex ts t) {n : Nat} {m : String} (hm : m ∈ indexEnds)
    {rest : List Token} (hn : 40 * ts.length + 50 ≤ n) :
    subscriptItem n (ts ++ .mark m :: rest) = some (t, .mark m :: rest) := by
  have hends : ∀ m ∈ indexEnds, m ∈ boundEnds := by decide
  have hfollows := follows_boundEnd (hends m hm) rest
  obtain ⟨n, rfl⟩ : ∃ k, n = k + 2 := ⟨n - 2, by omega⟩
  cases h with
  | plain h =>
      have hread : namedExpression (n + 1) (ts ++ .mark m :: rest) = some (t, _) :=
        h.readNamed (by omega) hfollows
      unfold subscriptItem
      split
      · rename_i heq
        exact absurd (h.starts.opens_le heq) (by decide)
      · rename_i heq
        exact absurd (h.starts.opens_le heq) (by decide)
      · rw [hread]
        simp only [indexEnds, List.mem_cons, List.not_mem_nil, or_false] at hm
        rcases hm with rfl | rfl <;> simp
  | @starred ts t h =>
      rw [List.length_cons] at hn
      have hread : expression (n + 1) (ts ++ .mark m :: rest) = some (t, _) :=
        h.read (n + 1) _ (by omega) hfollows
      rw [List.cons_append, subscriptItem, hread]
      rfl
  | @slice ts us t u hlow hhigh =>
      rw [List.length_append, List.length_cons] at hn
      rw [List.append_assoc, List.cons_append, hlow.subscriptItem_eq (by omega),
        sliceAfter_append hhigh hm (by omega)]
  | @stepped ts us vs t u v hlow hhigh hstep =>
      simp only [List.length_append, List.length_cons] at hn
      simp only [List.append_assoc, List.cons_append]
      rw [hlow.subscriptItem_eq (by omega), sliceAfter_step hhigh hstep hm (by omega)]

theorem IsBound.not_close (h : IsBound ts t) (rest : List Token) :
    afterMark? "]" (ts ++ .mark ":" :: rest) = none := by
  cases h with
  | nothing => rfl
  | present h => exact (Item.plain h).not_close (by decide) _

theorem IsIndex.not_close (h : IsIndex ts t) (rest : List Token) :
    afterMark? "]" (ts ++ rest) = none := by
  cases h with
  | plain h => exact (Item.plain h).not_close (by decide) rest
  | starred h => rfl
  | slice hlow hhigh =>
      rw [List.append_assoc]
      exact hlow.not_close _
  | stepped hlow hhigh hstep =>
      rw [List.append_assoc]
      exact hlow.not_close _

/-- What stands after a first index: a comma if there are others. -/
theorem subscripts_append {tss : List (List Token)} {items : List Tree} (h : IsIndex ts t)
    (hmore : List.Forall₂ IsIndex tss items) {n : Nat} {rest : List Token}
    (hn : 40 * (withCommas (ts :: tss)).length + 60 ≤ n) :
    subscripts n (withCommas (ts :: tss) ++ .mark "]" :: rest) =
      some (t :: items, !items.isEmpty, rest) := by
  induction hmore generalizing ts t n with
  | nil =>
      simp only [withCommas, moreCommas, List.append_nil] at hn ⊢
      obtain ⟨n, rfl⟩ : ∃ k, n = k + 1 := ⟨n - 1, by omega⟩
      have hread : subscriptItem n (ts ++ .mark "]" :: rest) = some (t, .mark "]" :: rest) :=
        h.read (by decide) (by omega)
      rw [subscripts, hread]
      rfl
  | @cons us u tss items hindex hmore ih =>
      simp only [withCommas, moreCommas, List.length_append, List.length_cons] at hn ih
      obtain ⟨n, rfl⟩ : ∃ k, n = k + 1 := ⟨n - 1, by omega⟩
      have hrest := ih hindex (n := n) (by omega)
      have hclose := hindex.not_close (moreCommas tss ++ .mark "]" :: rest)
      rw [← List.append_assoc] at hclose
      have hread : subscriptItem n (ts ++ .mark "," :: (us ++ moreCommas tss ++ .mark "]" :: rest)) =
          some (t, .mark "," :: (us ++ moreCommas tss ++ .mark "]" :: rest)) :=
        h.read (by decide) (by omega)
      simp only [withCommas, moreCommas]
      rw [List.append_assoc, List.cons_append, subscripts, hread]
      simp only [Option.bind_eq_bind, Option.bind_some]
      generalize us ++ moreCommas tss ++ .mark "]" :: rest = after at hclose hrest
      split
      · rename_i heq
        simp at heq
      · rename_i heq
        cases heq
        cases hclose
      · rename_i heq
        cases heq
        simp [hrest]
      · rename_i hcomma
        exact absurd rfl (hcomma _)

/-- Indices with a comma after a single one. -/
theorem subscripts_tuple {tss : List (List Token)} {items : List Tree} (h : IsIndex ts t)
    (hmore : List.Forall₂ IsIndex tss items) {n : Nat} {rest : List Token}
    (hn : 40 * (tupleTokens (ts :: tss)).length + 60 ≤ n) :
    subscripts n (tupleTokens (ts :: tss) ++ .mark "]" :: rest) = some (t :: items, true, rest) := by
  cases hmore with
  | nil =>
      simp only [tupleTokens, withCommas, List.length_append, List.length_cons] at hn
      obtain ⟨n, rfl⟩ : ∃ k, n = k + 1 := ⟨n - 1, by omega⟩
      have hread : subscriptItem n (ts ++ .mark "," :: .mark "]" :: rest) = some (t, _) :=
        h.read (by decide) (by omega)
      rw [tupleTokens, withCommas, List.append_assoc, List.singleton_append, subscripts, hread]
      rfl
  | @cons us u tss items hindex hmore =>
      have htokens : tupleTokens (ts :: us :: tss) = withCommas (ts :: us :: tss) := rfl
      rw [htokens] at hn ⊢
      exact subscripts_append h (.cons hindex hmore) hn

/-- An index on its own. -/
theorem Leads.subscript (h : Leads 17 ts t) (hindex : IsIndex us u) (hstar : ∀ v, u ≠ .starred v) :
    Leads 17 (ts ++ .mark "[" :: (us ++ [.mark "]"])) (.subscript t u) := by
  refine h.trailer (.mark "[") rfl (by decide) (by decide) fun n rest hn => ?_
  simp only [List.length_cons, List.length_append, List.length_nil] at hn
  obtain ⟨n, rfl⟩ : ∃ k, n = k + 1 := ⟨n - 1, by omega⟩
  refine ⟨n, by simp only [List.length_cons, List.length_append]; omega, ?_⟩
  have hread : subscripts n (withCommas [us] ++ .mark "]" :: rest) = some ([u], false, rest) :=
    subscripts_append hindex .nil (by
      simp only [withCommas, moreCommas, List.append_nil]
      omega)
  simp only [withCommas, moreCommas, List.append_nil] at hread
  rw [List.cons_append, List.append_assoc, List.singleton_append, trailers, hread]
  cases u with
  | starred v => exact absurd rfl (hstar v)
  | _ => rfl

/-- Indices with commas. -/
theorem Leads.subscripts (h : Leads 17 ts t) {uss : List (List Token)} {items : List Tree}
    (hindices : List.Forall₂ IsIndex (us :: uss) (u :: items)) :
    Leads 17 (ts ++ .mark "[" :: (tupleTokens (us :: uss) ++ [.mark "]"]))
      (.subscript t (.tuple (u :: items))) := by
  obtain ⟨hfirst, hmore⟩ := List.forall₂_cons.mp hindices
  refine h.trailer (.mark "[") rfl (by decide) (by decide) fun n rest hn => ?_
  simp only [List.length_cons, List.length_append, List.length_nil] at hn
  obtain ⟨n, rfl⟩ : ∃ k, n = k + 1 := ⟨n - 1, by omega⟩
  refine ⟨n, by simp only [List.length_cons, List.length_append]; omega, ?_⟩
  have hread : Formula.subscripts n (tupleTokens (us :: uss) ++ .mark "]" :: rest) =
      some (u :: items, true, rest) := subscripts_tuple hfirst hmore (by omega)
  rw [List.cons_append, List.append_assoc, List.singleton_append, trailers, hread]
  simp [tupleOrItem_comma]

end Entity.Formula
