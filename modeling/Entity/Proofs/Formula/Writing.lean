import Entity.Proofs.Formula.Operations
import Entity.Proofs.Formula.Texts

/-!
# Texts of tokens

Texts that spell tokens whose brackets are closed again are put together with the blanks, marks and
words between them.  Main statements: brackets around a text, texts with commas between them, and
operands with their operators.
-/

namespace Entity.Formula

open Entity.Text

/-! ## Marks and what follows them -/

theorem endsMark_of {m : List Char} {c : Char}
    (h : ∀ m' ∈ marks, m.isPrefixOf m' = true → (m'.drop m.length).head? ≠ some c) :
    endsMark m c = true := by
  refine List.all_eq_true.mpr fun m' hm' => ?_
  by_contra hprefix
  obtain ⟨more, rfl⟩ : m ++ [c] <+: m' := by simpa using hprefix
  refine h _ hm' ?_ ?_
  · rw [List.isPrefixOf_iff_prefix, List.append_assoc]
    exact List.prefix_append m _
  · simp

/-- Characters that make a mark longer. -/
def lengthening : List Char := ['=', '*', '/', '>', '<']

/-- A character that an expression may begin with. -/
def beginsExpression (c : Char) : Bool := beginsToken c && !lengthening.contains c

/-- Marks that stand right before an expression. -/
def leadingMarks : List (List Char) := ["~", "+", "-", "*", "**", ":", "="].map String.toList

theorem endsMark_leading {m : List Char} (hm : m ∈ leadingMarks) {c : Char}
    (hc : beginsExpression c = true) : endsMark m c = true := by
  have hall : ∀ m ∈ leadingMarks, ∀ m' ∈ marks, m.isPrefixOf m' = true →
      (m'.drop m.length).head?.all lengthening.contains = true := by decide
  refine endsMark_of fun m' hm' hprefix hhead => ?_
  have hlonger := hall m hm m' hm' hprefix
  rw [hhead] at hlonger
  simp only [Option.all_some] at hlonger
  simp only [beginsExpression, Bool.and_eq_true, Bool.not_eq_true', hlonger] at hc
  cases hc.2

/-- No mark goes on with a blank. -/
theorem endsMark_blank {m : List Char} (hm : m ∈ marks) : endsMark m ' ' = true := by
  revert hm
  revert m
  decide

/-- Marks that no mark is longer than. -/
def loneMarks : List (List Char) :=
  ["(", ")", "[", "]", "\x7b", "\x7d", ",", "..."].map String.toList

theorem endsMark_lone {m : List Char} (hm : m ∈ loneMarks) (c : Char) : endsMark m c = true := by
  have hall : ∀ m ∈ loneMarks, ∀ m' ∈ marks, m.isPrefixOf m' = true →
      (m'.drop m.length).head? = none := by decide
  refine endsMark_of fun m' hm' hprefix hhead => ?_
  rw [hall m hm m' hm' hprefix] at hhead
  cases hhead

/-! ## Texts with closed brackets -/

/-- The text spells the tokens, and their brackets are closed again. -/
structure Writes (follow : Char → Bool) (cs : List Char) (ts : List Token) : Prop where
  spells : Spells follow cs ts
  matched : Matched ts

namespace Writes

variable {follow follow' : Char → Bool} {cs ds : List Char} {ts us : List Token}

theorem mono (h : Writes follow cs ts) (hfollow : ∀ c, follow' c = true → follow c = true) :
    Writes follow' cs ts := ⟨h.spells.mono hfollow, h.matched⟩

theorem append (h : Writes follow cs ts) (h' : Writes follow' ds us) (hds : Begins follow ds) :
    Writes follow' (cs ++ ds) (ts ++ us) :=
  ⟨h.spells.append h'.spells hds, h.matched.append h'.matched⟩

theorem ne_nil (h : Writes follow cs ts) (hts : 0 < ts.length) : cs ≠ [] :=
  List.length_pos_iff.mp (hts.trans_le h.spells.length_le)

end Writes

theorem begins_of_ne_nil {cs : List Char} (h : cs ≠ []) : Begins (fun _ => true) cs := by
  obtain ⟨c, rest, rfl⟩ := List.exists_cons_of_ne_nil h
  exact ⟨c, rest, rfl, rfl⟩

theorem writes_nil (follow : Char → Bool) : Writes follow [] [] where
  spells := {
    length_le := Nat.le_refl 0
    quiet := nofun
    tokensFrom_append := by
      rintro n levels opened _ rest - ⟨⟩
      rfl
    bad_mem := nofun }
  matched := .nil

namespace Writes

variable {follow : Char → Bool} {cs ds : List Char} {ts us : List Token}

theorem cons_blank (h : Writes follow cs ts) (hcs : cs ≠ []) : Writes follow (' ' :: cs) ts :=
  append ⟨spells_blank, .nil⟩ h (begins_of_ne_nil hcs)

/-- Two texts with a blank between them. -/
theorem spaced (h : Writes closes cs ts) (h' : Writes follow ds us) (hds : ds ≠ []) :
    Writes follow (cs ++ ' ' :: ds) (ts ++ us) :=
  h.append (h'.cons_blank hds) (begins_cons (by decide) ds)

end Writes

/-! ## Words and marks -/

theorem writes_word {w : String} (h : isPlainWord w.toList = true) :
    Writes endsWord w.toList [.word w] := by
  have hspells := spells_word h
  rw [String.ofList_toList] at hspells
  exact ⟨hspells, .word w⟩

theorem closes_endsWord {c : Char} (h : closes c = true) : endsWord c = true :=
  forall_closes (by decide) h

/-- The mark is one, and no bracket. -/
def isPlainMark (m : String) : Bool :=
  marks.contains m.toList && !(["(", "[", "\x7b", ")", "]", "\x7d"].contains m)

theorem writes_mark {m : String} (hm : isPlainMark m = true) {follow : Char → Bool}
    (hfollow : ∀ c, follow c = true → endsMark m.toList c = true)
    (hpoint : m = "." → ∀ c, follow c = true → c.isDigit = false) :
    Writes follow m.toList [.mark m] := by
  simp only [isPlainMark, Bool.and_eq_true, List.contains_iff_mem, Bool.not_eq_true']
    at hm
  have hspells := spells_mark hm.1 hfollow fun h => hpoint (by
    rw [← @String.ofList_toList m, h])
  rw [String.ofList_toList] at hspells
  exact ⟨hspells, .mark (by simpa using hm.2)⟩

namespace Writes

variable {follow : Char → Bool} {cs : List Char} {ts : List Token}

/-- A word and a blank before a text. -/
theorem after_word {w : String} (hw : isPlainWord w.toList = true) (h : Writes follow cs ts)
    (hcs : cs ≠ []) : Writes follow (w.toList ++ ' ' :: cs) (.word w :: ts) :=
  (writes_word hw).append (h.cons_blank hcs) (begins_cons (by decide) cs)

/-- A mark and a blank before a text. -/
theorem after_mark {m : String} (hm : isPlainMark m = true) (h : Writes follow cs ts)
    (hcs : cs ≠ []) : Writes follow (m.toList ++ ' ' :: cs) (.mark m :: ts) := by
  have hmem : m.toList ∈ marks := by
    simp only [isPlainMark, Bool.and_eq_true, List.contains_iff_mem] at hm
    exact hm.1
  have hmark : Writes (· == ' ') m.toList [.mark m] := by
    refine writes_mark hm (fun c hc => ?_) fun _ c hc => ?_
    · rw [beq_iff_eq.mp hc]
      exact endsMark_blank hmem
    · rw [beq_iff_eq.mp hc]
      rfl
  exact append hmark (h.cons_blank hcs) (begins_cons (by decide) cs)

/-- A mark right before an expression. -/
theorem after_leading {m : String} (hm : m.toList ∈ leadingMarks) (h : Writes follow cs ts)
    (hcs : Begins beginsExpression cs) : Writes follow (m.toList ++ cs) (.mark m :: ts) := by
  have hall : ∀ m ∈ leadingMarks, isPlainMark (String.ofList m) = true ∧ m ≠ ['.'] := by decide
  have hplain := hall _ hm
  rw [String.ofList_toList] at hplain
  refine append (writes_mark hplain.1 (fun c hc => endsMark_leading hm hc) fun hpoint => ?_) h hcs
  subst hpoint
  exact absurd rfl hplain.2

/-- Brackets around a text. -/
theorem brackets {o c : Char} (hpair : (o, c) ∈ bracketPairs) (h : Writes closes cs ts) :
    Writes (fun _ => true) (o :: (cs ++ [c]))
      (.mark (String.ofList [o]) :: (ts ++ [.mark (String.ofList [c])])) := by
  have hall : ∀ p ∈ bracketPairs, [p.1] ∈ marks ∧ [p.2] ∈ marks ∧ [p.1] ∈ loneMarks ∧
      [p.2] ∈ loneMarks ∧ closes p.2 = true ∧ p.1 ≠ '.' ∧ p.2 ≠ '.' := by decide
  obtain ⟨hopen, hclose, hlone, hlone', hcloses, hpoint, hpoint'⟩ := hall _ hpair
  have hfirst : Spells (fun _ => true) [o] [.mark (String.ofList [o])] :=
    spells_mark hopen (fun c _ => endsMark_lone hlone c) fun h => absurd (List.cons.inj h).1 hpoint
  have hlast : Spells (fun _ => true) [c] [.mark (String.ofList [c])] :=
    spells_mark hclose (fun c _ => endsMark_lone hlone' c)
      fun h => absurd (List.cons.inj h).1 hpoint'
  exact ⟨hfirst.append (h.spells.append hlast (begins_cons hcloses [])) (begins_of_ne_nil (by simp)),
    .brackets hpair h.matched⟩

end Writes

/-! ## Texts with commas -/

theorem writes_comma (follow : Char → Bool) : Writes follow [','] [.mark ","] :=
  writes_mark (m := ",") (by decide) (fun c _ => endsMark_lone (by decide) c)
    fun h => absurd h (by decide)

theorem Writes.after_comma {follow : Char → Bool} {cs : List Char} {ts : List Token}
    (h : Writes follow cs ts) (hcs : cs ≠ []) :
    Writes follow (',' :: ' ' :: cs) (.mark "," :: ts) :=
  (writes_comma (fun _ => true)).append (h.cons_blank hcs) (begins_of_ne_nil nofun)

theorem joinWith_ne_nil {sep cs : List Char} (css : List (List Char)) (h : cs ≠ []) :
    joinWith sep (cs :: css) ≠ [] := by
  cases css <;> simp [joinWith, h]

theorem writes_joinWith {css : List (List Char)} {tss : List (List Token)}
    (h : List.Forall₂ (Writes closes) css tss) (hne : ∀ cs ∈ css, cs ≠ []) :
    Writes closes (joinWith ", ".toList css) (withCommas tss) := by
  induction h with
  | nil => exact writes_nil closes
  | @cons cs ts css tss hwrites hmore ih =>
      cases hmore with
      | nil => simpa [joinWith, withCommas, moreCommas] using hwrites
      | @cons ds us css tss hwrites' hmore =>
          obtain ⟨-, hrest⟩ := List.forall_mem_cons.mp hne
          have hds : joinWith ", ".toList (ds :: css) ≠ [] :=
            joinWith_ne_nil css (hrest ds List.mem_cons_self)
          rw [joinWith_cons _ _ (List.cons_ne_nil _ _), List.append_assoc]
          exact hwrites.append ((ih hrest).after_comma hds) (begins_cons (by decide) _)

theorem writes_tupleItems {css : List (List Char)} {tss : List (List Token)}
    (h : List.Forall₂ (Writes closes) css tss) (hne : ∀ cs ∈ css, cs ≠ []) :
    Writes closes (tupleItems css) (tupleTokens tss) := by
  cases h with
  | nil => exact writes_nil closes
  | cons hwrites hmore =>
      cases hmore with
      | nil => exact hwrites.append (writes_comma closes) (begins_cons (by decide) [])
      | cons hwrites' hmore => exact writes_joinWith (.cons hwrites (.cons hwrites' hmore)) hne

/-! ## Operands -/

theorem writes_joinWord {w : String} (hw : isPlainWord w.toList = true) {cs : List Char}
    {ts : List Token} {css : List (List Char)} {tss : List (List Token)} (h : Writes closes cs ts)
    (hmore : List.Forall₂ (Writes closes) css tss) (hne : ∀ cs ∈ css, cs ≠ []) :
    Writes closes (joinWith (' ' :: (w.toList ++ [' '])) (cs :: css)) (ts ++ withWord w tss) := by
  induction hmore generalizing cs ts with
  | nil => simpa [joinWith, withWord] using h
  | @cons ds us css tss hwrites hmore ih =>
      obtain ⟨hds, hrest⟩ := List.forall_mem_cons.mp hne
      have hjoined := (ih hwrites hrest).after_word hw (joinWith_ne_nil css hds)
      rw [joinWith_cons _ _ (List.cons_ne_nil _ _), withWord_cons, List.append_assoc, List.cons_append,
        List.append_assoc, List.singleton_append]
      exact h.spaced hjoined (by simp)

/-- A comparison and a blank before a text. -/
theorem Writes.after_comparison (op : ComparisonOperator) {cs : List Char} {ts : List Token}
    (h : Writes closes cs ts) (hcs : cs ≠ []) :
    Writes closes (op.mark.toList ++ ' ' :: cs) (op.tokens ++ ts) := by
  cases op with
  | is | isIn => exact h.after_word (by decide) hcs
  | isNot =>
      exact (h.after_word (w := "not") (by decide) hcs).after_word (w := "is") (by decide) nofun
  | notIn =>
      exact (h.after_word (w := "in") (by decide) hcs).after_word (w := "not") (by decide) nofun
  | _ => exact h.after_mark (by decide) hcs

theorem writes_interleave {ops : List ComparisonOperator} {cs : List Char} {ts : List Token}
    {css : List (List Char)} {tss : List (List Token)} (h : Writes closes cs ts)
    (hmore : List.Forall₂ (Writes closes) css tss) (hne : ∀ cs ∈ css, cs ≠ [])
    (hlength : ops.length = css.length) :
    Writes closes (interleave (ops.map fun op => op.mark.toList) (cs :: css))
      (ts ++ withComparisons (ops.zip tss)) := by
  induction hmore generalizing cs ts ops with
  | nil =>
      obtain rfl := List.length_eq_zero_iff.mp hlength
      simpa [interleave, withComparisons] using h
  | @cons ds us css tss hwrites hmore ih =>
      obtain ⟨op, ops, rfl⟩ := List.exists_cons_of_length_eq_add_one hlength
      obtain ⟨hds, hrest⟩ := List.forall_mem_cons.mp hne
      have hlater := ih hwrites hrest (by simpa using hlength)
      have hlaterne : interleave (ops.map fun op => op.mark.toList) (ds :: css) ≠ [] := by
        cases ops <;> simp [interleave, hds]
      have htokens : withComparisons ((op :: ops).zip (us :: tss)) =
          op.tokens ++ (us ++ withComparisons (ops.zip tss)) := by simp [withComparisons]
      rw [htokens, List.map_cons, interleave]
      exact h.spaced (hlater.after_comparison op hlaterne) (by simp)

end Entity.Formula
