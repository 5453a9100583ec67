import Entity.Text.Normal
import Mathlib.Tactic.Common

/-!
# Normal forms that begin alike

An ASCII character is no letter with a mark and is no mark of the character before it, so that the
normal form of a text keeps it where it is.  Main statement: ASCII characters before another one
stand at the start of the normal form.
-/

namespace Entity.Text

/-! ## The tables -/

theorem le_of_mem_pairsOf {cs : List Char}
    (h : (words cs).all fun w => w.tail.all fun c => 128 ≤ c.toNat) :
    ∀ p ∈ pairsOf (String.ofList cs), 128 ≤ p.2.toNat := by
  intro p hp
  rw [pairsOf, String.toList_ofList, List.mem_filterMap] at hp
  obtain ⟨w, hw, hp⟩ := hp
  split at hp
  · cases hp
    simpa using List.all_eq_true.mp h _ hw
  · cases hp

set_option maxRecDepth 8000 in
/-- A letter with its mark is no ASCII character. -/
theorem le_whole_of_composites : ∀ row ∈ composites, ∀ p ∈ pairsOf row.2, 128 ≤ p.2.toNat := by
  unfold composites
  -- row by row, so that each text is read as the list of its characters
  repeat refine List.forall_mem_cons.mpr ⟨le_of_mem_pairsOf (by decide +kernel), ?_⟩
  nofun

/-- A mark is no ASCII character. -/
theorem le_mark_of_composites : ∀ row ∈ composites, 128 ≤ row.1 := by decide +kernel

/-! ## Characters that stay -/

section Ascii

variable {c : Char}

theorem plainForm_of_ascii (hc : c.toNat < 128) : plainForm c = [c] := if_pos hc

theorem parts?_of_ascii (hc : c.toNat < 128) : parts? c = none := by
  have hsyllable : syllableParts? c = none := by
    simp only [syllableParts?]
    rw [if_pos (Or.inl (by omega))]
  rw [parts?, hsyllable]
  refine List.findSome?_eq_none_iff.mpr fun row hrow => ?_
  rw [Option.map_eq_none_iff, List.find?_eq_none]
  intro p hp heq
  have hle := le_whole_of_composites row hrow p hp
  rw [beq_iff_eq.mp heq] at hle
  omega

theorem decomposed_of_ascii (hc : c.toNat < 128) (depth : Nat) : decomposed depth c = [c] := by
  cases depth with
  | zero => rfl
  | succ depth => rw [decomposed, parts?_of_ascii hc]

theorem markClass_of_ascii (hc : c.toNat < 128) : markClass c = 0 := by
  rw [markClass, markClasses, classIn, if_pos (by omega)]

/-- An ASCII character is no mark of the character before it. -/
theorem composed?_of_ascii (a : Char) (hc : c.toNat < 128) : composed? a c = none := by
  have hsyllable : syllable? a c = none := by
    simp only [syllable?]
    rw [if_neg (by omega), if_neg (by omega)]
  have hmarks : composites.lookup c.toNat = none := by
    rw [List.lookup_eq_none_iff]
    intro row hrow
    have hle := le_mark_of_composites row hrow
    simp only [bne_iff_ne, ne_eq]
    omega
  rw [composed?, hsyllable, hmarks]

/-! ## Normal forms -/

theorem placeMark_of_ascii (hc : c.toNat < 128) (cs : List Char) : placeMark c cs = c :: cs := by
  cases cs with
  | nil => rfl
  | cons d ds => simp [placeMark, markClass_of_ascii hc]

theorem composeFrom_cons_of_ascii (a : Char) (hc : c.toNat < 128) (cs : List Char) :
    composeFrom a [] (c :: cs) = a :: composeFrom c [] cs := by
  simp [composeFrom, composed?_of_ascii a hc, markClass_of_ascii hc]

theorem orderMarks_append_of_ascii {cs : List Char} (h : ∀ c ∈ cs, c.toNat < 128)
    (ds : List Char) : orderMarks (cs ++ ds) = cs ++ orderMarks ds := by
  induction cs with
  | nil => rfl
  | cons c cs ih =>
      have hrest := ih fun d hd => h d (List.mem_cons_of_mem c hd)
      simp only [orderMarks, List.cons_append, List.foldr_cons] at hrest ⊢
      rw [hrest, placeMark_of_ascii (h c List.mem_cons_self)]

theorem composeFrom_append_of_ascii (a : Char) {cs : List Char} (h : ∀ c ∈ cs, c.toNat < 128)
    (hc : c.toNat < 128) (ds : List Char) :
    composeFrom a [] (cs ++ c :: ds) = a :: (cs ++ composeFrom c [] ds) := by
  induction cs generalizing a with
  | nil => exact composeFrom_cons_of_ascii a hc ds
  | cons d cs ih =>
      rw [List.cons_append, composeFrom_cons_of_ascii a (h d List.mem_cons_self),
        ih d fun e he => h e (List.mem_cons_of_mem d he)]
      rfl

theorem parts_append_of_ascii {cs : List Char} (h : ∀ c ∈ cs, c.toNat < 128) (ds : List Char) :
    ((cs ++ ds).flatMap plainForm).flatMap (decomposed markLimit) =
      cs ++ (ds.flatMap plainForm).flatMap (decomposed markLimit) := by
  induction cs with
  | nil => rfl
  | cons c cs ih =>
      have hc := h c List.mem_cons_self
      rw [List.cons_append, List.flatMap_cons, plainForm_of_ascii hc, List.flatMap_append,
        ih fun d hd => h d (List.mem_cons_of_mem c hd), List.flatMap_cons,
        decomposed_of_ascii hc]
      rfl

/-- ASCII characters before another one stand at the start of the normal form. -/
theorem exists_normal_append (cs : List Char) (h : ∀ c ∈ cs, c.toNat < 128) (hc : c.toNat < 128)
    (ds : List Char) : ∃ rest, normal (cs ++ c :: ds) = cs ++ rest := by
  unfold normal
  split
  · exact ⟨c :: ds, rfl⟩
  · have hone : ∀ d ∈ [c], d.toNat < 128 := by simpa using hc
    rw [parts_append_of_ascii h, ← List.singleton_append, parts_append_of_ascii hone,
      orderMarks_append_of_ascii h, orderMarks_append_of_ascii hone, List.singleton_append]
    cases cs with
    | nil => exact ⟨_, rfl⟩
    | cons a cs =>
        refine ⟨composeFrom c [] (orderMarks ((ds.flatMap plainForm).flatMap
          (decomposed markLimit))), ?_⟩
        exact composeFrom_append_of_ascii a (fun d hd => h d (List.mem_cons_of_mem a hd)) hc _

end Ascii

end Entity.Text
