import Entity.Proofs.Cascade.Clauses
import Entity.Proofs.Field.Payload

/-!
# The normal form of enumerations

An enumeration is written with a bar between two alternatives, and with blanks around each or not.
Main statement: a text is read as alternatives exactly if it writes them in this way, and of all
texts that do so the one that joins them with a blank on both sides of each bar is the normal form,
which reads back as the same alternatives.
-/

namespace Entity

namespace Text

/-! ## Blanks around a text -/

/-- The text stands in the piece with nothing but blanks around it. -/
def Pads (piece cs : List Char) : Prop :=
  ∃ before after, (∀ c ∈ before, isBlank c = true) ∧ (∀ c ∈ after, isBlank c = true) ∧
    piece = before ++ cs ++ after

theorem Pads.refl (cs : List Char) : Pads cs cs :=
  ⟨[], [], by simp, by simp, by simp⟩

theorem Pads.append_blank {piece cs : List Char} (h : Pads piece cs) :
    Pads (piece ++ [' ']) cs := by
  obtain ⟨before, after, hbefore, hafter, rfl⟩ := h
  refine ⟨before, after ++ [' '], hbefore, ?_, by simp⟩
  intro c hc
  rcases List.mem_append.mp hc with hc | hc
  · exact hafter c hc
  · rw [List.mem_singleton.mp hc]
    rfl

theorem Pads.cons_blank {piece cs : List Char} (h : Pads piece cs) : Pads (' ' :: piece) cs := by
  obtain ⟨before, after, hbefore, hafter, rfl⟩ := h
  refine ⟨' ' :: before, after, ?_, hafter, by simp⟩
  rw [List.forall_mem_cons]
  exact ⟨rfl, hbefore⟩

/-- A character that is no blank stands in the text if it stands in the piece. -/
theorem Pads.not_mem {piece cs : List Char} (h : Pads piece cs) {c : Char}
    (hc : isBlank c = false) (hcs : c ∉ cs) : c ∉ piece := by
  obtain ⟨before, after, hbefore, hafter, rfl⟩ := h
  have hsolid : ∀ ds : List Char, (∀ d ∈ ds, isBlank d = true) → c ∉ ds := by
    intro ds hds hmem
    rw [hds c hmem] at hc
    cases hc
  simp only [List.mem_append, not_or]
  exact ⟨⟨hsolid before hbefore, hcs⟩, hsolid after hafter⟩

/-- Trimming leaves what stands between the blanks. -/
theorem pads_trim (piece : List Char) : Pads piece (trim piece) := by
  refine ⟨piece.takeWhile isBlank, ((trimStart piece).reverse.takeWhile isBlank).reverse,
    ?_, ?_, ?_⟩
  · intro c hc
    exact List.mem_takeWhile_imp hc
  · intro c hc
    exact List.mem_takeWhile_imp (List.mem_reverse.mp hc)
  · have hend : trim piece ++ ((trimStart piece).reverse.takeWhile isBlank).reverse =
        trimStart piece := by
      rw [trim, trimEnd, dropEndWhile, ← List.reverse_append, List.takeWhile_append_dropWhile,
        List.reverse_reverse]
    rw [List.append_assoc, hend, trimStart, List.takeWhile_append_dropWhile]

theorem trim_append_blanks {blanks : List Char} (h : ∀ c ∈ blanks, isBlank c = true)
    {cs : List Char} (hs : SolidStart cs) (he : SolidEnd cs) : trim (cs ++ blanks) = cs := by
  have hdrop : (cs ++ blanks).reverse.dropWhile isBlank = cs.reverse.dropWhile isBlank := by
    rw [List.reverse_append]
    exact List.dropWhile_append_of_pos fun c hc => h c (List.mem_reverse.mp hc)
  have hend : trimEnd (cs ++ blanks) = trimEnd cs := by
    rw [trimEnd, dropEndWhile, hdrop]
    rfl
  rw [trim, trimStart_of_solid (hs.append blanks), hend, trimEnd_of_solid he]

/-- A solid text is what trimming leaves of each piece in which it stands. -/
theorem Pads.trim_eq {piece cs : List Char} (h : Pads piece cs) (hs : SolidStart cs)
    (he : SolidEnd cs) : trim piece = cs := by
  obtain ⟨before, after, hbefore, hafter, rfl⟩ := h
  rw [List.append_assoc, trim_append_of_blank hbefore, trim_append_blanks hafter hs he]

end Text

open Entity.Text

/-! ## Writing alternatives -/

/-- The text writes the alternatives in order, with a bar between two of them and blanks around each
or not. -/
def Spells (text : String) (values : List String) : Prop :=
  ∃ pieces, List.Forall₂ (fun piece v => Pads piece v.toList) pieces values ∧
    text.toList = joinWith ['|'] pieces

theorem spells_of_enumValues? {text : String} {values : List String}
    (h : enumValues? text = some values) : Spells text values := by
  obtain ⟨pieces, hpieces, rfl⟩ := Option.map_eq_some_iff.mp h
  simp only [enumAlternatives?] at hpieces
  split at hpieces
  · cases hpieces
  · cases hpieces
    refine ⟨splitAt '|' text.toList, ?_, (joinWith_splitAt '|' text.toList).symm⟩
    rw [List.map_map, List.forall₂_map_right_iff, List.forall₂_same]
    intro piece _
    rw [Function.comp_apply, String.toList_ofList]
    exact pads_trim piece

theorem unbarred_of_pads {values : List String} (h : ∀ v ∈ values, '|' ∉ v.toList)
    {pieces : List (List Char)}
    (hpads : List.Forall₂ (fun piece v => Pads piece v.toList) pieces values) :
    ∀ piece ∈ pieces, '|' ∉ piece := by
  induction hpads with
  | nil => simp
  | cons hpad _ ih =>
      rw [List.forall_mem_cons] at h ⊢
      exact ⟨hpad.not_mem rfl h.1, ih h.2⟩

/-- The pieces that write alternatives are found again by cutting at the bars. -/
theorem Alternatives.splitAt_of_pads {values : List String} (h : Alternatives values)
    {pieces : List (List Char)}
    (hpads : List.Forall₂ (fun piece v => Pads piece v.toList) pieces values) :
    splitAt '|' (joinWith ['|'] pieces) = pieces := by
  have hbar := unbarred_of_pads h.unbarred hpads
  cases pieces with
  | nil =>
      cases hpads
      exact absurd rfl h.ne_nil
  | cons piece pieces =>
      rw [splitAt_joinWith List.not_mem_nil hbar]
      simp

/-- What trimming leaves of the pieces are the alternatives. -/
theorem map_trim_of_pads {values : List String}
    (hsolid : ∀ v ∈ values, SolidStart v.toList ∧ SolidEnd v.toList) {pieces : List (List Char)}
    (hpads : List.Forall₂ (fun piece v => Pads piece v.toList) pieces values) :
    pieces.map trim = values.map String.toList := by
  induction hpads with
  | nil => rfl
  | cons hpad _ ih =>
      rw [List.forall_mem_cons] at hsolid
      rw [List.map_cons, List.map_cons, hpad.trim_eq hsolid.1.1 hsolid.1.2, ih hsolid.2]

theorem Alternatives.enumValues?_of_spells {text : String} {values : List String}
    (h : Alternatives values) (hspells : Spells text values) : enumValues? text = some values := by
  obtain ⟨pieces, hpads, htext⟩ := hspells
  have hvalues : (splitAt '|' text.toList).map trim = values.map String.toList := by
    rw [htext, h.splitAt_of_pads hpads, map_trim_of_pads h.solid hpads]
  have hshort : ¬ ((values.map String.toList).length < 2 ∨ [] ∈ values.map String.toList) := by
    rw [not_or, List.length_map, Nat.not_lt]
    refine ⟨h.two, fun hnil => ?_⟩
    obtain ⟨v, hv, hempty⟩ := List.mem_map.mp hnil
    exact h.nonempty v hv (String.toList_eq_nil_iff.mp hempty)
  simp only [enumValues?, enumAlternatives?, hvalues, if_neg hshort, Option.map_some,
    List.map_map]
  simp [Function.comp_def]

/-! ## The normal form -/

/-- Joining with a blank on both sides of each bar is one way to write texts. -/
theorem exists_pads_joinWith (v : String) (values : List String) :
    ∃ piece pieces, List.Forall₂ (fun piece v => Pads piece v.toList) (piece :: pieces)
        (v :: values) ∧
      joinWith " | ".toList ((v :: values).map String.toList) =
        joinWith ['|'] (piece :: pieces) := by
  induction values generalizing v with
  | nil => exact ⟨v.toList, [], .cons (.refl _) .nil, rfl⟩
  | cons next values ih =>
      obtain ⟨piece, pieces, hpads, hjoin⟩ := ih next
      obtain ⟨hpad, hrest⟩ := List.forall₂_cons.mp hpads
      -- the blank behind the bar goes to the next piece, the one before it stays with this one
      refine ⟨v.toList ++ [' '], (' ' :: piece) :: pieces,
        .cons (Pads.refl _).append_blank (.cons hpad.cons_blank hrest), ?_⟩
      have hnext : joinWith ['|'] ((' ' :: piece) :: pieces) =
          ' ' :: joinWith ['|'] (piece :: pieces) := (append_joinWith ['|'] [' '] piece pieces).symm
      have hbar : " | ".toList = [' ', '|', ' '] := rfl
      rw [List.map_cons, joinWith_cons _ v.toList (by simp), hjoin, hbar,
        joinWith_cons ['|'] (v.toList ++ [' ']) (by simp), hnext]
      simp

theorem spells_enumText (values : List String) (h : values ≠ []) :
    Spells (enumText values) values := by
  obtain ⟨v, values, rfl⟩ := List.exists_cons_of_ne_nil h
  obtain ⟨piece, pieces, hpads, hjoin⟩ := exists_pads_joinWith v values
  refine ⟨piece :: pieces, hpads, ?_⟩
  rw [enumText, join, String.toList_ofList, hjoin]

/-- **The normal form of enumerations.**  What is read as an enumeration has at least two
alternatives, none of which is empty, has a blank at an end or holds a bar; such alternatives are
read from just the texts that write them, and of these the one that is written out again reads back
as the same alternatives. -/
theorem enumeration_normal_form :
    (∀ text values, enumValues? text = some values →
      enumValues? (enumText values) = some values) ∧
    (∀ values, Alternatives values → enumValues? (enumText values) = some values) ∧
    ∀ text values, enumValues? text = some values ↔ Alternatives values ∧ Spells text values := by
  have hnormal : ∀ values, Alternatives values → enumValues? (enumText values) = some values :=
    fun values h => h.enumValues?_of_spells (spells_enumText values h.ne_nil)
  refine ⟨?_, hnormal, ?_⟩
  · intro text values h
    exact hnormal values (alternatives_of_enumValues? h)
  · intro text values
    constructor
    · intro h
      exact ⟨alternatives_of_enumValues? h, spells_of_enumValues? h⟩
    · rintro ⟨h, hspells⟩
      exact h.enumValues?_of_spells hspells

/-- The general statement for stages that are written with blanks around some of them: the text is
read, and so is its normal form, which is another text. -/
theorem enumeration_normal_form_stages :
    enumValues? "Seed|Series A\t |\u00a0Growth" = some ["Seed", "Series A", "Growth"] ∧
      enumText ["Seed", "Series A", "Growth"] = "Seed | Series A | Growth" ∧
      enumValues? (enumText ["Seed", "Series A", "Growth"]) =
        some ["Seed", "Series A", "Growth"] ∧
      Spells "Seed|Series A\t |\u00a0Growth" ["Seed", "Series A", "Growth"] := by
  have hread : enumValues? "Seed|Series A\t |\u00a0Growth" =
      some ["Seed", "Series A", "Growth"] := by decide
  exact ⟨hread, by decide, enumeration_normal_form.1 _ _ hread,
    ((enumeration_normal_form.2.2 _ _).mp hread).2⟩

end Entity
