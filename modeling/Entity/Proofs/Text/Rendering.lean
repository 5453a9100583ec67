import Entity.Proofs.Entries
import Entity.Proofs.Text.Placeholders
import Mathlib.Data.List.Infix
import Mathlib.Logic.Function.Basic
import Mathlib.Tactic.LinearCombination
import Mathlib.Tactic.Zify

/-!
# Rendering as substitution

Rendering fills in the names of a template one after the other, each wherever its placeholder stands
in the text that has been made so far.  Main statement: this is one simultaneous substitution of all
placeholders of the template, at every stage, exactly if no value that is filled in makes a new
placeholder for a name that is still to come.
-/

namespace Entity

open Entity.Text

/-- Behind its opening brace a placeholder has no other one. -/
theorem Text.Word.opening_not_mem {cs : List Char} (h : Word cs) : '\x7b' ∉ cs ++ ['\x7d'] := by
  simpa using h.not_mem (c := '\x7b') (by decide)

namespace Template

/-! ## Placeholders at the start of a text -/

/-- The name of the placeholder that begins a text. -/
def holeAt? : List Char → Option String
  | [] => none
  | c :: cs =>
    let (name, rest) := cs.span isWord
    if c = '\x7b' ∧ name ≠ [] ∧ rest.head? = some '\x7d' then some (String.ofList name) else none

theorem holeAt?_eq_some_iff {cs : List Char} {name : String} :
    holeAt? cs = some name ↔ Word name.toList ∧ placeholder name <+: cs := by
  cases cs with
  | nil => simp [holeAt?, placeholder]
  | cons c cs =>
      simp only [holeAt?, List.span_eq_takeWhile_dropWhile, placeholder, List.cons_prefix_cons]
      constructor
      · intro h
        split at h
        · rename_i hhole
          cases h
          obtain ⟨hopen, hne, hclose⟩ := hhole
          obtain ⟨rest, hrest⟩ := List.head?_eq_some_iff.mp hclose
          rw [String.toList_ofList]
          refine ⟨⟨hne, fun d hd => List.mem_takeWhile_imp hd⟩, hopen.symm, rest, ?_⟩
          rw [List.append_assoc, List.singleton_append, ← hrest, List.takeWhile_append_dropWhile]
        · cases h
      · rintro ⟨hword, hopen, rest, hrest⟩
        have hspan : cs.span isWord = (name.toList, '\x7d' :: rest) := by
          rw [← hrest, List.append_assoc, List.singleton_append]
          refine span_append hword.all ?_
          rintro d ⟨⟩
          decide
        rw [List.span_eq_takeWhile_dropWhile] at hspan
        obtain ⟨htake, hdrop⟩ := Prod.mk.inj hspan
        rw [htake, hdrop, if_pos ⟨hopen.symm, hword.ne_nil, rfl⟩, String.ofList_toList]

theorem holeAt?_placeholder_append {name : String} (h : Word name.toList) (rest : List Char) :
    holeAt? (placeholder name ++ rest) = some name :=
  holeAt?_eq_some_iff.mpr ⟨h, List.prefix_append _ _⟩

/-- A placeholder is opened where it begins and nowhere else. -/
theorem holeAt?_eq_none {c : Char} {cs : List Char} (hc : c ≠ '\x7b') :
    holeAt? (c :: cs) = none := by
  simp [holeAt?, hc]

/-- Every text is built from placeholders and from characters at which none begins. -/
@[elab_as_elim]
theorem text_induction {P : List Char → Prop} (cs : List Char) (nil : P [])
    (hole : ∀ (name : String) (rest : List Char), Word name.toList → P rest →
      P (placeholder name ++ rest))
    (char : ∀ (c : Char) (rest : List Char), holeAt? (c :: rest) = none → P rest →
      P (c :: rest)) : P cs := by
  induction hn : cs.length using Nat.strongRecOn generalizing cs with
  | ind n ih =>
      cases cs with
      | nil => exact nil
      | cons c cs =>
          cases hc : holeAt? (c :: cs) with
          | none => exact char c cs hc (ih cs.length (by simp [← hn]) cs rfl)
          | some name =>
              obtain ⟨hword, rest, hrest⟩ := holeAt?_eq_some_iff.mp hc
              rw [← hrest]
              refine hole name rest hword (ih rest.length ?_ rest rfl)
              rw [← hn, ← hrest, List.length_append]
              simp [placeholder]

/-! ## The placeholders of a text -/

/-- Before an opening brace there are no placeholders. -/
theorem placeholders_append_of_not_mem {cs : List Char} (h : '\x7b' ∉ cs) (rest : List Char) :
    placeholders (cs ++ rest) = placeholders rest := by
  induction cs with
  | nil => rfl
  | cons c cs ih =>
      rw [List.mem_cons, not_or] at h
      rw [List.cons_append, placeholders, scan, if_neg (Ne.symm h.1)]
      exact ih h.2

/-- A character at which no placeholder begins adds none. -/
theorem placeholders_cons_of_none {c : Char} {cs : List Char} (h : holeAt? (c :: cs) = none) :
    placeholders (c :: cs) = placeholders cs := by
  by_cases hc : c = '\x7b'
  · subst hc
    -- the word behind the brace is read up to its end, where it is not closed
    have hsplit := List.takeWhile_append_dropWhile (p := isWord) (l := cs)
    have hword : ∀ d ∈ cs.takeWhile isWord, isWord d = true := fun d hd => List.mem_takeWhile_imp hd
    have hbrace : '\x7b' ∉ cs.takeWhile isWord := fun hmem => by
      have hno : isWord '\x7b' = false := by decide
      rw [hword _ hmem] at hno
      cases hno
    have hend : ∀ d rest, cs.dropWhile isWord = d :: rest → isWord d = false := by
      intro d rest hrest
      have hhead := List.head?_dropWhile_not isWord cs
      rw [hrest] at hhead
      exact hhead
    simp only [holeAt?, List.span_eq_takeWhile_dropWhile, ite_eq_right_iff, reduceCtorEq,
      imp_false, not_and] at h
    have hopen : ∀ ds, placeholders ('\x7b' :: ds) = scan (some []) ds := fun ds => by
      rw [placeholders, scan, if_pos rfl]
    rw [hopen, ← hsplit, scan_some_append hword, placeholders_append_of_not_mem hbrace,
      List.append_nil]
    cases hrest : cs.dropWhile isWord with
    | nil => rfl
    | cons d rest =>
        have hd := hend d rest hrest
        rw [hrest] at h
        rw [scan_cons, placeholders, scan_cons]
        split
        · rfl
        · dsimp only
          rw [if_neg (by simp [hd]), if_neg]
          rintro ⟨hclose, hname⟩
          exact h trivial (by simpa using hname) (congrArg some hclose)
  · rw [placeholders, scan, if_neg hc]
    rfl

/-- Behind the brace that opens a placeholder the other placeholders are found. -/
theorem placeholders_cons_of_some {c : Char} {cs : List Char} {name : String}
    (h : holeAt? (c :: cs) = some name) :
    placeholders (c :: cs) = name.toList :: placeholders cs := by
  obtain ⟨hword, rest, hrest⟩ := holeAt?_eq_some_iff.mp h
  have hcs : cs = (name.toList ++ ['\x7d']) ++ rest := (List.cons.inj hrest).2.symm
  rw [← hrest, placeholders_placeholder_append hword, hcs,
    placeholders_append_of_not_mem hword.opening_not_mem]

/-! ## Substitution -/

/-- What is left after dropping `skip` characters, with the placeholders of names that have a value
replaced by it. -/
def substituteFrom (value? : String → Option (List Char)) : Nat → List Char → List Char
  | _, [] => []
  | skip + 1, _ :: cs => substituteFrom value? skip cs
  | 0, c :: cs =>
    match holeAt? (c :: cs) with
    | some name =>
      (value? name).getD (placeholder name) ++ substituteFrom value? (name.length + 1) cs
    | none => c :: substituteFrom value? 0 cs

/-- The text with each of its placeholders replaced by the value of its name, if it has one.  What
comes from a value is not looked at. -/
def substitute (value? : String → Option (List Char)) (cs : List Char) : List Char :=
  substituteFrom value? 0 cs

section Substitution

variable {value? : String → Option (List Char)} {name : String}

theorem substituteFrom_append (value? : String → Option (List Char)) (skipped rest : List Char) :
    substituteFrom value? skipped.length (skipped ++ rest) = substitute value? rest := by
  induction skipped with
  | nil => rfl
  | cons c skipped ih => rw [List.length_cons, List.cons_append, substituteFrom, ih]

theorem substitute_nil : substitute value? [] = [] := rfl

theorem substitute_placeholder_append (hword : Word name.toList) (rest : List Char) :
    substitute value? (placeholder name ++ rest) =
      (value? name).getD (placeholder name) ++ substitute value? rest := by
  have hhole := holeAt?_placeholder_append hword rest
  have hlength : (name.toList ++ ['\x7d']).length = name.length + 1 := by
    rw [List.length_append, String.length_toList]
    rfl
  have hskip := substituteFrom_append value? (name.toList ++ ['\x7d']) rest
  rw [hlength] at hskip
  rw [placeholder, List.cons_append] at hhole ⊢
  rw [substitute, substituteFrom, hhole]
  dsimp only
  rw [hskip]
  rfl

theorem substitute_cons {c : Char} {cs : List Char} (h : holeAt? (c :: cs) = none) :
    substitute value? (c :: cs) = c :: substitute value? cs := by
  rw [substitute, substituteFrom, h]
  rfl

/-- Substitution looks at the names of the placeholders only. -/
theorem substitute_congr {other? : String → Option (List Char)} (cs : List Char)
    (h : ∀ name : String, name.toList ∈ placeholders cs → value? name = other? name) :
    substitute value? cs = substitute other? cs := by
  induction cs using text_induction with
  | nil => rfl
  | hole name rest hword ih =>
      rw [placeholders_placeholder_append hword] at h
      rw [substitute_placeholder_append hword, substitute_placeholder_append hword,
        h name List.mem_cons_self, ih fun m hm => h m (List.mem_cons_of_mem _ hm)]
  | char c rest hnone ih =>
      rw [placeholders_cons_of_none hnone] at h
      rw [substitute_cons hnone, substitute_cons hnone, ih h]

end Substitution

/-! ## Places of a placeholder -/

/-- The number of placeholders of a text that have a name. -/
def holes (name : String) (cs : List Char) : Nat := (placeholders cs).count name.toList

section Holes

variable {name : String} {value? : String → Option (List Char)}

theorem holes_nil (name : String) : holes name [] = 0 := rfl

theorem holes_placeholder_append (hword : Word name.toList) (rest : List Char) :
    holes name (placeholder name ++ rest) = holes name rest + 1 := by
  rw [holes, placeholders_placeholder_append hword, List.count_cons_self]
  rfl

theorem holes_placeholder_append_of_ne {other : String} (hword : Word other.toList)
    (hne : other ≠ name) (rest : List Char) :
    holes name (placeholder other ++ rest) = holes name rest := by
  rw [holes, placeholders_placeholder_append hword, List.count_cons_of_ne]
  · rfl
  · exact fun h => hne (String.toList_inj.mp h)

theorem holes_cons_of_none {c : Char} {cs : List Char} (h : holeAt? (c :: cs) = none) :
    holes name (c :: cs) = holes name cs := by
  rw [holes, placeholders_cons_of_none h]
  rfl

/-- A text without an opening brace adds no placeholders. -/
theorem holes_append_of_not_mem {cs : List Char} (h : '\x7b' ∉ cs) (rest : List Char) :
    holes name (cs ++ rest) = holes name rest := by
  rw [holes, placeholders_append_of_not_mem h]
  rfl

/-- A placeholder begins at a character exactly if the character adds one. -/
theorem holes_cons (hword : Word name.toList) (c : Char) (cs : List Char) :
    holes name (c :: cs) =
      holes name cs + if placeholder name <+: c :: cs then 1 else 0 := by
  have hiff : placeholder name <+: c :: cs ↔ holeAt? (c :: cs) = some name := by
    rw [holeAt?_eq_some_iff, and_iff_right hword]
  simp only [hiff]
  cases hhole : holeAt? (c :: cs) with
  | none => simpa using holes_cons_of_none hhole
  | some other =>
      rw [holes, placeholders_cons_of_some hhole, List.count_cons]
      simp [holes, String.toList_inj]

/-- No placeholder for the name begins in a text that stands before another one. -/
def Clear (name : String) (cs rest : List Char) : Prop :=
  ∀ part, part ≠ [] → part <:+ cs → ¬ placeholder name <+: part ++ rest

theorem clear_cons {c : Char} {cs rest : List Char} :
    Clear name (c :: cs) rest ↔ ¬ placeholder name <+: c :: (cs ++ rest) ∧ Clear name cs rest := by
  constructor
  · intro h
    exact ⟨h (c :: cs) (List.cons_ne_nil c cs) List.suffix_rfl,
      fun part hne hpart => h part hne (hpart.trans (List.suffix_cons c cs))⟩
  · rintro ⟨hhere, hlater⟩ part hne hpart
    rcases List.suffix_cons_iff.mp hpart with rfl | hpart
    · exact hhere
    · exact hlater part hne hpart

theorem holes_le_append (hword : Word name.toList) (cs rest : List Char) :
    holes name rest ≤ holes name (cs ++ rest) := by
  induction cs with
  | nil => exact Nat.le_refl _
  | cons c cs ih =>
      rw [List.cons_append, holes_cons hword]
      omega

/-- A text before another one adds no placeholders exactly if none begins in it. -/
theorem holes_append_eq_iff (hword : Word name.toList) (cs rest : List Char) :
    holes name (cs ++ rest) = holes name rest ↔ Clear name cs rest := by
  induction cs with
  | nil =>
      refine iff_of_true rfl fun part hne hpart => ?_
      exact absurd (List.suffix_nil.mp hpart) hne
  | cons c cs ih =>
      have hle := holes_le_append hword cs rest
      rw [clear_cons, ← ih, List.cons_append, holes_cons hword]
      split
      · rename_i hbegins
        constructor
        · intro h
          omega
        · rintro ⟨hnot, -⟩
          exact absurd hbegins hnot
      · rename_i hnot
        rw [Nat.add_zero]
        exact (and_iff_right hnot).symm

end Holes

/-! ## One name -/

section Replacing

variable {part new : List Char}

theorem replaceFrom_append (part new skipped rest : List Char) :
    replaceFrom part new skipped.length (skipped ++ rest) = replaceAll part new rest := by
  induction skipped with
  | nil =>
      cases rest <;> rfl
  | cons c skipped ih => rw [List.length_cons, List.cons_append, replaceFrom, ih]

theorem replaceAll_append (hne : part ≠ []) (rest : List Char) :
    replaceAll part new (part ++ rest) = new ++ replaceAll part new rest := by
  obtain ⟨c, cs, rfl⟩ := List.exists_cons_of_ne_nil hne
  have hbegins : beginsWith (c :: cs) (c :: (cs ++ rest)) = true :=
    beginsWith_iff.mpr (List.prefix_append (c :: cs) rest)
  rw [List.cons_append, replaceAll, replaceFrom, if_pos hbegins]
  exact congrArg (new ++ ·) (replaceFrom_append (c :: cs) new cs rest)

theorem replaceAll_cons {c : Char} {cs : List Char} (h : ¬ part <+: c :: cs) :
    replaceAll part new (c :: cs) = c :: replaceAll part new cs := by
  rw [replaceAll, replaceFrom, if_neg (by rwa [beginsWith_iff])]
  rfl

/-- A part that is replaced by itself stays. -/
theorem replaceAll_self (hne : part ≠ []) (cs : List Char) : replaceAll part part cs = cs := by
  induction hn : cs.length using Nat.strongRecOn generalizing cs with
  | ind n ih =>
      cases cs with
      | nil => rfl
      | cons c cs =>
          by_cases hbegins : part <+: c :: cs
          · obtain ⟨rest, hrest⟩ := hbegins
            have hshort : rest.length < n := by
              have hlength := congrArg List.length hrest
              rw [List.length_append] at hlength
              have hpos := List.length_pos_iff.mpr hne
              omega
            rw [← hrest, replaceAll_append hne, ih rest.length hshort rest rfl]
          · have hshort : cs.length < n := by simp [← hn]
            rw [replaceAll_cons hbegins, ih cs.length hshort cs rfl]

variable {name : String} {new cs rest : List Char}

theorem placeholder_ne_nil (name : String) : placeholder name ≠ [] := List.cons_ne_nil _ _

/-- Nothing is replaced in a text where no placeholder begins. -/
theorem replaceAll_append_of_clear (h : Clear name cs rest) :
    replaceAll (placeholder name) new (cs ++ rest) =
      cs ++ replaceAll (placeholder name) new rest := by
  induction cs with
  | nil => rfl
  | cons c cs ih =>
      obtain ⟨hhere, hlater⟩ := clear_cons.mp h
      rw [List.cons_append, replaceAll_cons hhere, ih hlater, List.cons_append]

/-- The first placeholder that begins in a text. -/
theorem exists_first_of_not_clear (h : ¬ Clear name cs rest) :
    ∃ before after, cs = before ++ after ∧ after ≠ [] ∧ placeholder name <+: after ++ rest ∧
      Clear name before (after ++ rest) := by
  induction cs with
  | nil =>
      refine absurd (fun part hne hpart => ?_) h
      exact absurd (List.suffix_nil.mp hpart) hne
  | cons c cs ih =>
      by_cases hhere : placeholder name <+: c :: (cs ++ rest)
      · refine ⟨[], c :: cs, rfl, List.cons_ne_nil c cs, hhere, fun part hne hpart => ?_⟩
        exact absurd (List.suffix_nil.mp hpart) hne
      · obtain ⟨before, after, hcs, hne, hbegins, hclear⟩ :=
          ih fun hlater => h (clear_cons.mpr ⟨hhere, hlater⟩)
        refine ⟨c :: before, after, by rw [hcs, List.cons_append], hne, hbegins,
          clear_cons.mpr ⟨?_, hclear⟩⟩
        rwa [← List.append_assoc, ← hcs]

/-- Each placeholder that is replaced changes the length by the same amount. -/
theorem length_replaceAll (hword : Word name.toList) (new cs : List Char) :
    (replaceAll (placeholder name) new cs).length + holes name cs * (placeholder name).length =
      cs.length + holes name cs * new.length := by
  induction cs using text_induction with
  | nil => simp [holes_nil, replaceAll, replaceFrom]
  | hole other rest hother ih =>
      by_cases heq : other = name
      · subst heq
        rw [replaceAll_append (placeholder_ne_nil other), holes_placeholder_append hword,
          Nat.add_mul, Nat.add_mul, List.length_append, List.length_append]
        omega
      · have hsame := holes_placeholder_append_of_ne hother heq rest
        rw [replaceAll_append_of_clear ((holes_append_eq_iff hword _ _).mp hsame), hsame,
          List.length_append, List.length_append]
        omega
  | char c rest hhole ih =>
      have hnot : ¬ placeholder name <+: c :: rest := fun h => by
        rw [holeAt?_eq_some_iff.mpr ⟨hword, h⟩] at hhole
        cases hhole
      rw [replaceAll_cons hnot, holes_cons_of_none hhole, List.length_cons, List.length_cons]
      omega

end Replacing

/-! ## One name more -/

section Step

variable {name : String} {value? : String → Option (List Char)} {new : List Char}

/-- Every text is built from placeholders for a name and from parts that substitution treats alike
whatever the value of the name. -/
@[elab_as_elim]
theorem part_induction {P : List Char → Prop} (name : String)
    (value? : String → Option (List Char)) (cs : List Char) (nil : P [])
    (own : ∀ rest, Word name.toList → P rest → P (placeholder name ++ rest))
    (other : ∀ cs part rest, holes name cs = holes name rest →
      substitute value? cs = part ++ substitute value? rest →
      (∀ v, substitute (Function.update value? name v) cs =
        part ++ substitute (Function.update value? name v) rest) → P rest → P cs) : P cs := by
  induction cs using text_induction with
  | nil => exact nil
  | hole m rest hm ih =>
      by_cases heq : m = name
      · subst heq
        exact own rest hm ih
      · refine other _ ((value? m).getD (placeholder m)) rest
          (holes_placeholder_append_of_ne hm heq rest) (substitute_placeholder_append hm rest)
          (fun v => ?_) ih
        rw [substitute_placeholder_append hm, Function.update_of_ne heq]
  | char c rest hhole ih =>
      exact other _ [c] rest (holes_cons_of_none hhole) (substitute_cons hhole)
        (fun v => substitute_cons hhole) ih

/-- The placeholders for a name without a value are still there. -/
theorem holes_le_substitute (hword : Word name.toList) (hnone : value? name = none)
    (cs : List Char) : holes name cs ≤ holes name (substitute value? cs) := by
  induction cs using part_induction name value? with
  | nil => exact Nat.le_refl _
  | own rest _ ih =>
      rw [substitute_placeholder_append hword, hnone, Option.getD_none,
        holes_placeholder_append hword, holes_placeholder_append hword]
      omega
  | other cs part rest hholes hpart _ ih =>
      rw [hholes, hpart]
      exact ih.trans (holes_le_append hword part _)

/-- Values without an opening brace add no placeholders to a text where every opening brace begins
a placeholder. -/
theorem holes_substitute (hword : Word name.toList) (hnone : value? name = none)
    (hvalues : ∀ other new, value? other = some new → '\x7b' ∉ new) {cs : List Char}
    (hcs : ∀ rest, '\x7b' :: rest <:+ cs → holeAt? ('\x7b' :: rest) ≠ none) :
    holes name (substitute value? cs) = holes name cs := by
  induction cs using text_induction with
  | nil => rfl
  | hole other rest hother ih =>
      have hrest := ih fun part hpart => hcs part (hpart.trans (List.suffix_append _ _))
      rw [substitute_placeholder_append hother]
      cases hvalue : value? other with
      | some new =>
          have hne : other ≠ name := by
            rintro rfl
            rw [hnone] at hvalue
            cases hvalue
          rw [Option.getD_some, holes_append_of_not_mem (hvalues other new hvalue), hrest,
            holes_placeholder_append_of_ne hother hne]
      | none =>
          by_cases heq : other = name
          · subst heq
            rw [Option.getD_none, holes_placeholder_append hword, holes_placeholder_append hword,
              hrest]
          · rw [Option.getD_none, holes_placeholder_append_of_ne hother heq,
              holes_placeholder_append_of_ne hother heq, hrest]
  | char c rest hhole ih =>
      have hrest := ih fun part hpart => hcs part (hpart.trans (List.suffix_cons c rest))
      have hc : c ≠ '\x7b' := by
        rintro rfl
        exact hcs rest List.suffix_rfl hhole
      rw [substitute_cons hhole, holes_cons_of_none (holeAt?_eq_none hc),
        holes_cons_of_none hhole, hrest]

/-- Giving a name its value replaces its placeholders, if there are no more of them than in the
text itself. -/
theorem replaceAll_substitute (hword : Word name.toList) (hnone : value? name = none)
    (cs : List Char) (h : holes name (substitute value? cs) = holes name cs) :
    replaceAll (placeholder name) new (substitute value? cs) =
      substitute (Function.update value? name (some new)) cs := by
  induction cs using part_induction name value? with
  | nil => rfl
  | own rest _ ih =>
      rw [substitute_placeholder_append hword, hnone, Option.getD_none,
        holes_placeholder_append hword, holes_placeholder_append hword] at h
      rw [substitute_placeholder_append hword, substitute_placeholder_append hword, hnone,
        Function.update_self, Option.getD_none, Option.getD_some,
        replaceAll_append (placeholder_ne_nil name), ih (Nat.succ.inj h)]
  | other cs part rest hholes hpart hupdated ih =>
      rw [hpart, hholes] at h
      have hle := holes_le_substitute hword hnone rest
      have hmore := holes_le_append hword part (substitute value? rest)
      have hclear := (holes_append_eq_iff hword part (substitute value? rest)).mp (by omega)
      rw [hpart, hupdated, replaceAll_append_of_clear hclear, ih (by omega)]

/-- A start without an opening brace does not depend on the value of the name. -/
theorem prefix_substitute_update (hnone : value? name = none) {start : List Char}
    (hbrace : '\x7b' ∉ start) (cs : List Char) (h : start <+: substitute value? cs) :
    start <+: substitute (Function.update value? name (some new)) cs := by
  induction cs using part_induction name value? generalizing start with
  | nil => exact h
  | own rest hword _ =>
      rw [substitute_placeholder_append hword, hnone, Option.getD_none, placeholder,
        List.cons_append] at h
      cases start with
      | nil => exact List.nil_prefix
      | cons c start =>
          rw [(List.cons_prefix_cons.mp h).1] at hbrace
          exact absurd List.mem_cons_self hbrace
  | other cs part rest _ hpart hupdated ih =>
      rw [hpart] at h
      rw [hupdated]
      rcases List.prefix_or_prefix_of_prefix h (List.prefix_append part _) with hshort | hlong
      · exact hshort.trans (List.prefix_append part _)
      · obtain ⟨more, rfl⟩ := hlong
        rw [List.prefix_append_right_inj] at h ⊢
        exact ih (fun hmem => hbrace (List.mem_append_right _ hmem)) h

/-- A placeholder that begins before a text does not depend on the value of its name in the text,
since what reaches into the text is its end. -/
theorem prefix_append_substitute_update (hword : Word name.toList) (hnone : value? name = none)
    {before : List Char} (hne : before ≠ []) (cs : List Char)
    (h : placeholder name <+: before ++ substitute value? cs) :
    placeholder name <+: before ++ substitute (Function.update value? name (some new)) cs := by
  obtain ⟨later, hlater⟩ := h
  rcases List.append_eq_append_iff.mp hlater with ⟨more, rfl, -⟩ | ⟨stop, hname, hcs⟩
  · rw [List.append_assoc]
    exact List.prefix_append _ _
  · have hbrace : '\x7b' ∉ stop := by
      obtain ⟨c, before, rfl⟩ := List.exists_cons_of_ne_nil hne
      have hinner := (List.cons.inj hname).2
      exact fun hmem => hword.opening_not_mem (hinner ▸ List.mem_append_right _ hmem)
    rw [hname, List.prefix_append_right_inj]
    exact prefix_substitute_update hnone hbrace cs ⟨later, hcs.symm⟩

/-- Each placeholder that gets a value changes the length by the same amount. -/
theorem length_substitute_update (hword : Word name.toList) (hnone : value? name = none)
    (new cs : List Char) :
    (substitute (Function.update value? name (some new)) cs).length +
        holes name cs * (placeholder name).length =
      (substitute value? cs).length + holes name cs * new.length := by
  induction cs using part_induction name value? with
  | nil => simp [holes_nil, substitute_nil]
  | own rest _ ih =>
      rw [substitute_placeholder_append hword, substitute_placeholder_append hword, hnone,
        Function.update_self, holes_placeholder_append hword, Nat.add_mul, Nat.add_mul,
        List.length_append, List.length_append, Option.getD_none, Option.getD_some]
      omega
  | other cs part rest hholes hpart hupdated ih =>
      rw [hpart, hupdated, hholes, List.length_append, List.length_append]
      omega

/-- A value as long as the placeholder replaces nothing that a value brought in, unless it is the
placeholder. -/
theorem holes_eq_of_replaceAll_eq (hnone : value? name = none)
    (hlength : new.length = (placeholder name).length) (hnew : new ≠ placeholder name)
    (hword : Word name.toList) (cs : List Char)
    (h : replaceAll (placeholder name) new (substitute value? cs) =
      substitute (Function.update value? name (some new)) cs) :
    holes name (substitute value? cs) = holes name cs := by
  induction cs using part_induction name value? with
  | nil => rfl
  | own rest _ ih =>
      rw [substitute_placeholder_append hword, substitute_placeholder_append hword, hnone,
        Function.update_self, Option.getD_none, Option.getD_some,
        replaceAll_append (placeholder_ne_nil name)] at h
      rw [substitute_placeholder_append hword, hnone, Option.getD_none,
        holes_placeholder_append hword, holes_placeholder_append hword,
        ih (List.append_cancel_left h)]
  | other cs part rest hholes hpart hupdated ih =>
      rw [hpart, hupdated] at h
      by_cases hclear : Clear name part (substitute value? rest)
      · rw [replaceAll_append_of_clear hclear] at h
        rw [hpart, hholes, (holes_append_eq_iff hword _ _).mpr hclear,
          ih (List.append_cancel_left h)]
      · -- at the first placeholder that begins in the part the two texts differ
        exfalso
        obtain ⟨before, after, rfl, hafter, ⟨later, hlater⟩, hbefore⟩ :=
          exists_first_of_not_clear hclear
        rw [List.append_assoc, replaceAll_append_of_clear hbefore, ← hlater,
          replaceAll_append (placeholder_ne_nil name), List.append_assoc] at h
        have htexts := List.append_cancel_left h
        have hkept : placeholder name <+:
            after ++ substitute (Function.update value? name (some new)) rest :=
          prefix_append_substitute_update hword hnone hafter rest ⟨later, hlater⟩
        obtain ⟨more, hmore⟩ := hkept
        rw [← hmore] at htexts
        exact hnew (List.append_inj htexts hlength).1

/-- A name that stands for its own placeholder changes nothing. -/
theorem substitute_update_placeholder (hnone : value? name = none) (cs : List Char) :
    substitute (Function.update value? name (some (placeholder name))) cs =
      substitute value? cs := by
  induction cs using part_induction name value? with
  | nil => rfl
  | own rest hword ih =>
      rw [substitute_placeholder_append hword, substitute_placeholder_append hword, hnone,
        Function.update_self, ih]
      rfl
  | other cs part rest _ hpart hupdated ih => rw [hpart, hupdated, ih]

/-- A length that two counts of changes of one size lead to is the same only for one count. -/
theorem count_eq_of_lengths {total start size other m n : Nat} (hsize : other ≠ size)
    (hm : total + m * size = start + m * other) (hn : total + n * size = start + n * other) :
    m = n := by
  zify at hsize hm hn ⊢
  have hproduct : ((m : ℤ) - n) * ((other : ℤ) - size) = 0 := by linear_combination hn - hm
  rcases mul_eq_zero.mp hproduct with h | h
  · exact sub_eq_zero.mp h
  · exact absurd (sub_eq_zero.mp h) hsize

/-- **Giving a name its value replaces its placeholders** exactly if there are no more of them than
in the text itself, or the value is that placeholder. -/
theorem replaceAll_substitute_iff (hword : Word name.toList) (hnone : value? name = none)
    (cs : List Char) :
    replaceAll (placeholder name) new (substitute value? cs) =
        substitute (Function.update value? name (some new)) cs ↔
      new = placeholder name ∨ holes name (substitute value? cs) = holes name cs := by
  constructor
  · intro h
    by_cases hnew : new = placeholder name
    · exact Or.inl hnew
    · refine Or.inr ?_
      by_cases hlength : new.length = (placeholder name).length
      · exact holes_eq_of_replaceAll_eq hnone hlength hnew hword cs h
      · -- every placeholder that is replaced changes the length
        have hreplaced := length_replaceAll hword new (substitute value? cs)
        have hgiven := length_substitute_update hword hnone new cs
        rw [h] at hreplaced
        exact count_eq_of_lengths hlength hreplaced hgiven
  · rintro (rfl | h)
    · rw [replaceAll_self (placeholder_ne_nil name), substitute_update_placeholder hnone]
    · exact replaceAll_substitute hword hnone cs h

end Step

/-! ## The values of names -/

/-- The text that is filled in for a name.  An absent value and a null fill in nothing. -/
def valueIn (values : Entries String Value) (name : String) : Option (List Char) :=
  match Entries.get? name values with
  | none => none
  | some .null => none
  | some v => some v.shown.toList

/-- Values for the names of a list only. -/
def among (done : List String) (value? : String → Option (List Char)) (name : String) :
    Option (List Char) :=
  if name ∈ done then value? name else none

section Values

variable {values : Entries String Value} {name : String} {done : List String}
  {value? : String → Option (List Char)}

theorem fill_eq (text : List Char) :
    fill values text name =
      (valueIn values name).elim text fun new => replaceAll (placeholder name) new text := by
  rw [fill, valueIn]
  cases Entries.get? name values with
  | none => rfl
  | some v => cases v <;> rfl

theorem exists_of_valueIn {new : List Char} (h : valueIn values name = some new) :
    ∃ v, (name, v) ∈ values ∧ new = v.shown.toList := by
  rw [valueIn] at h
  split at h
  · cases h
  · cases h
  · rename_i v _ hget
    cases h
    exact ⟨v, Entries.mem_of_get?_eq_some hget, rfl⟩

theorem among_of_mem (h : name ∈ done) : among done value? name = value? name := if_pos h

theorem among_of_not_mem (h : name ∉ done) : among done value? name = none := if_neg h

theorem eq_some_of_among {new : List Char} (h : among done value? name = some new) :
    value? name = some new := by
  rw [among] at h
  split at h
  · exact h
  · cases h

theorem among_nil : among [] value? = fun _ => none := by
  funext other
  exact among_of_not_mem (List.not_mem_nil)

/-- One name more has its value. -/
theorem among_append_singleton :
    among (done ++ [name]) value? = Function.update (among done value?) name (value? name) := by
  funext other
  by_cases heq : other = name
  · subst heq
    rw [Function.update_self, among_of_mem (List.mem_append_right _ (List.mem_singleton.mpr rfl))]
  · rw [Function.update_of_ne heq, among, among]
    simp [heq]

end Values

/-- No values, no change. -/
theorem substitute_none (cs : List Char) : substitute (fun _ => none) cs = cs := by
  induction cs using text_induction with
  | nil => rfl
  | hole name rest hword ih =>
      rw [substitute_placeholder_append hword, ih]
      rfl
  | char c rest hhole ih => rw [substitute_cons hhole, ih]

/-! ## Rendering -/

/-- The values that are filled in before a name make no placeholder for it: it stands as often as in
the template itself.  A name whose value is its own placeholder may do as it likes. -/
def AddsNoHoles (template : String) (values : Entries String Value) : Prop :=
  ∀ done name later, names template = done ++ name :: later →
    ∀ new, valueIn values name = some new →
      new = placeholder name ∨
        holes name (substitute (among done (valueIn values)) template.toList) =
          holes name template.toList

section Rendering

variable {template : String} {values : Entries String Value} {done later : List String}
  {name : String}

theorem render_append_singleton :
    render template (done ++ [name]) values =
      String.ofList (fill values (render template done values).toList name) := by
  rw [render, render, List.foldl_append, String.toList_ofList]
  rfl

/-- A name that is still to come has no value yet. -/
theorem among_next (h : names template = done ++ name :: later) :
    among done (valueIn values) name = none := by
  have hnodup := nodup_names template
  rw [h, List.nodup_append] at hnodup
  exact among_of_not_mem fun hmem => hnodup.2.2 name hmem name List.mem_cons_self rfl

theorem word_next (h : names template = done ++ name :: later) : Word name.toList := by
  have hmem : name ∈ names template := by
    rw [h]
    exact List.mem_append_right _ List.mem_cons_self
  exact word_of_mem_names hmem

/-- **One name more is rendered as it is substituted** exactly if the values before it have made no
placeholder for it. -/
theorem render_next_iff (h : names template = done ++ name :: later)
    (hdone : render template done values =
      String.ofList (substitute (among done (valueIn values)) template.toList)) :
    render template (done ++ [name]) values =
        String.ofList (substitute (among (done ++ [name]) (valueIn values)) template.toList) ↔
      ∀ new, valueIn values name = some new →
        new = placeholder name ∨
          holes name (substitute (among done (valueIn values)) template.toList) =
            holes name template.toList := by
  have hnone : among done (valueIn values) name = none := among_next h
  rw [render_append_singleton, hdone, String.toList_ofList, String.ofList_inj,
    among_append_singleton]
  cases hvalue : valueIn values name with
  | none =>
      rw [fill_eq, hvalue, Option.elim_none, Function.update_eq_self_iff.mpr hnone.symm]
      simp
  | some new =>
      rw [fill_eq, hvalue, Option.elim_some, replaceAll_substitute_iff (word_next h) hnone]
      simp

/-- Where no value adds placeholders, the names that are done are substituted at once. -/
theorem render_of_addsNoHoles (hadds : AddsNoHoles template values)
    (h : names template = done ++ later) :
    render template done values =
      String.ofList (substitute (among done (valueIn values)) template.toList) := by
  induction done using List.reverseRecOn generalizing later with
  | nil => rw [among_nil, substitute_none]; rfl
  | append_singleton done name ih =>
      rw [List.append_assoc, List.singleton_append] at h
      exact (render_next_iff h (ih h)).mpr (hadds done name later h)

/-- The names of the template are all that substitution asks for. -/
theorem substitute_among_names :
    substitute (among (names template) (valueIn values)) template.toList =
      substitute (valueIn values) template.toList := by
  refine substitute_congr _ fun name hname => among_of_mem ?_
  refine mem_firstAppearances.mpr (List.mem_map.mpr ⟨name.toList, hname, ?_⟩)
  exact String.ofList_toList

/-- In a template where every opening brace begins a placeholder, values without an opening brace
add no placeholders. -/
theorem addsNoHoles_of_not_mem
    (htemplate : ∀ rest, '\x7b' :: rest <:+ template.toList → holeAt? ('\x7b' :: rest) ≠ none)
    (hvalues : ∀ entry ∈ values, '\x7b' ∉ entry.2.shown.toList) :
    AddsNoHoles template values := by
  intro done name later h _ _
  refine Or.inr (holes_substitute (word_next h) (among_next h) (fun other new hnew => ?_) htemplate)
  obtain ⟨v, hv, rfl⟩ := exists_of_valueIn (eq_some_of_among hnew)
  exact hvalues _ hv

/-- **Rendering is one simultaneous substitution** of the placeholders of the template, at every
stage, exactly if no value that is filled in makes a placeholder for a name that is still to
come. -/
theorem rendered_at_once_iff (template : String) (values : Entries String Value) :
    ((∀ done later, names template = done ++ later →
        render template done values =
          String.ofList (substitute (among done (valueIn values)) template.toList)) ↔
      AddsNoHoles template values) ∧
    (AddsNoHoles template values →
      renderAll template values =
        String.ofList (substitute (valueIn values) template.toList)) := by
  refine ⟨⟨fun hstages done name later h => ?_, fun hadds done later h =>
    render_of_addsNoHoles hadds h⟩, fun hadds => ?_⟩
  · have hnext : names template = (done ++ [name]) ++ later := by
      rw [List.append_assoc, List.singleton_append, h]
    exact (render_next_iff h (hstages done _ h)).mp (hstages _ later hnext)
  · rw [renderAll, render_of_addsNoHoles hadds (List.append_nil _).symm, substitute_among_names]

end Rendering

/-- A greeting with a name twice and a place that has no value. -/
def greeting : String := "Dear {name} of {city}, {who} has written to you, {name}."

/-- Values that hold no brace, one of them for a name that the greeting does not have. -/
def addressee : Entries String Value :=
  [("city", .null), ("name", .text "Ada"), ("day", .int 3)]

theorem rendered_at_once_greeting :
    AddsNoHoles greeting addressee ∧
    renderAll greeting addressee =
      String.ofList (substitute (valueIn addressee) greeting.toList) ∧
    renderAll greeting addressee =
      "Dear Ada of {city}, {who} has written to you, Ada." := by
  have htails : ∀ cs ∈ greeting.toList.tails, cs.head? = some '\x7b' → holeAt? cs ≠ none := by
    decide +kernel
  have hadds : AddsNoHoles greeting addressee :=
    addsNoHoles_of_not_mem (fun rest hrest => htails _ ((List.mem_tails _ _).mpr hrest) rfl)
      (by decide +kernel)
  exact ⟨hadds, (rendered_at_once_iff greeting addressee).2 hadds, by decide +kernel⟩

/-- A value that is a placeholder is filled in once more. -/
theorem rendered_twice_city :
    renderAll "{name} in {city}" [("name", .text "{city}"), ("city", .text "Paris")] =
      "Paris in Paris" ∧
    String.ofList (substitute (valueIn [("name", .text "{city}"), ("city", .text "Paris")])
      "{name} in {city}".toList) = "{city} in Paris" := by
  decide +kernel

end Template

end Entity
