import Entity.Text.Split
import Entity.Text.Word
import Mathlib.Data.List.DropRight
import Mathlib.Data.List.TakeDrop
import Mathlib.Tactic.Common

/-!
# The ends of texts

A text without blanks at its ends is not changed by trimming, and texts that are put together keep
the ends that they do not share.  Main statements: what trimming does to a text with solid ends, and
that cutting at a separator undoes joining.
-/

namespace Entity.Text

/-! ## Solid ends -/

/-- The text begins with a character that is not blank. -/
def SolidStart (cs : List Char) : Prop := ∃ c rest, cs = c :: rest ∧ isBlank c = false

/-- The text ends with a character that is not blank. -/
def SolidEnd (cs : List Char) : Prop := ∃ init c, cs = init ++ [c] ∧ isBlank c = false

theorem SolidStart.append {cs : List Char} (h : SolidStart cs) (ds : List Char) :
    SolidStart (cs ++ ds) := by
  obtain ⟨c, rest, rfl, hc⟩ := h
  exact ⟨c, rest ++ ds, rfl, hc⟩

theorem SolidEnd.append {ds : List Char} (h : SolidEnd ds) (cs : List Char) :
    SolidEnd (cs ++ ds) := by
  obtain ⟨init, c, rfl, hc⟩ := h
  exact ⟨cs ++ init, c, (List.append_assoc cs init [c]).symm, hc⟩

theorem SolidStart.ne_nil {cs : List Char} (h : SolidStart cs) : cs ≠ [] := by
  obtain ⟨c, rest, rfl, _⟩ := h
  exact List.cons_ne_nil c rest

theorem trimStart_of_solid {cs : List Char} (h : SolidStart cs) : trimStart cs = cs := by
  obtain ⟨c, rest, rfl, hc⟩ := h
  exact trimStart_cons hc

theorem trimEnd_of_solid {cs : List Char} (h : SolidEnd cs) : trimEnd cs = cs := by
  obtain ⟨init, c, rfl, hc⟩ := h
  exact trimEnd_concat hc

theorem trim_of_solid {cs : List Char} (hs : SolidStart cs) (he : SolidEnd cs) :
    trim cs = cs := by
  rw [trim, trimStart_of_solid hs, trimEnd_of_solid he]

/-- A blank before a solid text is trimmed off. -/
theorem trim_cons_blank {c : Char} {cs : List Char} (hc : isBlank c = true) (hs : SolidStart cs)
    (he : SolidEnd cs) : trim (c :: cs) = cs := by
  have hdrop : trimStart (c :: cs) = trimStart cs := by simp [trimStart, hc]
  rw [trim, hdrop, trimStart_of_solid hs, trimEnd_of_solid he]

theorem trimEnd_concat_blank {c : Char} {cs : List Char} (hc : isBlank c = true) :
    trimEnd (cs ++ [c]) = trimEnd cs := by
  simp [trimEnd, dropEndWhile, hc]

/-- A blank after a solid text is trimmed off. -/
theorem trim_concat_blank {c : Char} {cs : List Char} (hc : isBlank c = true)
    (hs : SolidStart cs) (he : SolidEnd cs) : trim (cs ++ [c]) = cs := by
  rw [trim, trimStart_of_solid (hs.append [c]), trimEnd_concat_blank hc, trimEnd_of_solid he]

theorem length_trimStart_le (cs : List Char) : (trimStart cs).length ≤ cs.length :=
  (List.dropWhile_sublist _).length_le

theorem length_trimEnd_le (cs : List Char) : (trimEnd cs).length ≤ cs.length := by
  have h := (List.dropWhile_sublist isBlank (l := cs.reverse)).length_le
  simpa [trimEnd, dropEndWhile] using h

theorem length_trim_le (cs : List Char) : (trim cs).length ≤ cs.length :=
  Nat.le_trans (length_trimEnd_le _) (length_trimStart_le cs)

/-- What trimming does not change is solid at both ends, or empty. -/
theorem solid_of_trim {cs : List Char} (h : trim cs = cs) (hne : cs ≠ []) :
    SolidStart cs ∧ SolidEnd cs := by
  have hstart : SolidStart cs := by
    obtain ⟨c, rest, rfl⟩ := List.exists_cons_of_ne_nil hne
    refine ⟨c, rest, rfl, ?_⟩
    by_contra hc
    have hdrop : trimStart (c :: rest) = trimStart rest :=
      List.dropWhile_cons_of_pos (by simpa using hc)
    have hlen := congrArg List.length h
    rw [trim, hdrop, List.length_cons] at hlen
    have h1 := length_trimEnd_le (trimStart rest)
    have h2 := length_trimStart_le rest
    omega
  refine ⟨hstart, ?_⟩
  rw [trim, trimStart_of_solid hstart] at h
  rcases List.eq_nil_or_concat cs with rfl | ⟨init, c, rfl⟩
  · exact absurd rfl hne
  · rw [List.concat_eq_append] at h ⊢
    refine ⟨init, c, rfl, ?_⟩
    by_contra hc
    have hlen := congrArg List.length h
    rw [trimEnd_concat_blank (by simpa using hc), List.length_append] at hlen
    have h1 := length_trimEnd_le init
    simp at hlen
    omega

/-- What dropping blanks leaves begins with no blank. -/
theorem isBlank_of_dropWhile {c : Char} {cs rest : List Char}
    (h : cs.dropWhile isBlank = c :: rest) : isBlank c = false := by
  have hhead := List.head?_dropWhile_not isBlank cs
  rw [h] at hhead
  exact hhead

theorem trimEnd_prefix_self (cs : List Char) : trimEnd cs <+: cs := by
  rw [trimEnd, dropEndWhile, ← List.reverse_suffix, List.reverse_reverse]
  exact List.dropWhile_suffix isBlank

/-- What trimming leaves is solid at both ends, or empty. -/
theorem solid_trim {cs : List Char} (h : trim cs ≠ []) :
    SolidStart (trim cs) ∧ SolidEnd (trim cs) := by
  constructor
  · obtain ⟨c, rest, hc⟩ := List.exists_cons_of_ne_nil h
    have hprefix := trimEnd_prefix_self (trimStart cs)
    change trim cs <+: trimStart cs at hprefix
    rw [hc] at hprefix ⊢
    obtain ⟨more, hmore⟩ := hprefix
    exact ⟨c, rest, rfl, isBlank_of_dropWhile hmore.symm⟩
  · have hne : (trimStart cs).reverse.dropWhile isBlank ≠ [] := by
      simpa [trim, trimEnd, dropEndWhile] using h
    obtain ⟨c, rest, hc⟩ := List.exists_cons_of_ne_nil hne
    refine ⟨rest.reverse, c, ?_, isBlank_of_dropWhile hc⟩
    rw [trim, trimEnd, dropEndWhile, hc, List.reverse_cons]

theorem trim_trim (cs : List Char) : trim (trim cs) = trim cs := by
  by_cases h : trim cs = []
  · rw [h, trim_nil]
  · exact trim_of_solid (solid_trim h).1 (solid_trim h).2

/-- Trimming adds no characters. -/
theorem mem_of_mem_trim {c : Char} {cs : List Char} (h : c ∈ trim cs) : c ∈ cs := by
  have hstart : c ∈ trimStart cs := (trimEnd_prefix_self _).subset h
  exact (List.dropWhile_suffix isBlank).subset hstart

/-! ## Words -/

/-- The code points of the blank characters. -/
def blankCodes : List Nat :=
  [9, 10, 11, 12, 13, 28, 29, 30, 31, 32, 0x85, 0xa0, 0x1680, 0x2000, 0x2001, 0x2002, 0x2003,
    0x2004, 0x2005, 0x2006, 0x2007, 0x2008, 0x2009, 0x200a, 0x2028, 0x2029, 0x202f, 0x205f, 0x3000]

theorem toNat_mem_blankCodes {c : Char} (h : isBlank c = true) : c.toNat ∈ blankCodes := by
  unfold isBlank at h
  simp only [Bool.or_eq_true, Bool.and_eq_true, decide_eq_true_eq, beq_iff_eq] at h
  simp only [blankCodes, List.mem_cons, List.not_mem_nil, or_false]
  omega

set_option maxRecDepth 4000 in
/-- No blank character is a word character. -/
theorem isBlank_of_isWord {c : Char} (h : isWord c = true) : isBlank c = false := by
  have hall : ∀ n ∈ blankCodes, isWord (Char.ofNat n) = false := by decide
  by_contra hc
  have hword := hall c.toNat (toNat_mem_blankCodes (by simpa using hc))
  rw [Char.ofNat_toNat, h] at hword
  cases hword

/-- A text that is not empty and holds word characters only. -/
structure Word (cs : List Char) : Prop where
  ne_nil : cs ≠ []
  all : ∀ c ∈ cs, isWord c = true

theorem word_of_all {cs : List Char} (hne : cs ≠ []) (hall : cs.all isWord = true) : Word cs :=
  ⟨hne, List.all_eq_true.mp hall⟩

theorem Word.solidStart {cs : List Char} (h : Word cs) : SolidStart cs := by
  obtain ⟨c, rest, rfl⟩ := List.exists_cons_of_ne_nil h.ne_nil
  exact ⟨c, rest, rfl, isBlank_of_isWord (h.all c (by simp))⟩

theorem Word.solidEnd {cs : List Char} (h : Word cs) : SolidEnd cs := by
  rcases List.eq_nil_or_concat cs with rfl | ⟨init, c, rfl⟩
  · exact absurd rfl h.ne_nil
  · rw [List.concat_eq_append] at h ⊢
    exact ⟨init, c, rfl, isBlank_of_isWord (h.all c (by simp))⟩

/-- A character that is no word character does not stand in a word. -/
theorem Word.not_mem {cs : List Char} (h : Word cs) {c : Char} (hc : isWord c = false) :
    c ∉ cs := by
  intro hmem
  rw [h.all c hmem] at hc
  cases hc

/-! ## Cutting what was joined -/

/-- The longest prefix of some characters ends where another one comes. -/
theorem span_append {p : Char → Bool} {cs rest : List Char} (h : ∀ c ∈ cs, p c = true)
    (hrest : ∀ c, rest.head? = some c → p c = false) : (cs ++ rest).span p = (cs, rest) := by
  have htail : rest.takeWhile p = [] ∧ rest.dropWhile p = rest := by
    cases rest with
    | nil => exact ⟨rfl, rfl⟩
    | cons c rest => simp [hrest c rfl]
  rw [List.span_eq_takeWhile_dropWhile, List.takeWhile_append_of_pos h,
    List.dropWhile_append_of_pos h, htail.1, htail.2, List.append_nil]

theorem splitAt_of_not_mem {sep : Char} {cs : List Char} (h : sep ∉ cs) :
    splitAt sep cs = [cs] := by
  induction cs with
  | nil => rfl
  | cons c cs ih =>
      rw [List.mem_cons, not_or] at h
      rw [splitAt, if_neg (Ne.symm h.1), ih h.2]

/-- No piece holds the separator. -/
theorem not_mem_of_mem_splitAt {sep : Char} {cs piece : List Char} (h : piece ∈ splitAt sep cs) :
    sep ∉ piece := by
  induction cs generalizing piece with
  | nil =>
      obtain rfl : piece = [] := by simpa [splitAt] using h
      exact List.not_mem_nil
  | cons c cs ih =>
      rw [splitAt] at h
      split at h
      · rcases List.mem_cons.mp h with rfl | h
        · exact List.not_mem_nil
        · exact ih h
      · rename_i hc
        split at h
        · rename_i hnil
          exact absurd hnil (splitAt_ne_nil sep cs)
        · rename_i first pieces hsplit
          rcases List.mem_cons.mp h with rfl | h
          -- the first piece has grown by a character that is no separator
          · rw [List.mem_cons, not_or]
            exact ⟨Ne.symm hc, ih (by simp [hsplit])⟩
          · exact ih (by simp [hsplit, h])

theorem splitAt_append {sep : Char} {cs : List Char} (h : sep ∉ cs) (rest : List Char) :
    splitAt sep (cs ++ sep :: rest) = cs :: splitAt sep rest := by
  induction cs with
  | nil => rw [List.nil_append, splitAt, if_pos rfl]
  | cons c cs ih =>
      rw [List.mem_cons, not_or] at h
      rw [List.cons_append, splitAt, if_neg (Ne.symm h.1), ih h.2]

/-- Joined pieces begin with the first of them. -/
theorem prefix_joinWith (sep piece : List Char) (pieces : List (List Char)) :
    piece <+: joinWith sep (piece :: pieces) := by
  cases pieces with
  | nil => exact List.prefix_rfl
  | cons next pieces =>
      rw [joinWith_cons _ _ (by simp), List.append_assoc]
      exact List.prefix_append _ _

/-- Joined pieces are solid at both ends when all pieces are. -/
theorem solid_joinWith (sep : List Char) {piece : List Char} {pieces : List (List Char)}
    (h : ∀ p ∈ piece :: pieces, SolidStart p ∧ SolidEnd p) :
    SolidStart (joinWith sep (piece :: pieces)) ∧ SolidEnd (joinWith sep (piece :: pieces)) := by
  constructor
  · obtain ⟨rest, hrest⟩ := prefix_joinWith sep piece pieces
    rw [← hrest]
    exact (h piece (by simp)).1.append rest
  · induction pieces generalizing piece with
    | nil => exact (h piece (by simp)).2
    | cons next pieces ih =>
        rw [joinWith_cons _ _ (by simp)]
        exact (ih fun p hp => h p (by simp [hp])).append _

theorem not_mem_joinWith {c : Char} {sep : List Char} {pieces : List (List Char)} (hsep : c ∉ sep)
    (h : ∀ p ∈ pieces, c ∉ p) : c ∉ joinWith sep pieces := by
  induction pieces with
  | nil => exact List.not_mem_nil
  | cons piece pieces ih =>
      have hrest := ih fun p hp => h p (by simp [hp])
      cases pieces with
      | nil => exact h piece (by simp)
      | cons next pieces =>
          rw [joinWith_cons _ _ (by simp)]
          simp only [List.mem_append, not_or]
          exact ⟨⟨h piece (by simp), hsep⟩, hrest⟩

/-- What stands before joined pieces belongs to the first of them. -/
theorem append_joinWith (sep cs piece : List Char) (pieces : List (List Char)) :
    cs ++ joinWith sep (piece :: pieces) = joinWith sep ((cs ++ piece) :: pieces) := by
  cases pieces with
  | nil => rfl
  | cons next pieces =>
      rw [joinWith_cons _ piece (by simp), joinWith_cons _ (cs ++ piece) (by simp)]
      simp

/-- Cutting at the character that a separator begins with leaves the rest of the separator. -/
theorem splitAt_joinWith {sep : Char} {blanks : List Char} (hb : sep ∉ blanks)
    {piece : List Char} {pieces : List (List Char)} (h : ∀ p ∈ piece :: pieces, sep ∉ p) :
    splitAt sep (joinWith (sep :: blanks) (piece :: pieces)) =
      piece :: pieces.map (blanks ++ ·) := by
  induction pieces generalizing piece with
  | nil => exact splitAt_of_not_mem (h piece (by simp))
  | cons next pieces ih =>
      have hpieces : joinWith (sep :: blanks) (piece :: next :: pieces) =
          piece ++ sep :: joinWith (sep :: blanks) ((blanks ++ next) :: pieces) := by
        rw [joinWith_cons _ _ (by simp), ← append_joinWith]
        simp
      have hnext : ∀ p ∈ (blanks ++ next) :: pieces, sep ∉ p := by
        intro p hp
        rcases List.mem_cons.mp hp with rfl | hp
        · rw [List.mem_append, not_or]
          exact ⟨hb, h next (by simp)⟩
        · exact h p (by simp [hp])
      rw [hpieces, splitAt_append (h piece (by simp)), ih hnext]
      rfl

/-- Words that are put together with blanks are found again. -/
theorem words_joinWith {pieces : List (List Char)} (hne : ∀ p ∈ pieces, p ≠ [])
    (hsolid : ∀ p ∈ pieces, ∀ c ∈ p, isBlank c = false) :
    words (joinWith [' '] pieces) = pieces := by
  cases pieces with
  | nil => rfl
  | cons piece pieces =>
      have hblank : ∀ c ∈ joinWith [' '] (piece :: pieces),
          (if isBlank c then ' ' else c) = id c := by
        intro c hc
        split
        · rename_i hb
          by_contra hother
          refine not_mem_joinWith ?_ (fun p hp hmem => ?_) hc
          · simpa using Ne.symm hother
          · rw [hsolid p hp c hmem] at hb
            cases hb
        · rfl
      have hspace : ∀ p ∈ piece :: pieces, ' ' ∉ p := fun p hp hmem => by
        have hb : isBlank ' ' = false := hsolid p hp ' ' hmem
        cases hb
      rw [words, List.map_congr_left hblank, List.map_id, splitAt_joinWith List.not_mem_nil hspace]
      simp only [List.nil_append, List.map_id']
      exact List.filter_eq_self.mpr fun p hp => by simpa using hne p hp

theorem cutAt?_append {sep : Char} {cs : List Char} (h : sep ∉ cs) (rest : List Char) :
    cutAt? sep (cs ++ sep :: rest) = some (cs, rest) := by
  induction cs with
  | nil => rw [List.nil_append, cutAt?, if_pos rfl]
  | cons c cs ih =>
      rw [List.mem_cons, not_or] at h
      rw [List.cons_append, cutAt?, if_neg (Ne.symm h.1), ih h.2]
      rfl

theorem cutAt?_of_not_mem {sep : Char} {cs : List Char} (h : sep ∉ cs) : cutAt? sep cs = none := by
  induction cs with
  | nil => rfl
  | cons c cs ih =>
      rw [List.mem_cons, not_or] at h
      rw [cutAt?, if_neg (Ne.symm h.1), ih h.2]
      rfl

/-! ## Starts -/

theorem afterStart?_eq_some {start cs rest : List Char} (h : afterStart? start cs = some rest) :
    cs = start ++ rest := by
  induction start generalizing cs with
  | nil =>
      cases h
      rfl
  | cons a start ih =>
      cases cs with
      | nil => cases h
      | cons c cs =>
          rw [afterStart?] at h
          split at h
          · rename_i hac
            rw [hac, ih h]
            rfl
          · cases h

theorem afterStart?_append (start rest : List Char) :
    afterStart? start (start ++ rest) = some rest := by
  induction start with
  | nil => rfl
  | cons c start ih => rw [List.cons_append, afterStart?, if_pos rfl, ih]

theorem beginsWith_iff {start cs : List Char} : beginsWith start cs = true ↔ start <+: cs := by
  rw [beginsWith, Option.isSome_iff_exists]
  constructor
  · rintro ⟨rest, h⟩
    exact ⟨rest, (afterStart?_eq_some h).symm⟩
  · rintro ⟨rest, rfl⟩
    exact ⟨rest, afterStart?_append start rest⟩

/-- A start without a character is found before that character. -/
theorem prefix_append_cons_iff {start : List Char} {c : Char} (hc : c ∉ start)
    (cs rest : List Char) : start <+: cs ++ c :: rest ↔ start <+: cs := by
  constructor
  · intro h
    induction start generalizing cs with
    | nil => exact List.nil_prefix
    | cons a start ih =>
        rw [List.mem_cons, not_or] at hc
        cases cs with
        | nil => exact absurd (List.cons_prefix_cons.mp h).1.symm hc.1
        | cons b cs =>
            obtain ⟨hab, h⟩ := List.cons_prefix_cons.mp h
            exact List.cons_prefix_cons.mpr ⟨hab, ih hc.2 cs h⟩
  · intro h
    exact h.trans (List.prefix_append cs _)

theorem dropEndWhile_eq_rdropWhile (p : Char → Bool) (cs : List Char) :
    dropEndWhile p cs = cs.rdropWhile p := rfl

end Entity.Text
