import Entity.Formula.Parser
import Mathlib.Data.List.TakeWhile
import Mathlib.Tactic.Common

/-!
# Quotes and escapes

How a text literal is read up to its three closing quotes, and how its escapes are read.  Main
statements: a literal goes on past a text that does not close it and ends within one that does, and
the escapes of a text can be read before other text exactly if they can be read alone.
-/

namespace Entity.Formula

open Entity.Text

/-! ## Characters of code -/

theorem plainLineEnds_cons {c : Char} (hc : c ≠ '\r') (cs : List Char) :
    plainLineEnds (c :: cs) = c :: plainLineEnds cs :=
  plainLineEnds.eq_3 c cs (fun _ h _ => hc h) hc

/-- A text without carriage returns has plain line ends. -/
theorem plainLineEnds_append_of_not_mem {cs : List Char} (h : '\r' ∉ cs) (ds : List Char) :
    plainLineEnds (cs ++ ds) = cs ++ plainLineEnds ds := by
  induction cs with
  | nil => rfl
  | cons c cs ih =>
      rw [List.mem_cons, not_or] at h
      rw [List.cons_append, plainLineEnds_cons (Ne.symm h.1), ih h.2, List.cons_append]

/-- Code may hold a text. -/
theorem unreadable?_eq_none_iff {cs : List Char} :
    unreadable? cs = none ↔ ∀ c ∈ cs, holdsHalf c = false ∧ c ≠ '\x00' := by
  unfold unreadable?
  split
  · rename_i h
    obtain ⟨c, hc, hhalf⟩ := List.any_eq_true.mp h
    exact iff_of_false nofun fun h => by simp [(h c hc).1] at hhalf
  · rename_i h
    split
    · rename_i hzero
      exact iff_of_false nofun fun h => (h _ (List.contains_iff_mem.mp hzero)).2 rfl
    · rename_i hzero
      refine iff_of_true rfl fun c hc => ⟨?_, ?_⟩
      · simpa using fun hhalf => h (List.any_eq_true.mpr ⟨c, hc, hhalf⟩)
      · rintro rfl
        exact hzero (List.contains_iff_mem.mpr hc)

/-! ## Closing quotes -/

/-- Three double quotes. -/
def threeQuotes : List Char := ['"', '"', '"']

/-- Three quotes that close a text literal stand in a text: no backslash hides the first. -/
def closesQuotes : List Char → Bool
  | [] => false
  | '\\' :: _ :: cs => closesQuotes cs
  | c :: cs => threeQuotes.isPrefixOf (c :: cs) || closesQuotes cs

theorem untilQuotes?_cons {c : Char} (hslash : c ≠ '\\') (cs : List Char) :
    untilQuotes? '"' (c :: cs) =
      if threeQuotes.isPrefixOf (c :: cs) then some ([], cs.drop 2)
      else (untilQuotes? '"' cs).map fun (body, rest) => (c :: body, rest) := by
  rw [untilQuotes?.eq_3 '"' c cs (fun _ _ h => absurd h hslash), if_neg hslash]
  rfl

theorem isPrefixOf_append_cons {c : Char} (hquote : c ≠ '"') (cs ds : List Char) :
    threeQuotes.isPrefixOf (cs ++ c :: ds) = threeQuotes.isPrefixOf cs := by
  have hne : ('"' == c) = false := by simpa using hquote.symm
  match cs with
  | [] | [_] | [_, _] => simp [threeQuotes, List.isPrefixOf, hne]
  | _ :: _ :: _ :: _ => simp [threeQuotes, List.isPrefixOf]

/-- A literal goes on past a text that does not close it; the character after the text is neither a
quote nor a backslash. -/
theorem untilQuotes?_append_of_open {cs : List Char} (h : closesQuotes cs = false) {c : Char}
    (hquote : c ≠ '"') (hslash : c ≠ '\\') (ds : List Char) :
    untilQuotes? '"' (cs ++ c :: ds) =
      (untilQuotes? '"' (c :: ds)).map fun (body, rest) => (cs ++ body, rest) := by
  induction cs using closesQuotes.induct with
  | case1 => simp
  | case2 d cs ih =>
      rw [closesQuotes] at h
      simp only [List.cons_append, untilQuotes?, ih h, Option.map_map]
      rfl
  | case3 d cs hd ih =>
      rw [closesQuotes.eq_3 d cs hd, Bool.or_eq_false_iff] at h
      by_cases hd' : d = '\\'
      · -- a backslash at the end hides the character after the text
        subst hd'
        obtain rfl : cs = [] := by
          cases cs with
          | nil => rfl
          | cons e cs => exact absurd rfl (hd e cs rfl)
        have hprefix : threeQuotes.isPrefixOf (c :: ds) = false := by
          simp [threeQuotes, List.isPrefixOf, hquote.symm]
        rw [List.singleton_append, untilQuotes?, untilQuotes?_cons hslash, hprefix, if_neg (by simp),
          Option.map_map]
        rfl
      · have hprefix := isPrefixOf_append_cons hquote (d :: cs) ds
        rw [h.1] at hprefix
        rw [List.cons_append] at hprefix ⊢
        rw [untilQuotes?_cons hd', hprefix, ih h.2, if_neg (by simp), Option.map_map]
        rfl

/-- What is read of a literal stands before its three closing quotes. -/
theorem eq_append_of_untilQuotes? {cs body rest : List Char}
    (h : untilQuotes? '"' cs = some (body, rest)) : cs = body ++ threeQuotes ++ rest := by
  induction cs using closesQuotes.induct generalizing body with
  | case1 => cases h
  | case2 d cs ih =>
      rw [untilQuotes?] at h
      obtain ⟨r, hr, he⟩ := Option.map_eq_some_iff.mp h
      cases he
      rw [ih hr]
      simp
  | case3 d cs hd ih =>
      by_cases hd' : d = '\\'
      · subst hd'
        cases cs with
        | nil => simp [untilQuotes?] at h
        | cons e cs => exact absurd rfl (hd e cs rfl)
      · rw [untilQuotes?_cons hd'] at h
        split at h
        · rename_i hprefix
          obtain ⟨ds, hds⟩ := List.isPrefixOf_iff_prefix.mp hprefix
          cases h
          rw [← hds]
          obtain ⟨rfl, rfl⟩ : '"' = d ∧ '"' :: '"' :: ds = cs := by simpa [threeQuotes] using hds
          rfl
        · obtain ⟨r, hr, he⟩ := Option.map_eq_some_iff.mp h
          cases he
          rw [ih hr]
          rfl

/-- A literal ends within a text that closes it. -/
theorem exists_untilQuotes?_of_closes {cs : List Char} (h : closesQuotes cs = true)
    (ds : List Char) :
    ∃ body rest, untilQuotes? '"' (cs ++ ds) = some (body, rest) ∧ body.length < cs.length := by
  induction cs using closesQuotes.induct with
  | case1 => simp [closesQuotes] at h
  | case2 d cs ih =>
      rw [closesQuotes] at h
      obtain ⟨body, rest, hread, hlength⟩ := ih h
      refine ⟨'\\' :: d :: body, rest, ?_, by simpa using hlength⟩
      simp [untilQuotes?, hread]
  | case3 d cs hd ih =>
      rw [closesQuotes.eq_3 d cs hd, Bool.or_eq_true_iff] at h
      by_cases hd' : d = '\\'
      · subst hd'
        obtain rfl : cs = [] := by
          cases cs with
          | nil => rfl
          | cons e cs => exact absurd rfl (hd e cs rfl)
        simp [threeQuotes, closesQuotes] at h
      · by_cases hprefix : threeQuotes.isPrefixOf (d :: (cs ++ ds)) = true
        · exact ⟨[], (cs ++ ds).drop 2, by rw [List.cons_append, untilQuotes?_cons hd', if_pos hprefix],
            by simp⟩
        · have hcloses : closesQuotes cs = true := by
            refine h.resolve_left fun hstart => hprefix ?_
            rw [List.isPrefixOf_iff_prefix] at hstart ⊢
            exact hstart.trans (List.prefix_append (d :: cs) ds)
          obtain ⟨body, rest, hread, hlength⟩ := ih hcloses
          refine ⟨d :: body, rest, ?_, by simpa using hlength⟩
          rw [List.cons_append, untilQuotes?_cons hd', if_neg hprefix, hread]
          rfl

/-! ## Escapes -/

theorem cutAt?_append_of_not_mem {sep : Char} {ds : List Char} (h : sep ∉ ds) (cs : List Char) :
    cutAt? sep (cs ++ ds) = (cutAt? sep cs).map fun (before, after) => (before, after ++ ds) := by
  induction cs with
  | nil =>
      induction ds with
      | nil => rfl
      | cons d ds ih =>
          rw [List.mem_cons, not_or] at h
          simpa [cutAt?, Ne.symm h.1] using ih h.2
  | cons c cs ih =>
      rw [List.cons_append, cutAt?, cutAt?, ih]
      split
      · rfl
      · rw [Option.map_map, Option.map_map]
        rfl

theorem hexDigits?_append (n : Nat) (cs ds : List Char) :
    hexDigits? n (cs ++ ' ' :: ds) =
      (hexDigits? n cs).map fun (k, rest) => (k, rest ++ ' ' :: ds) := by
  simp only [hexDigits?]
  by_cases hn : n ≤ cs.length
  · rw [List.take_append_of_le_length hn, List.drop_append_of_le_length hn]
    split <;> rfl
  · -- too few digits stand before the blank, which is none
    have htake : ((cs ++ ' ' :: ds).take n).all isHexadecimal = false := by
      rw [List.all_eq_false]
      refine ⟨' ', ?_, by decide⟩
      rw [List.take_append, List.mem_append]
      right
      obtain ⟨k, hk⟩ : ∃ k, n - cs.length = k + 1 := ⟨n - cs.length - 1, by omega⟩
      simp [hk]
    have hlength : (cs.take n).length ≠ n := by
      rw [List.length_take]
      omega
    rw [if_neg fun h => by simp [htake] at h, if_neg fun h => hlength h.1]
    rfl

theorem namedChar?_append {ds : List Char} (h : '\x7d' ∉ ds) (cs : List Char) :
    namedChar? (cs ++ ' ' :: ds) =
      (namedChar? cs).map fun (e, rest) => (e, rest ++ ' ' :: ds) := by
  have hds : '\x7d' ∉ ' ' :: ds := by simpa using h
  cases cs with
  | nil => rfl
  | cons c cs =>
      by_cases hc : c = '\x7b'
      · subst hc
        simp [namedChar?, cutAt?_append_of_not_mem hds, Option.map_bind, Option.bind_map, Function.comp_def]
      · simp [namedChar?, hc]

/-- An escape is read alike before a blank. -/
theorem readEscape?_append {ds : List Char} (h : '\x7d' ∉ ds) (c : Char) (cs : List Char) :
    readEscape? false c (cs ++ ' ' :: ds) =
      (readEscape? false c cs).map fun (e, rest) => (e, rest ++ ' ' :: ds) := by
  have hoctal : ((cs ++ ' ' :: ds).take 2).takeWhile isOctal = (cs.take 2).takeWhile isOctal := by
    match cs with
    | [] | [_] | _ :: _ :: _ => simp [List.takeWhile_cons, show isOctal ' ' = false by decide]
  have hlength : ((cs.take 2).takeWhile isOctal).length ≤ cs.length :=
    ((List.takeWhile_sublist _).trans (List.take_sublist 2 cs)).length_le
  simp only [readEscape?, hoctal, List.length_cons, Nat.add_sub_cancel]
  by_cases hnewline : c = '\n'
  · rw [if_pos hnewline, if_pos hnewline]
    rfl
  rw [if_neg hnewline, if_neg hnewline]
  cases shortEscape? c with
  | some e => rfl
  | none =>
      by_cases hc : isOctal c = true
      · simp only [hc, if_true, List.drop_append_of_le_length hlength, Option.map_some]
      rw [if_neg hc, if_neg hc]
      cases escapeWidth? false c with
      | some width => simp [hexDigits?_append, Option.map_bind, Option.bind_map, Function.comp_def]
      | none =>
          by_cases hname : c = 'N'
          · simp [hname, namedChar?_append h, Function.comp_def]
          · simp [hname]

theorem length_le_of_cutAt? {sep : Char} {cs before after : List Char}
    (h : cutAt? sep cs = some (before, after)) : after.length ≤ cs.length := by
  induction cs generalizing before with
  | nil => cases h
  | cons c cs ih =>
      rw [cutAt?] at h
      split at h
      · cases h
        simp
      · obtain ⟨r, hr, he⟩ := Option.map_eq_some_iff.mp h
        cases he
        exact Nat.le_succ_of_le (ih hr)

theorem length_le_of_namedChar? {cs rest : List Char} {e : Char}
    (h : namedChar? cs = some (e, rest)) : rest.length ≤ cs.length := by
  unfold namedChar? at h
  split at h
  · simp only [Option.bind_eq_bind, Option.bind_eq_some_iff, Option.some.injEq] at h
    obtain ⟨r, hr, -, -, -, -, rfl, rfl⟩ := h
    exact Nat.le_succ_of_le (length_le_of_cutAt? hr)
  · cases h

/-- Reading an escape leaves no more characters than there were. -/
theorem length_le_of_readEscape? {c : Char} {cs e rest : List Char}
    (h : readEscape? false c cs = some (e, rest)) : rest.length ≤ cs.length := by
  simp only [readEscape?] at h
  split at h
  · cases h
    exact Nat.le_refl _
  split at h
  · cases h
    exact Nat.le_refl _
  split at h
  · cases h
    simp
  split at h
  · simp only [hexDigits?, Option.bind_eq_bind, Option.bind_eq_some_iff] at h
    obtain ⟨r, hr, e', -, he⟩ := h
    split at hr
    · cases hr
      cases he
      simp
    · cases hr
  split at h
  · rw [Option.map_eq_some_iff] at h
    obtain ⟨r, hr, he⟩ := h
    cases he
    exact length_le_of_namedChar? hr
  · cases h
    exact Nat.le_refl _

theorem unescape?_slash (isBytes : Bool) (fuel : Nat) (c : Char) (cs : List Char) :
    unescape? isBytes (fuel + 1) ('\\' :: c :: cs) =
      (readEscape? isBytes c cs).bind fun r => (unescape? isBytes fuel r.2).map (r.1 ++ ·) := by
  rw [unescape?]
  refine Option.bind_congr fun ⟨part, rest⟩ _ => ?_
  cases h : unescape? isBytes fuel rest <;> simp [h]

theorem unescape?_cons {c : Char} (h : c ≠ '\\') (isBytes : Bool) (fuel : Nat) (cs : List Char) :
    unescape? isBytes (fuel + 1) (c :: cs) = (unescape? isBytes fuel cs).map (c :: ·) :=
  unescape?.eq_5 _ _ _ _ (fun hc _ => h hc) (fun _ _ hc _ => h hc)

/-- A text without backslashes has no escapes. -/
theorem isSome_unescape?_of_not_mem {ds : List Char} (h : '\\' ∉ ds) (fuel : Nat) :
    (unescape? false fuel ds).isSome = true := by
  induction fuel generalizing ds with
  | zero => rfl
  | succ fuel ih =>
      cases ds with
      | nil => rfl
      | cons d ds =>
          rw [List.mem_cons, not_or] at h
          rw [unescape?_cons (Ne.symm h.1), Option.isSome_map]
          exact ih h.2

/-- The escapes of a text can be read before a blank, and other text without escapes, exactly if
they can be read alone. -/
theorem isSome_unescape?_append {ds : List Char} (hslash : '\\' ∉ ds) (hbrace : '\x7d' ∉ ds)
    (fuel : Nat) {n : Nat} {cs : List Char} (hcs : cs.length ≤ n) :
    (unescape? false (n + fuel) (cs ++ ' ' :: ds)).isSome = (unescape? false n cs).isSome := by
  have hblank : '\\' ∉ ' ' :: ds := by simpa using hslash
  induction n generalizing cs with
  | zero =>
      obtain rfl : cs = [] := List.length_eq_zero_iff.mp (Nat.le_zero.mp hcs)
      exact isSome_unescape?_of_not_mem hblank _
  | succ n ih =>
      rw [Nat.add_right_comm]
      cases cs with
      | nil => exact isSome_unescape?_of_not_mem hblank _
      | cons c cs =>
      by_cases hc : c = '\\'
      · subst hc
        cases cs with
        | nil =>
            -- the backslash stays, as a blank is no escape
            have hescape : readEscape? false ' ' ds = some (['\\', ' '], ds) := by
              simp [readEscape?, shortEscape?, escapeWidth?, show isOctal ' ' = false by decide]
            rw [List.singleton_append, unescape?_slash, hescape, Option.bind_some,
              Option.isSome_map, isSome_unescape?_of_not_mem hslash]
            rfl
        | cons c cs =>
            rw [List.cons_append, List.cons_append, unescape?_slash, unescape?_slash,
              readEscape?_append hbrace]
            cases hread : readEscape? false c cs with
            | none => rfl
            | some r =>
                have hlength := length_le_of_readEscape? hread
                simp only [List.length_cons] at hcs
                rw [Option.map_some, Option.bind_some, Option.bind_some, Option.isSome_map,
                  Option.isSome_map]
                exact ih (by omega)
      · rw [List.cons_append, unescape?_cons hc, unescape?_cons hc, Option.isSome_map,
          Option.isSome_map]
        exact ih (Nat.le_of_succ_le_succ hcs)

end Entity.Formula
