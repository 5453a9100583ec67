import Entity.Proofs.Formula.Quotes

/-!
# How tokens are spelled

A text spells tokens if, in front of any text that may follow it, it is cut into just these tokens,
unless too many brackets are open.  What may follow is told by its first character: nothing that
would lengthen the last token.  Main statements: texts that spell tokens can be put together, words
and marks are spelled as they are, and a text that spells tokens on its own is cut into them.
-/

namespace Entity.Formula

open Entity.Text

/-! ## Beginnings -/

/-- The text begins with a character of a kind. -/
def Begins (p : Char → Bool) (cs : List Char) : Prop := ∃ c rest, cs = c :: rest ∧ p c = true

/-- The text is empty or begins with a character of a kind. -/
def MayBegin (p : Char → Bool) (cs : List Char) : Prop := ∀ c, cs.head? = some c → p c = true

theorem Begins.append {p : Char → Bool} {cs : List Char} (h : Begins p cs) (ds : List Char) :
    Begins p (cs ++ ds) := by
  obtain ⟨c, rest, rfl, hc⟩ := h
  exact ⟨c, rest ++ ds, rfl, hc⟩

theorem Begins.mayBegin {p : Char → Bool} {cs : List Char} (h : Begins p cs) : MayBegin p cs := by
  obtain ⟨c, rest, rfl, hc⟩ := h
  intro d hd
  cases hd
  exact hc

theorem Begins.mono {p q : Char → Bool} {cs : List Char} (h : Begins p cs)
    (hpq : ∀ c, p c = true → q c = true) : Begins q cs := by
  obtain ⟨c, rest, rfl, hc⟩ := h
  exact ⟨c, rest, rfl, hpq c hc⟩

theorem MayBegin.mono {p q : Char → Bool} {cs : List Char} (h : MayBegin p cs)
    (hpq : ∀ c, p c = true → q c = true) : MayBegin q cs := fun c hc => hpq c (h c hc)

theorem begins_cons {p : Char → Bool} {c : Char} (h : p c = true) (cs : List Char) :
    Begins p (c :: cs) := ⟨c, cs, rfl, h⟩

/-! ## Open brackets -/

/-- The brackets that are open after tokens. -/
def openAfter? : List Char → List Token → Option (List Char)
  | opened, [] => some opened
  | opened, .mark m :: ts => (brackets? opened m.toList).bind fun opened => openAfter? opened ts
  | opened, _ :: ts => openAfter? opened ts

theorem openAfter?_append (opened : List Char) (ts us : List Token) :
    openAfter? opened (ts ++ us) =
      (openAfter? opened ts).bind fun opened => openAfter? opened us := by
  induction ts generalizing opened with
  | nil => rfl
  | cons t ts ih =>
      cases t with
      | mark m =>
          simp only [List.cons_append, openAfter?, Option.bind_assoc]
          exact Option.bind_congr fun opened' _ => ih opened'
      | _ => exact ih opened

/-- Brackets and those that close them. -/
def bracketPairs : List (Char × Char) := [('(', ')'), ('[', ']'), ('\x7b', '\x7d')]

theorem brackets?_open {o c : Char} (h : (o, c) ∈ bracketPairs) (opened : List Char) :
    brackets? opened [o] = if opened.length < bracketLimit then some (o :: opened) else none := by
  simp only [bracketPairs, List.mem_cons, Prod.mk.injEq, List.not_mem_nil, or_false] at h
  rcases h with ⟨rfl, rfl⟩ | ⟨rfl, rfl⟩ | ⟨rfl, rfl⟩ <;> simp [brackets?]

theorem brackets?_close {o c : Char} (h : (o, c) ∈ bracketPairs) (opened : List Char) :
    brackets? (o :: opened) [c] = some opened := by
  simp only [bracketPairs, List.mem_cons, Prod.mk.injEq, List.not_mem_nil, or_false] at h
  rcases h with ⟨rfl, rfl⟩ | ⟨rfl, rfl⟩ | ⟨rfl, rfl⟩ <;> rfl

/-- All brackets are closed again, unless too many are open. -/
def Matched (ts : List Token) : Prop :=
  ∀ opened opened', openAfter? opened ts = some opened' → opened' = opened

namespace Matched

variable {ts us : List Token}

theorem nil : Matched [] := fun _ _ h => (Option.some.inj h).symm

theorem append (h : Matched ts) (h' : Matched us) : Matched (ts ++ us) := by
  intro opened opened' hopened
  rw [openAfter?_append, Option.bind_eq_some_iff] at hopened
  obtain ⟨between, hbetween, hopened⟩ := hopened
  rw [h' between opened' hopened, h opened between hbetween]

theorem word (w : String) : Matched [.word w] := nil

theorem number (l : Literal) : Matched [.number l] := nil

theorem text (q : QuotedText) : Matched [.text q] := nil

/-- A mark that is no bracket. -/
theorem mark {m : String} (h : ["(", "[", "\x7b", ")", "]", "\x7d"].contains m = false) :
    Matched [.mark m] := by
  intro opened opened' hopened
  simp only [openAfter?, Option.bind_eq_some_iff] at hopened
  obtain ⟨between, hbrackets, hopened⟩ := hopened
  cases hopened
  have hplain : brackets? opened m.toList = some opened := by
    unfold brackets?
    split
    · rename_i c hc
      have hm : m = String.ofList [c] := by rw [← hc, String.ofList_toList]
      subst hm
      rw [if_neg, if_neg]
      · rintro (rfl | rfl | rfl) <;> simp at h
      · rintro (rfl | rfl | rfl) <;> simp at h
    · rfl
  rw [hplain] at hbrackets
  exact (Option.some.inj hbrackets).symm

/-- Tokens between a bracket and the one that closes it. -/
theorem brackets {o c : Char} (h : (o, c) ∈ bracketPairs) (hts : Matched ts) :
    Matched (.mark (String.ofList [o]) :: (ts ++ [.mark (String.ofList [c])])) := by
  intro opened opened' hopened
  simp only [openAfter?, openAfter?_append, Option.bind_eq_some_iff, String.toList_ofList]
    at hopened
  obtain ⟨first, hfirst, between, hbetween, last, hlast, hopened⟩ := hopened
  cases hopened
  obtain rfl := hts first between hbetween
  rw [brackets?_open h] at hfirst
  split at hfirst
  · cases hfirst
    rw [brackets?_close h] at hlast
    exact (Option.some.inj hlast).symm
  · cases hfirst

end Matched

/-! ## Spelling -/

/-- A character that is read as it stands: no end of a line that is read as another one, not the
character with code 0 and no half of a pair. -/
def isQuiet (c : Char) : Bool := c != '\r' && c != '\x00' && !holdsHalf c

/-- The text is cut into the tokens in front of every text that begins as it may, unless too many
brackets are open. -/
structure Spells (follow : Char → Bool) (cs : List Char) (ts : List Token) : Prop where
  length_le : ts.length ≤ cs.length
  quiet : ∀ c ∈ cs, isQuiet c = true
  tokensFrom_append : ∀ n levels opened opened' rest, MayBegin follow rest →
    openAfter? opened ts = some opened' →
    tokensFrom (n + ts.length) false opened levels (cs ++ rest) =
      ts ++ tokensFrom n false opened' levels rest
  bad_mem : ∀ n levels opened rest, MayBegin follow rest → openAfter? opened ts = none →
    .bad ∈ tokensFrom (n + ts.length) false opened levels (cs ++ rest)

namespace Spells

variable {follow follow' : Char → Bool} {cs ds : List Char} {ts us : List Token}

theorem mono (h : Spells follow cs ts) (hfollow : ∀ c, follow' c = true → follow c = true) :
    Spells follow' cs ts where
  length_le := h.length_le
  quiet := h.quiet
  tokensFrom_append n levels opened opened' rest hrest :=
    h.tokensFrom_append n levels opened opened' rest (hrest.mono hfollow)
  bad_mem n levels opened rest hrest := h.bad_mem n levels opened rest (hrest.mono hfollow)

/-- Texts can be put together if the second begins as what follows the first may. -/
theorem append (h : Spells follow cs ts) (h' : Spells follow' ds us) (hds : Begins follow ds) :
    Spells follow' (cs ++ ds) (ts ++ us) where
  length_le := by
    rw [List.length_append, List.length_append]
    exact Nat.add_le_add h.length_le h'.length_le
  quiet c hc := (List.mem_append.mp hc).elim (h.quiet c) (h'.quiet c)
  tokensFrom_append n levels opened opened' rest hrest hopened := by
    rw [openAfter?_append, Option.bind_eq_some_iff] at hopened
    obtain ⟨between, hbetween, hopened⟩ := hopened
    have hlength : n + (ts ++ us).length = n + us.length + ts.length := by
      rw [List.length_append]
      omega
    rw [hlength, List.append_assoc, List.append_assoc,
      h.tokensFrom_append (n + us.length) levels opened between _ (hds.append rest).mayBegin hbetween,
      h'.tokensFrom_append n levels between opened' rest hrest hopened]
  bad_mem n levels opened rest hrest hopened := by
    have hlength : n + (ts ++ us).length = n + us.length + ts.length := by
      rw [List.length_append]
      omega
    have hbegin := (hds.append rest).mayBegin
    rw [hlength, List.append_assoc]
    cases hfirst : openAfter? opened ts with
    | none => exact h.bad_mem _ levels opened _ hbegin hfirst
    | some between =>
        rw [openAfter?_append, hfirst, Option.bind_some] at hopened
        rw [h.tokensFrom_append _ levels opened between _ hbegin hfirst]
        exact List.mem_append_right _ (h'.bad_mem n levels between rest hrest hopened)

end Spells

/-- A single token that is no mark is spelled by what is cut into it. -/
theorem spells_singleton {follow : Char → Bool} {cs : List Char} {t : Token} (hcs : cs ≠ [])
    (hquiet : ∀ c ∈ cs, isQuiet c = true) (hopened : ∀ opened, openAfter? opened [t] = some opened)
    (hcut : ∀ n levels opened rest, MayBegin follow rest →
      tokensFrom (n + 1) false opened levels (cs ++ rest) =
        t :: tokensFrom n false opened levels rest) : Spells follow cs [t] where
  length_le := List.length_pos_iff.mpr hcs
  quiet := hquiet
  tokensFrom_append n levels opened opened' rest hrest h := by
    rw [hopened] at h
    cases h
    exact hcut n levels opened rest hrest
  bad_mem n levels opened rest _ h := by
    rw [hopened] at h
    cases h

/-! ## Blanks -/

theorem spells_blank : Spells (fun _ => true) [' '] [] where
  length_le := Nat.zero_le _
  quiet := List.all_eq_true.mp (by decide)
  tokensFrom_append n levels opened opened' rest _ hopened := by
    cases hopened
    cases n with
    | zero => rfl
    | succ n => simp [tokensFrom, isInnerBlank]
  bad_mem n levels opened rest _ hopened := nomatch hopened

/-! ## Tokens at the start of a text -/

/-- A character at which a token begins. -/
def beginsToken (c : Char) : Bool := !isInnerBlank c && c != '#' && c != '\n' && c != '\\'

/-- The tokens of a text that begins with one. -/
theorem tokensFrom_cons {c : Char} (hc : beginsToken c = true) (n : Nat) (opened : List Char)
    (levels : List Indentation) (cs : List Char) :
    tokensFrom (n + 1) false opened levels (c :: cs) =
      if mayBeginName c then
        match (c :: cs).dropWhile mayContinueName with
        | q :: more =>
          match if q = '"' ∨ q = '\'' then readText? ((c :: cs).takeWhile mayContinueName) q more
            else none with
          | some (t, more) => .text t :: tokensFrom n false opened levels more
          | none =>
            if isName ((c :: cs).takeWhile mayContinueName) then
              .word (String.ofList ((c :: cs).takeWhile mayContinueName)) ::
                tokensFrom n false opened levels (q :: more)
            else [.bad]
        | [] =>
          if isName ((c :: cs).takeWhile mayContinueName) then
            .word (String.ofList ((c :: cs).takeWhile mayContinueName)) ::
              tokensFrom n false opened levels []
          else [.bad]
      else if c.isDigit || (c == '.' && beginsDigit cs) then
        match readNumber? (c :: cs) with
        | some (l, more) => .number l :: tokensFrom n false opened levels more
        | none => [.bad]
      else if c = '"' ∨ c = '\'' then
        match readText? [] c cs with
        | some (t, more) => .text t :: tokensFrom n false opened levels more
        | none => [.bad]
      else match markAt? (c :: cs) with
        | none => [.bad]
        | some m => match brackets? opened m with
          | none => [.bad]
          | some opened => .mark (String.ofList m) ::
              tokensFrom n false opened levels ((c :: cs).drop m.length) := by
  simp only [beginsToken, Bool.and_eq_true, Bool.not_eq_true', bne_iff_ne, ne_eq] at hc
  obtain ⟨⟨⟨hblank, hcomment⟩, hline⟩, hslash⟩ := hc
  have hskip : skipComment ((c :: cs).dropWhile isInnerBlank) = c :: cs := by
    rw [List.dropWhile_cons_of_neg (by simpa using hblank), skipComment]
    intro rest h
    exact hcomment (List.cons.inj h).1
  rw [tokensFrom, hskip]
  split
  · rename_i h
    cases h
  · rename_i h
    exact absurd (List.cons.inj h).1 hline
  · rename_i h
    exact absurd (List.cons.inj h).1 hslash
  · rename_i h
    obtain ⟨rfl, rfl⟩ := List.cons.inj h
    rfl

/-! ## Words -/

/-- The text is a word of its own. -/
def isPlainWord (w : List Char) : Bool :=
  w.head?.any mayBeginName && w.all (fun c => mayContinueName c && isQuiet c) && isName w

/-- A character that ends a word and begins no text literal. -/
def endsWord (c : Char) : Bool := !mayContinueName c && c != '"' && c != '\''

theorem beginsToken_of_mayBeginName {c : Char} (h : mayBeginName c = true) :
    beginsToken c = true := by
  by_contra hc
  simp only [beginsToken, isInnerBlank, Bool.and_eq_true, Bool.not_eq_true', bne_iff_ne, ne_eq,
    Bool.or_eq_false_iff, beq_eq_false_iff_ne, not_and_or, not_not] at hc
  rcases hc with ((((rfl | rfl) | rfl) | rfl) | rfl) | rfl
  all_goals
    revert h
    decide

/-- The characters of a name end before one that ends words. -/
theorem span_word {w : List Char} (hw : ∀ c ∈ w, mayContinueName c = true) {rest : List Char}
    (hrest : MayBegin (!mayContinueName ·) rest) :
    (w ++ rest).takeWhile mayContinueName = w ∧ (w ++ rest).dropWhile mayContinueName = rest := by
  have hstop : rest.takeWhile mayContinueName = [] ∧ rest.dropWhile mayContinueName = rest := by
    cases rest with
    | nil => exact ⟨rfl, rfl⟩
    | cons d rest =>
        have hd : mayContinueName d = false := by simpa using hrest d rfl
        simp [hd]
  rw [List.takeWhile_append_of_pos hw, List.dropWhile_append_of_pos hw, hstop.1, hstop.2,
    List.append_nil]
  exact ⟨rfl, rfl⟩

theorem spells_word {w : List Char} (h : isPlainWord w = true) :
    Spells endsWord w [.word (String.ofList w)] := by
  simp only [isPlainWord, Bool.and_eq_true, List.all_eq_true] at h
  obtain ⟨⟨hbegins, hall⟩, hname⟩ := h
  cases w with
  | nil => cases hbegins
  | cons c w =>
      have hbegins : mayBeginName c = true := by simpa using hbegins
      refine spells_singleton nofun (fun d hd => (hall d hd).2) (fun _ => rfl)
        fun n levels opened rest hrest => ?_
      obtain ⟨htake, hdrop⟩ := span_word (fun d hd => (hall d hd).1) (hrest.mono fun d hd => by
        simp only [endsWord, Bool.and_eq_true] at hd
        exact hd.1.1)
      rw [List.cons_append] at htake hdrop ⊢
      rw [tokensFrom_cons (beginsToken_of_mayBeginName hbegins), if_pos hbegins, htake, hdrop]
      cases rest with
      | nil => simp [hname]
      | cons d rest =>
          have hd := hrest d rfl
          simp only [endsWord, Bool.and_eq_true, bne_iff_ne, ne_eq] at hd
          simp [hname, hd.1.2, hd.2]

/-! ## Marks -/

/-- The character lengthens no mark. -/
def endsMark (m : List Char) (c : Char) : Bool := marks.all fun m' => !(m ++ [c]).isPrefixOf m'

/-- Longer marks stand first in the list of marks. -/
theorem marks_sorted : ∀ m ∈ marks, ∀ m' ∈ marks.takeWhile (· != m), m.length ≤ m'.length := by
  decide

theorem markAt?_append {m : List Char} (hm : m ∈ marks) {rest : List Char}
    (hrest : MayBegin (endsMark m) rest) : markAt? (m ++ rest) = some m := by
  have hsplit : marks = marks.takeWhile (· != m) ++ marks.dropWhile (· != m) :=
    List.takeWhile_append_dropWhile.symm
  obtain ⟨m', after, hdrop⟩ : ∃ m' after, marks.dropWhile (· != m) = m' :: after := by
    refine List.exists_cons_of_ne_nil fun hnil => ?_
    exact absurd (List.dropWhile_eq_nil_iff.mp hnil m hm) (by simp)
  obtain rfl : m' = m := by
    have hhead := List.head?_dropWhile_not (· != m) marks
    rw [hdrop] at hhead
    simpa using hhead
  refine List.find?_eq_some_iff_append.mpr ⟨by simp, _, after, hsplit.trans (by rw [hdrop]), ?_⟩
  intro a ha
  have hlength := marks_sorted m' hm a ha
  have hne : a ≠ m' := by simpa using List.mem_takeWhile_imp ha
  have hmem : a ∈ marks := (List.takeWhile_prefix _).subset ha
  by_contra hprefix
  have hprefix : a <+: m' ++ rest := by simpa using hprefix
  have hlonger : m' <+: a := List.prefix_of_prefix_length_le (List.prefix_append m' rest) hprefix hlength
  obtain ⟨more, rfl⟩ := hlonger
  rw [List.prefix_append_right_inj] at hprefix
  -- the longer mark would go on with the first character of what follows
  cases more with
  | nil => simp at hne
  | cons d more =>
      obtain ⟨after', rfl⟩ := hprefix
      have hends : endsMark m' d = true := hrest d rfl
      have hlong := List.all_eq_true.mp hends _ hmem
      have hprefix' : m' ++ [d] <+: m' ++ d :: more := ⟨more, by simp⟩
      rw [List.isPrefixOf_iff_prefix.mpr hprefix'] at hlong
      cases hlong

/-- Marks begin with no character at which something else begins. -/
theorem marks_begin : ∀ m ∈ marks, m.head?.any (fun c => beginsToken c && !mayBeginName c &&
    !c.isDigit && c != '"' && c != '\'') = true := by decide

theorem marks_quiet : ∀ m ∈ marks, ∀ c ∈ m, isQuiet c = true := by
  have hall : ∀ m ∈ marks, m.all isQuiet = true := by decide
  exact fun m hm => List.all_eq_true.mp (hall m hm)

theorem spells_mark {m : List Char} (hm : m ∈ marks) {follow : Char → Bool}
    (hfollow : ∀ c, follow c = true → endsMark m c = true)
    (hpoint : m = ['.'] → ∀ c, follow c = true → c.isDigit = false) :
    Spells follow m [.mark (String.ofList m)] := by
  have hcut (n : Nat) (levels : List Indentation) (opened rest : List Char)
      (hrest : MayBegin follow rest) : tokensFrom (n + 1) false opened levels (m ++ rest) =
        match brackets? opened m with
        | none => [.bad]
        | some opened => .mark (String.ofList m) :: tokensFrom n false opened levels rest := by
    have hbegin := marks_begin m hm
    have hat := markAt?_append hm (hrest.mono hfollow)
    cases m with
    | nil => cases hbegin
    | cons c m =>
        simp only [List.head?_cons, Option.any_some, Bool.and_eq_true, Bool.not_eq_true',
          bne_iff_ne, ne_eq] at hbegin
        obtain ⟨⟨⟨⟨htoken, hname⟩, hdigit⟩, hdouble⟩, hsingle⟩ := hbegin
        have hnumber : (c == '.' && beginsDigit (m ++ rest)) = false := by
          by_contra hdot
          simp only [Bool.not_eq_false, Bool.and_eq_true, beq_iff_eq] at hdot
          obtain ⟨rfl, hdot⟩ := hdot
          have hdots : m = ['.', '.'] ∨ m = [] := by
            revert hm
            simp [marks]
          rcases hdots with rfl | rfl
          · cases hdot
          · cases rest with
            | nil => cases hdot
            | cons d rest =>
                have hd : d.isDigit = true := hdot
                rw [hpoint rfl d (hrest d rfl)] at hd
                cases hd
        rw [List.cons_append] at hat ⊢
        rw [tokensFrom_cons htoken, if_neg (by simp [hname]), if_neg (by simp [hdigit, hnumber]),
          if_neg (by simp [hdouble, hsingle]), hat]
        simp only [← List.cons_append, List.drop_left]
  have hopenAfter (opened : List Char) :
      openAfter? opened [.mark (String.ofList m)] = brackets? opened m := by
    simp [openAfter?]
  constructor
  · have hbegin := marks_begin m hm
    cases m with
    | nil => cases hbegin
    | cons c m => simp
  · exact marks_quiet m hm
  · intro n levels opened opened' rest hrest hopened
    rw [hopenAfter] at hopened
    rw [List.length_singleton, hcut n levels opened rest hrest, hopened]
    rfl
  · intro n levels opened rest hrest hopened
    rw [hopenAfter] at hopened
    rw [List.length_singleton, hcut n levels opened rest hrest, hopened]
    exact List.mem_singleton.mpr rfl

/-! ## Whole texts -/

theorem plainLineEnds_of_quiet {cs : List Char} (h : ∀ c ∈ cs, isQuiet c = true) :
    plainLineEnds cs = cs := by
  have hreturn : '\r' ∉ cs := fun hc => absurd (h _ hc) (by decide)
  have hends := plainLineEnds_append_of_not_mem hreturn []
  rwa [List.append_nil, plainLineEnds, List.append_nil] at hends

theorem unreadable?_of_quiet {cs : List Char} (h : ∀ c ∈ cs, isQuiet c = true) :
    unreadable? cs = none := by
  refine unreadable?_eq_none_iff.mpr fun c hc => ?_
  have hquiet := h c hc
  simp only [isQuiet, Bool.and_eq_true, bne_iff_ne, ne_eq, Bool.not_eq_true'] at hquiet
  exact ⟨hquiet.2, hquiet.1.2⟩

/-- The indentation of a line that begins with a token. -/
theorem indentation_of_begins {cs : List Char} (h : Begins beginsToken cs) :
    indentation {} none cs = some ({}, cs) ∧ isEmptyLine cs = false := by
  obtain ⟨c, cs, rfl, hc⟩ := h
  simp only [beginsToken, isInnerBlank, Bool.and_eq_true, Bool.not_eq_true', bne_iff_ne, ne_eq,
    Bool.or_eq_false_iff, beq_eq_false_iff_ne] at hc
  obtain ⟨⟨⟨⟨⟨hblank, htab⟩, hpage⟩, hcomment⟩, hline⟩, hslash⟩ := hc
  constructor
  · unfold indentation
    split <;> simp_all
  · unfold isEmptyLine
    split <;> simp_all

/-- A text that spells tokens is cut into them, unless too many brackets are open. -/
theorem Spells.tokensOf_eq {follow : Char → Bool} {cs : List Char} {ts : List Token}
    (h : Spells follow cs ts) (hbegins : Begins beginsToken cs) (hmatched : Matched ts)
    (hbad : .bad ∉ tokensOf cs) : tokensOf cs = ts := by
  obtain ⟨hindentation, hempty⟩ := indentation_of_begins hbegins
  have hfresh : tokensOf cs = tokensFrom (2 * cs.length + 1) false [] [] cs := by
    rw [tokensOf, tokensFrom, hindentation]
    simp [hempty, lineStart?, topLevel]
  obtain ⟨n, hn⟩ : ∃ n, 2 * cs.length + 1 = n + 1 + ts.length :=
    ⟨2 * cs.length - ts.length, by have := h.length_le; omega⟩
  have hend : MayBegin follow [] := nofun
  rw [hfresh, hn] at hbad ⊢
  cases hopened : openAfter? [] ts with
  | none =>
      have hmem := h.bad_mem (n + 1) [] [] [] hend hopened
      rw [List.append_nil] at hmem
      exact absurd hmem hbad
  | some opened =>
      obtain rfl := hmatched [] opened hopened
      have hcut := h.tokensFrom_append (n + 1) [] [] [] [] hend hopened
      rw [List.append_nil] at hcut
      rw [hcut]
      simp [tokensFrom, skipComment]

end Entity.Formula
