import Entity.Formula.Writer
import Entity.Proofs.Formula.Literals

/-!
# How text literals are spelled

A text is written between quotes, with escapes for what may not stand there.  Main statements: a
written text is one token, and its escapes stand for the characters of the text.
-/

namespace Entity.Text

/-! ## Ranges -/

theorem exists_of_inRanges {n : Nat} {rs : List (Nat × Nat)} (h : inRanges n rs = true) :
    ∃ r ∈ rs, r.1 ≤ n ∧ n ≤ r.2 := by
  induction rs with
  | nil => cases h
  | cons r rs ih =>
      rw [inRanges] at h
      split at h
      · cases h
      · rename_i hfirst
        rw [Bool.or_eq_true, decide_eq_true_eq] at h
        rcases h with hlast | h
        · exact ⟨r, List.mem_cons_self, by omega, hlast⟩
        · obtain ⟨r', hr', hin⟩ := ih h
          exact ⟨r', List.mem_cons_of_mem r hr', hin⟩

/-- What lies in ranges lies below their common bound. -/
theorem lt_of_inRanges {n bound : Nat} {rs : List (Nat × Nat)} (h : inRanges n rs = true)
    (hbound : rs.all (fun r => r.2 < bound) = true) : n < bound := by
  obtain ⟨r, hr, -, hlast⟩ := exists_of_inRanges h
  have hr := List.all_eq_true.mp hbound r hr
  rw [decide_eq_true_eq] at hr
  omega

/-! ## Hexadecimal digits -/

/-- The digits of a code point in as many places as they need. -/
theorem length_hex {width n : Nat} (hwidth : 0 < width) (h : n < 16 ^ width) :
    (hex width n).length = width := by
  have hlength := (Nat.length_toDigits_le_iff (by decide) hwidth).mpr h
  simp only [hex, List.length_append, List.length_replicate]
  omega

end Entity.Text

namespace Entity.Formula

open Entity.Text

theorem isHexadecimal_toDigits (n : Nat) : ∀ c ∈ Nat.toDigits 16 n, isHexadecimal c = true := by
  have hdigit : ∀ d < 16, isHexadecimal d.digitChar = true := by decide
  induction n using Nat.strongRecOn with
  | _ n ih =>
      rw [Nat.toDigits_eq_if (by decide)]
      split
      · rename_i hn
        simpa using hdigit n hn
      · intro c hc
        rcases List.mem_append.mp hc with hc | hc
        · exact ih (n / 16) (by omega) c hc
        · rw [List.mem_singleton.mp hc]
          exact hdigit _ (Nat.mod_lt _ (by decide))

theorem ofDigits_append_singleton (base : Nat) (ds : List Char) (d : Char) :
    ofDigits base (ds ++ [d]) = base * ofDigits base ds + digitValue d := by
  simp [ofDigits]

theorem ofDigits_toDigits (n : Nat) : ofDigits 16 (Nat.toDigits 16 n) = n := by
  have hdigit : ∀ d < 16, digitValue d.digitChar = d := by decide
  induction n using Nat.strongRecOn with
  | _ n ih =>
      rw [Nat.toDigits_eq_if (by decide)]
      split
      · rename_i hn
        simpa [ofDigits] using hdigit n hn
      · rw [ofDigits_append_singleton, ih (n / 16) (by omega),
          hdigit _ (Nat.mod_lt _ (by decide)), Nat.div_add_mod]

theorem ofDigits_hex (width n : Nat) : ofDigits 16 (hex width n) = n := by
  have hzeros (k : Nat) (ds : List Char) :
      ofDigits 16 (List.replicate k '0' ++ ds) = ofDigits 16 ds := by
    induction k with
    | zero => rfl
    | succ k ih =>
        rw [List.replicate_succ, List.cons_append, ← ih]
        rfl
  rw [hex, hzeros, ofDigits_toDigits]

theorem isHexadecimal_hex (width n : Nat) : ∀ c ∈ hex width n, isHexadecimal c = true := by
  intro c hc
  rcases List.mem_append.mp hc with hc | hc
  · rw [List.eq_of_mem_replicate hc]
    rfl
  · exact isHexadecimal_toDigits n c hc

theorem hexDigits?_hex {width n : Nat} (hwidth : 0 < width) (h : n < 16 ^ width)
    (rest : List Char) : hexDigits? width (hex width n ++ rest) = some (n, rest) := by
  have hlength := length_hex hwidth h
  have htake : (hex width n ++ rest).take width = hex width n := List.take_left' hlength
  have hdrop : (hex width n ++ rest).drop width = rest := List.drop_left' hlength
  rw [hexDigits?, htake, hdrop, if_pos ⟨hlength, List.all_eq_true.mpr (isHexadecimal_hex width n)⟩, ofDigits_hex]

/-! ## Characters -/

/-- The code point of a character is that of the character. -/
theorem charOfCode?_codeOf (c : Char) : charOfCode? (codeOf c) = some c := by
  have hvalid : c.toNat < 0xd800 ∨ 0xdfff < c.toNat ∧ c.toNat < 0x110000 := c.valid
  unfold codeOf
  split
  · rename_i hhalf
    simp only [holdsHalf, Bool.and_eq_true, decide_eq_true_eq] at hhalf
    rw [charOfCode?, if_pos hhalf.2, Nat.sub_add_cancel hhalf.1, Char.ofNat_toNat]
  · have hno : isHalf c.toNat = false := by
      simp only [isHalf, Bool.and_eq_false_iff, decide_eq_false_iff_not]
      omega
    rw [charOfCode?, if_neg (by simp [hno]), if_pos hvalid, Char.ofNat_toNat]

theorem codeOf_lt (c : Char) : codeOf c < 16 ^ 8 := by
  have hvalid : c.toNat < 0xd800 ∨ 0xdfff < c.toNat ∧ c.toNat < 0x110000 := c.valid
  unfold codeOf
  split <;> omega

theorem isQuiet_of_lt {c : Char} (h : c.toNat < halfShift) (hreturn : c ≠ '\r')
    (hnull : c ≠ '\x00') : isQuiet c = true := by
  have hhalf : holdsHalf c = false := by
    simp only [holdsHalf, Bool.and_eq_false_iff, decide_eq_false_iff_not]
    left
    omega
  simp [isQuiet, hreturn, hnull, hhalf]

/-- A printable character is read as it stands. -/
theorem isQuiet_of_isPrintable {c : Char} (h : isPrintable c = true) : isQuiet c = true := by
  have hlt : c.toNat < halfShift := by
    unfold isPrintable at h
    split at h
    · rename_i hc
      have hc : c.toNat < 128 := hc
      unfold halfShift
      omega
    · exact lt_of_inRanges h (by decide +kernel)
  refine isQuiet_of_lt hlt ?_ ?_ <;>
  · rintro rfl
    revert h
    decide

/-! ## Between quotes -/

/-- The text stands between quotes as it is. -/
def Inside (quote : Char) (body : List Char) : Prop :=
  ∀ rest, untilQuote? quote (body ++ rest) =
    (untilQuote? quote rest).map fun r => (body ++ r.1, r.2)

theorem inside_nil (quote : Char) : Inside quote [] := fun rest => by simp

theorem Inside.append {quote : Char} {body body' : List Char} (h : Inside quote body)
    (h' : Inside quote body') : Inside quote (body ++ body') := by
  intro rest
  rw [List.append_assoc, h, h', Option.map_map]
  simp [Function.comp_def, List.append_assoc]

theorem inside_escape (quote c : Char) : Inside quote ['\\', c] := fun rest => by
  rw [List.cons_append, List.singleton_append, untilQuote?]
  rfl

theorem inside_char {quote c : Char} (hquote : c ≠ quote) (hslash : c ≠ '\\') (hline : c ≠ '\n') :
    Inside quote [c] := fun rest => by
  rw [List.singleton_append, untilQuote?.eq_3 _ _ _ (fun _ _ h _ => hslash h), if_neg hquote,
    if_neg (by simp [hslash, hline])]
  rfl

theorem inside_of_forall {quote : Char} {body : List Char} (h : ∀ c ∈ body, Inside quote [c]) :
    Inside quote body := by
  induction body with
  | nil => exact inside_nil quote
  | cons c body ih =>
      exact (h c List.mem_cons_self).append (ih fun d hd => h d (List.mem_cons_of_mem c hd))

/-- The quotes that texts stand between. -/
def isQuote (c : Char) : Bool := c == '\'' || c == '"'

theorem inside_hex {quote : Char} (hquote : isQuote quote = true) (width n : Nat) :
    Inside quote (hex width n) := by
  refine inside_of_forall fun c hc => ?_
  have hhex := isHexadecimal_hex width n c hc
  have hquote' : quote = '\'' ∨ quote = '"' := by simpa [isQuote] using hquote
  refine inside_char ?_ ?_ ?_
  · rintro rfl
    rcases hquote' with rfl | rfl <;> cases hhex
  · rintro rfl
    cases hhex
  · rintro rfl
    cases hhex

/-- The escape of a code point begins with a backslash and a letter. -/
theorem codeEscape_eq {n : Nat} (h : n < 16 ^ 8) : ∃ letter width, codeEscape n =
    ['\\', letter] ++ hex width n ∧ 0 < width ∧ n < 16 ^ width ∧
      (letter, width) ∈ [('x', 2), ('u', 4), ('U', 8)] ∧ (n < 256 → letter = 'x') := by
  unfold codeEscape
  split_ifs with h2 h4
  · exact ⟨'x', 2, rfl, by decide, h2, by decide, fun _ => rfl⟩
  · exact ⟨'u', 4, rfl, by decide, h4, by decide, fun hn => absurd hn h2⟩
  · exact ⟨'U', 8, rfl, by decide, h, by decide, fun hn => absurd hn h2⟩

theorem inside_codeEscape {quote : Char} (hquote : isQuote quote = true) {n : Nat}
    (h : n < 16 ^ 8) : Inside quote (codeEscape n) := by
  obtain ⟨letter, width, hescape, -⟩ := codeEscape_eq h
  rw [hescape]
  exact (inside_escape quote letter).append (inside_hex hquote width n)

theorem inside_quotedChar {quote : Char} (hquote : isQuote quote = true) (c : Char) :
    Inside quote (quotedChar quote c) := by
  unfold quotedChar
  split_ifs with h hline hreturn htab
  · exact inside_escape quote c
  · exact inside_escape quote 'n'
  · exact inside_escape quote 'r'
  · exact inside_escape quote 't'
  · rw [not_or] at h
    exact inside_char h.1 h.2 hline
  · exact inside_codeEscape hquote (codeOf_lt c)

/-! ## Escapes -/

/-- The escapes of a text stand for characters, one for each of them. -/
structure Decodes (isBytes : Bool) (body cs : List Char) : Prop where
  length_le : cs.length ≤ body.length
  unescape?_append : ∀ fuel rest, unescape? isBytes (fuel + cs.length) (body ++ rest) =
    (unescape? isBytes fuel rest).map (cs ++ ·)

theorem decodes_nil (isBytes : Bool) : Decodes isBytes [] [] :=
  ⟨Nat.le_refl _, fun fuel rest => by simp⟩

theorem Decodes.append {isBytes : Bool} {body body' cs ds : List Char}
    (h : Decodes isBytes body cs) (h' : Decodes isBytes body' ds) :
    Decodes isBytes (body ++ body') (cs ++ ds) where
  length_le := by
    rw [List.length_append, List.length_append]
    exact Nat.add_le_add h.length_le h'.length_le
  unescape?_append fuel rest := by
    rw [List.length_append, Nat.add_comm cs.length, ← Nat.add_assoc, List.append_assoc,
      h.unescape?_append, h'.unescape?_append, Option.map_map]
    simp [Function.comp_def, List.append_assoc]

theorem decodes_char (isBytes : Bool) {c : Char} (h : c ≠ '\\') : Decodes isBytes [c] [c] :=
  ⟨Nat.le_refl _, fun fuel rest => unescape?_cons h isBytes fuel rest⟩

/-- An escape that is read as one character. -/
theorem decodes_escape {isBytes : Bool} {c e : Char} {tail : List Char}
    (h : ∀ rest, readEscape? isBytes c (tail ++ rest) = some ([e], rest)) :
    Decodes isBytes ('\\' :: c :: tail) [e] :=
  ⟨by simp, fun fuel rest => by
    rw [List.length_singleton, List.cons_append, List.cons_append, unescape?_slash, h]
    rfl⟩

theorem decodes_shortEscape (isBytes : Bool) {c e : Char} (hline : c ≠ '\n')
    (h : shortEscape? c = some e) : Decodes isBytes ['\\', c] [e] := by
  refine decodes_escape fun rest => ?_
  rw [List.nil_append, readEscape?, if_neg hline, h]

theorem decodes_codeEscape {isBytes : Bool} {n : Nat} {c : Char} (h : n < 16 ^ 8)
    (hbytes : isBytes = true → n < 256) (hc : charOfCode? n = some c) :
    Decodes isBytes (codeEscape n) [c] := by
  obtain ⟨letter, width, hescape, hwidth, hlt, hletter, hx⟩ := codeEscape_eq h
  rw [hescape]
  refine decodes_escape fun rest => ?_
  have hplain : letter ≠ '\n' ∧ shortEscape? letter = none ∧ isOctal letter = false := by
    revert hletter
    simp only [List.mem_cons, Prod.mk.injEq, List.not_mem_nil, or_false]
    rintro (⟨rfl, -⟩ | ⟨rfl, -⟩ | ⟨rfl, -⟩) <;> decide
  have hescapeWidth : escapeWidth? isBytes letter = some width := by
    simp only [List.mem_cons, Prod.mk.injEq, List.not_mem_nil, or_false] at hletter
    rcases hletter with ⟨rfl, rfl⟩ | ⟨rfl, rfl⟩ | ⟨rfl, rfl⟩
    · rfl
    all_goals
      cases isBytes with
      | false => rfl
      | true => exact absurd (hx (hbytes rfl)) (by decide)
  rw [readEscape?, if_neg hplain.1, hplain.2.1]
  dsimp only
  rw [if_neg (by simp [hplain.2.2]), hescapeWidth]
  simp [hexDigits?_hex hwidth hlt, hc]

theorem decodes_quotedChar {quote : Char} (hquote : isQuote quote = true) {isBytes : Bool} {c : Char}
    (hbytes : isBytes = true → c.toNat < 256) : Decodes isBytes (quotedChar quote c) [c] := by
  have hshort : shortEscape? quote = some quote := by
    have hquote' : quote = '\'' ∨ quote = '"' := by simpa [isQuote] using hquote
    rcases hquote' with rfl | rfl <;> rfl
  have hquoteline : quote ≠ '\n' := by
    rintro rfl
    cases hquote
  unfold quotedChar
  split_ifs with h hline hreturn htab
  · rcases h with rfl | rfl
    · exact decodes_shortEscape isBytes hquoteline hshort
    · exact decodes_shortEscape isBytes (by decide) rfl
  · exact hline ▸ decodes_shortEscape isBytes (by decide) rfl
  · exact hreturn ▸ decodes_shortEscape isBytes (by decide) rfl
  · exact htab ▸ decodes_shortEscape isBytes (by decide) rfl
  · rw [not_or] at h
    exact decodes_char isBytes h.2
  · refine decodes_codeEscape (codeOf_lt c) (fun hb => ?_) (charOfCode?_codeOf c)
    have hle : codeOf c ≤ c.toNat := by
      unfold codeOf
      split <;> omega
    exact Nat.lt_of_le_of_lt hle (hbytes hb)

/-- What whole texts that are quoted character by character stand for. -/
theorem quotedBody {quote : Char} (hquote : isQuote quote = true) {isBytes : Bool} (cs : List Char)
    (hbytes : isBytes = true → ∀ c ∈ cs, c.toNat < 256) :
    Inside quote (cs.flatMap (quotedChar quote)) ∧
      Decodes isBytes (cs.flatMap (quotedChar quote)) cs := by
  induction cs with
  | nil => exact ⟨inside_nil quote, decodes_nil isBytes⟩
  | cons c cs ih =>
      obtain ⟨hinside, hdecodes⟩ := ih fun hb d hd => hbytes hb d (List.mem_cons_of_mem c hd)
      rw [List.flatMap_cons]
      exact ⟨(inside_quotedChar hquote c).append hinside,
        (decodes_quotedChar hquote fun hb => hbytes hb c List.mem_cons_self).append hdecodes⟩

theorem Decodes.decodeBody?_eq {isBytes : Bool} {body cs : List Char}
    (h : Decodes isBytes body cs) : decodeBody? isBytes false body = some cs := by
  have hall := h.unescape?_append (body.length - cs.length) []
  have hempty : unescape? isBytes (body.length - cs.length) [] = some [] := by
    cases body.length - cs.length <;> rfl
  rw [List.append_nil, Nat.sub_add_cancel h.length_le, hempty] at hall
  rw [decodeBody?, if_neg (by decide), hall]
  simp

/-! ## Characters of quoted texts -/

theorem lt_of_isHexadecimal {c : Char} (h : isHexadecimal c = true) : 47 < c.toNat ∧ c.toNat < 103 := by
  simp only [isHexadecimal, Bool.or_eq_true, Bool.and_eq_true, decide_eq_true_eq, Char.isDigit,
    Char.le_def, UInt32.le_iff_toNat_le, ge_iff_le] at h
  have hc : c.toNat = c.val.toNat := rfl
  have h0 : ('0' : Char).val.toNat = 48 := rfl
  have h9 : ('9' : Char).val.toNat = 57 := rfl
  have ha : ('a' : Char).val.toNat = 97 := rfl
  have hf : ('f' : Char).val.toNat = 102 := rfl
  have hA : ('A' : Char).val.toNat = 65 := rfl
  have hF : ('F' : Char).val.toNat = 70 := rfl
  omega

/-- The escape of a code point is of printable ASCII characters. -/
theorem mem_codeEscape {n : Nat} (h : n < 16 ^ 8) {c : Char} (hc : c ∈ codeEscape n) :
    31 < c.toNat ∧ c.toNat < 128 := by
  obtain ⟨letter, width, hescape, -, -, hletter, -⟩ := codeEscape_eq h
  rw [hescape, List.mem_append] at hc
  rcases hc with hc | hc
  · have hletters : ∀ p ∈ [('x', 2), ('u', 4), ('U', 8)], 31 < p.1.toNat ∧ p.1.toNat < 128 := by
      decide
    rcases List.mem_cons.mp hc with rfl | hc
    · decide
    · rw [List.mem_singleton.mp hc]
      exact hletters _ hletter
  · have hhex := lt_of_isHexadecimal (isHexadecimal_hex width n c hc)
    omega

/-- What a character is written as is printable or the character itself. -/
theorem mem_quotedChar {quote : Char} (hquote : isQuote quote = true) {c d : Char}
    (h : d ∈ quotedChar quote c) :
    (31 < d.toNat ∧ d.toNat < 128) ∨ d = c ∧ isPrintable c = true := by
  unfold quotedChar at h
  split_ifs at h with hself hline hreturn htab hprintable
  · rcases List.mem_cons.mp h with rfl | h
    · exact .inl (by decide)
    · rw [List.mem_singleton.mp h]
      rcases hself with rfl | rfl
      · have hquote' : c = '\'' ∨ c = '"' := by simpa [isQuote] using hquote
        rcases hquote' with rfl | rfl <;> exact .inl (by decide)
      · exact .inl (by decide)
  · rcases List.mem_cons.mp h with rfl | h
    · exact .inl (by decide)
    · rw [List.mem_singleton.mp h]
      exact .inl (by decide)
  · rcases List.mem_cons.mp h with rfl | h
    · exact .inl (by decide)
    · rw [List.mem_singleton.mp h]
      exact .inl (by decide)
  · rcases List.mem_cons.mp h with rfl | h
    · exact .inl (by decide)
    · rw [List.mem_singleton.mp h]
      exact .inl (by decide)
  · exact .inr ⟨List.mem_singleton.mp h, hprintable⟩
  · exact .inl (mem_codeEscape (codeOf_lt c) h)

theorem isQuiet_of_ascii {c : Char} (h : 31 < c.toNat ∧ c.toNat < 128) : isQuiet c = true := by
  refine isQuiet_of_lt (by unfold halfShift; omega) ?_ ?_ <;>
  · rintro rfl
    exact absurd h (by decide)

theorem isQuiet_quotedChar {quote : Char} (hquote : isQuote quote = true) {c d : Char}
    (h : d ∈ quotedChar quote c) : isQuiet d = true := by
  rcases mem_quotedChar hquote h with h | ⟨rfl, h⟩
  · exact isQuiet_of_ascii h
  · exact isQuiet_of_isPrintable h

theorem head?_quotedChar_ne {quote : Char} (hquote : isQuote quote = true) (c : Char)
    (rest : List Char) : (quotedChar quote c ++ rest).head? ≠ some quote := by
  have hslash : '\\' ≠ quote := by
    rintro rfl
    cases hquote
  have hcode : ∀ n, (codeEscape n ++ rest).head? = some '\\' := fun n => by
    unfold codeEscape
    split_ifs <;> rfl
  unfold quotedChar
  split_ifs with hself
  · simpa using hslash
  · simpa using hslash
  · simpa using hslash
  · simpa using hslash
  · rw [not_or] at hself
    simpa using hself.1
  · rw [hcode]
    simpa using hslash

/-! ## Text literals as tokens -/

/-- A text literal as it is written, with its letters before the quotes. -/
def writtenText (letters body : List Char) : QuotedText :=
  { isBytes := letters.contains 'b', isMarked := letters = ['u'], body }

/-- A character that is no quote. -/
def endsText (c : Char) : Bool := !isQuote c

theorem readBody?_append {quote : Char} (hquote : isQuote quote = true) {body : List Char}
    (hinside : Inside quote body) (hhead : body.head? ≠ some quote) {rest : List Char}
    (hrest : MayBegin endsText rest) :
    readBody? quote (body ++ quote :: rest) = some (body, rest) := by
  have hslash : quote ≠ '\\' := by
    rintro rfl
    cases hquote
  have htwo : [quote, quote].isPrefixOf (body ++ quote :: rest) = false := by
    rw [← Bool.not_eq_true, List.isPrefixOf_iff_prefix]
    rintro ⟨more, hmore⟩
    cases body with
    | cons c body =>
        obtain ⟨rfl, -⟩ := List.cons.inj hmore
        exact hhead rfl
    | nil =>
        obtain ⟨-, hmore⟩ := List.cons.inj hmore
        have hends := hrest quote (by rw [← hmore]; rfl)
        simp [endsText, hquote] at hends
  rw [readBody?, if_neg (by simp [htwo]), hinside,
    untilQuote?.eq_3 _ _ _ (fun _ _ h _ => hslash h), if_pos rfl]
  simp

theorem spells_text {letters : List Char} (hletters : letters ∈ [[], ['u'], ['b']]) {quote : Char}
    (hquote : isQuote quote = true) {body : List Char} (hinside : Inside quote body)
    (hhead : body.head? ≠ some quote) (hquiet : ∀ c ∈ body, isQuiet c = true) :
    Spells endsText (letters ++ quote :: (body ++ [quote])) [.text (writtenText letters body)] := by
  have hquotequiet : isQuiet quote = true ∧ beginsToken quote = true ∧ mayBeginName quote = false ∧
      mayContinueName quote = false ∧ quote.isDigit = false ∧ quote ≠ '.' ∧
      (quote = '"' ∨ quote = '\'') := by
    have hquote' : quote = '\'' ∨ quote = '"' := by simpa [isQuote] using hquote
    rcases hquote' with rfl | rfl <;> decide
  obtain ⟨hq, htoken, hname, hcontinue, hdigit, hpoint, hquotes⟩ := hquotequiet
  refine spells_singleton (by simp) (fun c hc => ?_) (fun _ => rfl) fun n levels opened rest hrest => ?_
  · simp only [List.mem_append, List.mem_cons, List.not_mem_nil, or_false] at hc
    rcases hc with hc | rfl | hc | rfl
    · have hall : ∀ w ∈ [[], ['u'], ['b']], w.all isQuiet = true := by decide
      exact List.all_eq_true.mp (hall _ hletters) c hc
    · exact hq
    · exact hquiet c hc
    · exact hq
  · have hbody := readBody?_append hquote hinside hhead hrest
    have happend : letters ++ quote :: (body ++ [quote]) ++ rest =
        letters ++ quote :: (body ++ quote :: rest) := by simp
    have hread : readText? letters quote (body ++ quote :: rest) =
        some (writtenText letters body, rest) := by
      simp only [List.mem_cons, List.not_mem_nil, or_false] at hletters
      rcases hletters with rfl | rfl | rfl <;>
      · rw [readText?, if_pos (by decide), hbody]
        rfl
    rw [happend]
    cases letters with
    | nil =>
        rw [List.nil_append, tokensFrom_cons htoken, if_neg (by simp [hname]),
          if_neg (by simp [hdigit, hpoint]), if_pos hquotes]
        rw [hread]
    | cons c letters =>
        have hwords : ∀ w ∈ [[], ['u'], ['b']], w.all mayContinueName = true := by decide
        have hfirst : ∀ w ∈ [[], ['u'], ['b']],
            w.all (fun d => beginsToken d && mayBeginName d) = true := by decide
        obtain ⟨htoken', hname'⟩ : beginsToken c = true ∧ mayBeginName c = true := by
          simpa using List.all_eq_true.mp (hfirst _ hletters) c List.mem_cons_self
        have hstop : MayBegin (!mayContinueName ·) (quote :: (body ++ quote :: rest)) :=
          mayBegin_cons (by simp [hcontinue]) _
        obtain ⟨htake, hdrop⟩ := span_word (List.all_eq_true.mp (hwords _ hletters)) hstop
        rw [List.cons_append] at htake hdrop ⊢
        rw [tokensFrom_cons htoken', if_pos hname', htake, hdrop]
        simp only [hquotes, if_true, hread]

/-- A quoted text is one token, which stands for the text. -/
theorem spells_quotedChars {letters : List Char} (hletters : letters ∈ [[], ['u']])
    (cs : List Char) : ∃ body, Spells endsText (letters ++ quotedChars cs)
      [.text (writtenText letters body)] ∧ Decodes false body cs := by
  have hquote : isQuote (quoteFor cs) = true := by
    unfold quoteFor
    split <;> rfl
  have hletters' : letters ∈ [[], ['u'], ['b']] := by
    revert hletters
    revert letters
    decide
  obtain ⟨hinside, hdecodes⟩ : Inside _ _ ∧ Decodes false _ _ := quotedBody hquote cs nofun
  refine ⟨_, spells_text hletters' hquote hinside ?_ fun c hc => ?_, hdecodes⟩
  · cases cs with
    | nil => simp
    | cons c cs =>
        rw [List.flatMap_cons]
        exact head?_quotedChar_ne hquote c _
  · obtain ⟨d, -, hd⟩ := List.mem_flatMap.mp hc
    exact isQuiet_quotedChar hquote hd

/-! ## Bytes as tokens -/

/-- The character with the code of a byte. -/
def byteChar (b : UInt8) : Char := Char.ofNat b.toNat

theorem toNat_byteChar (b : UInt8) : (byteChar b).toNat = b.toNat := by
  refine toNat_ofNat (.inl ?_)
  have := b.toNat_lt
  omega

theorem codeOf_byteChar (b : UInt8) : codeOf (byteChar b) = b.toNat := by
  have hlt := b.toNat_lt
  have hhalf : holdsHalf (byteChar b) = false := by
    simp only [holdsHalf, Bool.and_eq_false_iff, decide_eq_false_iff_not, toNat_byteChar, halfShift]
    left
    omega
  rw [codeOf_eq_toNat hhalf, toNat_byteChar]

/-- What a byte is written as between quotes: ASCII characters that stand for it. -/
theorem quotedByte_spec {quote : Char} (hquote : isQuote quote = true) (b : UInt8) :
    Inside quote (quotedByte quote b) ∧ Decodes true (quotedByte quote b) [byteChar b] ∧
      (∀ c ∈ quotedByte quote b, 31 < c.toNat ∧ c.toNat < 128) ∧
      ∀ rest, (quotedByte quote b ++ rest).head? ≠ some quote := by
  have hlt := b.toNat_lt
  have hchar := toNat_byteChar b
  unfold quotedByte
  split_ifs with hb
  · have hascii : b.toNat < 128 := hb
    refine ⟨inside_quotedChar hquote _, decodes_quotedChar hquote fun _ => ?_, fun c hc => ?_,
      head?_quotedChar_ne hquote _⟩
    · change (byteChar b).toNat < 256
      omega
    · rcases mem_quotedChar hquote hc with h | ⟨rfl, hprintable⟩
      · exact h
      · have hprintable' : isPrintable (byteChar b) = true := hprintable
        change 31 < (byteChar b).toNat ∧ (byteChar b).toNat < 128
        have hval : (byteChar b).val < 128 := by
          rw [UInt32.lt_iff_toNat_lt]
          change (byteChar b).toNat < 128
          omega
        rw [isPrintable, if_pos hval, Bool.and_eq_true, decide_eq_true_eq, decide_eq_true_eq,
          Char.le_def, UInt32.le_iff_toNat_le] at hprintable'
        have hlow : 32 ≤ (byteChar b).toNat := hprintable'.1
        omega
  · have hslash : (codeEscape b.toNat).head? = some '\\' := by
      unfold codeEscape
      split_ifs <;> rfl
    refine ⟨inside_codeEscape hquote (by omega), decodes_codeEscape (by omega) (fun _ => hlt) ?_,
      fun c hc => mem_codeEscape (by omega) hc, fun rest => ?_⟩
    · rw [← codeOf_byteChar]
      exact charOfCode?_codeOf _
    · rw [List.head?_append, hslash]
      rintro ⟨⟩
      cases hquote

theorem quotedBytesBody {quote : Char} (hquote : isQuote quote = true) (bs : List UInt8) :
    Inside quote (bs.flatMap (quotedByte quote)) ∧
      Decodes true (bs.flatMap (quotedByte quote)) (bs.map byteChar) := by
  induction bs with
  | nil => exact ⟨inside_nil quote, decodes_nil true⟩
  | cons b bs ih =>
      obtain ⟨hinside, hdecodes, -⟩ := quotedByte_spec hquote b
      rw [List.flatMap_cons]
      exact ⟨hinside.append ih.1, hdecodes.append ih.2⟩

/-- Quoted bytes are one token, which stands for the bytes. -/
theorem spells_quotedBytes (bs : List UInt8) : ∃ body,
    Spells endsText (quotedBytes bs).toList [.text (writtenText ['b'] body)] ∧
      decodeBytes? (writtenText ['b'] body) = some bs := by
  have hquote : isQuote (quoteFor (bs.map byteChar)) = true := by
    unfold quoteFor
    split <;> rfl
  obtain ⟨hinside, hdecodes⟩ := quotedBytesBody hquote bs
  have hascii : ∀ c ∈ bs.flatMap (quotedByte (quoteFor (bs.map byteChar))),
      31 < c.toNat ∧ c.toNat < 128 := fun c hc => by
    obtain ⟨b, -, hb⟩ := List.mem_flatMap.mp hc
    exact (quotedByte_spec hquote b).2.2.1 c hb
  refine ⟨bs.flatMap (quotedByte (quoteFor (bs.map byteChar))), ?_, ?_⟩
  · rw [quotedBytes, String.toList_ofList]
    refine @spells_text ['b'] (by decide) _ hquote _ hinside ?_
      fun c hc => isQuiet_of_ascii (hascii c hc)
    cases bs with
    | nil => simp
    | cons b bs =>
        rw [List.flatMap_cons]
        exact (quotedByte_spec hquote b).2.2.2 _
  · have hplain : (bs.flatMap (quotedByte (quoteFor (bs.map byteChar)))).any
        (fun c => 128 ≤ c.toNat) = false := by
      rw [List.any_eq_false]
      intro c hc
      have := hascii c hc
      simpa using this.2
    have hbyte (b : UInt8) : UInt8.ofNat (byteChar b).toNat = b := by
      rw [toNat_byteChar, UInt8.ofNat_toNat]
    unfold decodeBytes?
    rw [if_neg (by simpa [writtenText] using hplain)]
    have hdecode : decodeBody? true (writtenText ['b']
        (bs.flatMap (quotedByte (quoteFor (bs.map byteChar))))).isRaw (writtenText ['b']
        (bs.flatMap (quotedByte (quoteFor (bs.map byteChar))))).body = some (bs.map byteChar) :=
      hdecodes.decodeBody?_eq
    rw [hdecode, Option.map_some, List.map_map]
    simp [Function.comp_def, hbyte]

end Entity.Formula
