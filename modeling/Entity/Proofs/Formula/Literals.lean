import Entity.Formula.Writer
import Entity.Proofs.Formula.Spelling
import Entity.Proofs.Text.Ends
import Mathlib.Data.List.Basic
import Mathlib.Tactic.IntervalCases

/-!
# How literals are spelled

Numbers and text literals are written so that each is one token, whatever may follow an expression.
Main statements: the token that a written literal spells, which denotes the same constant, or a
number if the constant is one.
-/

namespace Entity.Formula

open Entity.Text

/-! ## What follows an expression -/

/-- A character that may follow an expression. -/
def closes (c : Char) : Bool := [' ', ',', ')', ']', '\x7d', ':', '[', '('].contains c

/-- A character that may follow an expression, a point being one. -/
def closesOrPoint (c : Char) : Bool := closes c || c == '.'

/-- A character that ends a number with a point or an exponent. -/
def endsNumeral (c : Char) : Bool := !c.isDigit && c != '_' && c != 'e' && c != 'E'

/-- A character that ends digits, which no base and no point goes with. -/
def endsDigits (c : Char) : Bool := endsNumeral c && c != '.'

theorem forall_closesOrPoint {p : Char → Bool}
    (h : [' ', ',', ')', ']', '\x7d', ':', '[', '(', '.'].all p = true) {c : Char}
    (hc : closesOrPoint c = true) : p c = true := by
  refine List.all_eq_true.mp h c ?_
  simp only [closesOrPoint, closes, Bool.or_eq_true, List.contains_iff_mem, beq_iff_eq,
    List.mem_cons] at hc ⊢
  tauto

theorem forall_closes {p : Char → Bool}
    (h : [' ', ',', ')', ']', '\x7d', ':', '[', '('].all p = true) {c : Char}
    (hc : closes c = true) : p c = true :=
  List.all_eq_true.mp h c (List.contains_iff_mem.mp hc)

/-! ## Digits -/

/-- All characters are digits. -/
def Digits (ds : List Char) : Prop := ∀ c ∈ ds, c.isDigit = true

instance (ds : List Char) : Decidable (Digits ds) :=
  decidable_of_iff (ds.all Char.isDigit = true) List.all_eq_true

theorem Digits.append {ds es : List Char} (h : Digits ds) (h' : Digits es) : Digits (ds ++ es) :=
  fun c hc => (List.mem_append.mp hc).elim (h c) (h' c)

theorem digits_toDigits (n : Nat) : Digits (Nat.toDigits 10 n) := fun _ hc =>
  Nat.isDigit_of_mem_toDigits (by decide) (by decide) hc

theorem digits_replicate (n : Nat) : Digits (List.replicate n '0') := fun _ hc => by
  rw [List.eq_of_mem_replicate hc]
  rfl

theorem digitGroups?_append {ds : List Char} (h : Digits ds) {rest : List Char}
    (hrest : MayBegin (fun c => !c.isDigit && c != '_') rest) :
    digitGroups? Char.isDigit (ds ++ rest) = some (ds, rest) := by
  induction ds with
  | nil =>
      cases rest with
      | nil => rfl
      | cons c rest =>
          have hc := hrest c rfl
          simp only [Bool.and_eq_true, Bool.not_eq_true', bne_iff_ne, ne_eq] at hc
          rw [List.nil_append, digitGroups?.eq_3 _ _ _ (fun _ _ heq _ => hc.2 heq), if_neg hc.2,
            if_neg (by simp [hc.1])]
  | cons d ds ih =>
      have hd := h d List.mem_cons_self
      have hline : d ≠ '_' := by
        rintro rfl
        exact absurd hd (by decide)
      rw [List.cons_append, digitGroups?.eq_3 _ _ _ (fun _ _ heq _ => hline heq), if_neg hline,
        if_pos hd, ih fun c hc => h c (List.mem_cons_of_mem d hc)]
      rfl

theorem mayBegin_cons {p : Char → Bool} {c : Char} (h : p c = true) (cs : List Char) :
    MayBegin p (c :: cs) := (begins_cons h cs).mayBegin

theorem readFraction?_point {ds : List Char} (h : Digits ds) {rest : List Char}
    (hrest : MayBegin (fun c => !c.isDigit && c != '_') rest) :
    readFraction? ('.' :: (ds ++ rest)) = some (some ds, rest) := by
  cases ds with
  | cons d ds =>
      have hd := h d List.mem_cons_self
      rw [List.cons_append, readFraction?, if_pos hd, ← List.cons_append, digitGroups?_append h hrest]
      rfl
  | nil =>
      cases rest with
      | nil => rfl
      | cons c rest =>
          have hc := hrest c rfl
          simp only [Bool.and_eq_true, Bool.not_eq_true'] at hc
          rw [List.nil_append, readFraction?, if_neg (by simp [hc.1])]

theorem readFraction?_of_not_point {rest : List Char} (h : MayBegin (· != '.') rest) :
    readFraction? rest = some (none, rest) := by
  cases rest with
  | nil => rfl
  | cons c rest =>
      have hc : c ≠ '.' := by simpa using h c rfl
      exact readFraction?.eq_3 _ (fun _ _ heq => hc (List.cons.inj heq).1)
        (fun _ heq => hc (List.cons.inj heq).1)

theorem readExponent?_of_not_letter {rest : List Char}
    (h : MayBegin (fun c => c != 'e' && c != 'E') rest) :
    readExponent? rest = some (none, rest) := by
  cases rest with
  | nil => rfl
  | cons c rest =>
      have hc := h c rfl
      simp only [Bool.and_eq_true, bne_iff_ne, ne_eq] at hc
      unfold readExponent?
      exact if_neg (by simp [hc.1, hc.2])

theorem exponentDigits?_append (negative : Bool) {ds : List Char} (h : Digits ds)
    {rest : List Char} (hrest : MayBegin (fun c => !c.isDigit && c != '_') rest) :
    exponentDigits? negative (ds ++ rest) =
      some (some (if negative then -(ofDigits 10 ds : Int) else ofDigits 10 ds), rest) := by
  rw [exponentDigits?, digitGroups?_append h hrest]
  rfl

/-- An exponent with or without a sign. -/
theorem readExponent?_letter {sign ds : List Char} (hsign : sign ∈ [[], ['+'], ['-']])
    (h : Digits ds) (hds : ds ≠ []) : ∃ n : Int, ∀ rest,
      MayBegin (fun c => !c.isDigit && c != '_') rest →
        readExponent? ('e' :: (sign ++ (ds ++ rest))) = some (some n, rest) := by
  obtain ⟨d, ds, rfl⟩ := List.exists_cons_of_ne_nil hds
  have hd := h d List.mem_cons_self
  have hsign' : sign = [] ∨ sign = ['+'] ∨ sign = ['-'] := by simpa using hsign
  rcases hsign' with rfl | rfl | rfl
  · refine ⟨ofDigits 10 (d :: ds), fun rest hrest => ?_⟩
    have hnot {c : Char} (hc : c.isDigit = false) (more : List Char) :
        d :: ds ++ rest ≠ c :: more := by
      intro heq
      obtain ⟨rfl, -⟩ := List.cons.inj heq
      rw [hd] at hc
      cases hc
    rw [List.nil_append, readExponent?, if_pos (Or.inl rfl),
      if_pos (show beginsDigit (d :: ds ++ rest) = true from hd),
      exponentDigits?_append false h hrest]
    · rfl
    · exact hnot (by decide)
    · exact hnot (by decide)
  · refine ⟨ofDigits 10 (d :: ds), fun rest hrest => ?_⟩
    rw [List.singleton_append, readExponent?, if_pos (Or.inl rfl)]
    exact (if_pos (show beginsDigit (d :: ds ++ rest) = true from hd)).trans
      (exponentDigits?_append false h hrest)
  · refine ⟨-(ofDigits 10 (d :: ds) : Int), fun rest hrest => ?_⟩
    rw [List.singleton_append, readExponent?, if_pos (Or.inl rfl)]
    exact (if_pos (show beginsDigit (d :: ds ++ rest) = true from hd)).trans
      (exponentDigits?_append true h hrest)

/-! ## Numbers with a point or an exponent -/

/-- The text is digits with a point or an exponent. -/
inductive IsNumeral : List Char → Prop where
  | point {whole ds : List Char} (hwhole : Digits whole) (hne : whole ≠ []) (hds : Digits ds) :
      IsNumeral (whole ++ '.' :: ds)
  | exponent {whole fraction sign ds : List Char} (hwhole : Digits whole) (hne : whole ≠ [])
      (hfraction : fraction = [] ∨ ∃ fs, fraction = '.' :: fs ∧ Digits fs)
      (hsign : sign ∈ [[], ['+'], ['-']]) (hds : Digits ds) (hdsne : ds ≠ []) :
      IsNumeral (whole ++ (fraction ++ 'e' :: (sign ++ ds)))

/-- What a text is cut into before what ends a numeral: digits, those after a point, and an
exponent. -/
def Scans (follow : Char → Bool) (cs whole : List Char) (fraction : Option (List Char))
    (exponent : Option Int) : Prop :=
  ∀ rest, MayBegin follow rest → ∃ afterWhole afterFraction,
    digitGroups? Char.isDigit (cs ++ rest) = some (whole, afterWhole) ∧
    readFraction? afterWhole = some (fraction, afterFraction) ∧
    readExponent? afterFraction = some (exponent, rest)

theorem endsNumeral_imp {c : Char} (h : endsNumeral c = true) :
    (!c.isDigit && c != '_') = true ∧ (c != 'e' && c != 'E') = true := by
  simp only [endsNumeral, Bool.and_eq_true] at h ⊢
  tauto

theorem IsNumeral.scans {cs : List Char} (h : IsNumeral cs) : ∃ whole fraction exponent,
    Scans endsNumeral cs whole fraction exponent ∧
      (fraction.isSome || exponent.isSome) = true := by
  cases h with
  | @point whole ds hwhole hne hds =>
      refine ⟨whole, some ds, none, fun rest hrest => ⟨'.' :: (ds ++ rest), rest, ?_, ?_, ?_⟩, rfl⟩
      · rw [List.append_assoc, List.cons_append]
        exact digitGroups?_append hwhole (mayBegin_cons (by decide) _)
      · exact readFraction?_point hds (hrest.mono fun c hc => (endsNumeral_imp hc).1)
      · exact readExponent?_of_not_letter (hrest.mono fun c hc => (endsNumeral_imp hc).2)
  | @exponent whole fraction sign ds hwhole hne hfraction hsign hds hdsne =>
      obtain ⟨n, hn⟩ := readExponent?_letter hsign hds hdsne
      rcases hfraction with rfl | ⟨fs, rfl, hfs⟩
      · refine ⟨whole, none, some n, fun rest hrest =>
          ⟨'e' :: (sign ++ (ds ++ rest)), 'e' :: (sign ++ (ds ++ rest)), ?_, ?_, ?_⟩, rfl⟩
        · rw [List.nil_append, List.append_assoc, List.cons_append, List.append_assoc]
          exact digitGroups?_append hwhole (mayBegin_cons (by decide) _)
        · exact readFraction?_of_not_point (mayBegin_cons (by decide) _)
        · exact hn rest (hrest.mono fun c hc => (endsNumeral_imp hc).1)
      · refine ⟨whole, some fs, some n, fun rest hrest =>
          ⟨'.' :: (fs ++ 'e' :: (sign ++ (ds ++ rest))), 'e' :: (sign ++ (ds ++ rest)), ?_, ?_, ?_⟩,
          rfl⟩
        · have happend : whole ++ ('.' :: fs ++ 'e' :: (sign ++ ds)) ++ rest =
              whole ++ '.' :: (fs ++ 'e' :: (sign ++ (ds ++ rest))) := by simp
          rw [happend]
          exact digitGroups?_append hwhole (mayBegin_cons (by decide) _)
        · exact readFraction?_point hfs (mayBegin_cons (by decide) _)
        · exact hn rest (hrest.mono fun c hc => (endsNumeral_imp hc).1)

/-- A number is not followed by more characters of a name. -/
theorem endsNumber_of_mayBegin {rest : List Char} (h : MayBegin (!mayContinueName ·) rest) :
    endsNumber rest = true := by
  cases rest with
  | nil => rfl
  | cons c rest =>
      have hc := h c rfl
      simp only [endsNumber, hc, Bool.true_or]

section Scans

variable {follow : Char → Bool} {cs whole : List Char} {fraction : Option (List Char)}
  {exponent : Option Int}

theorem Scans.mono (h : Scans follow cs whole fraction exponent) {follow' : Char → Bool}
    (hfollow : ∀ c, follow' c = true → follow c = true) :
    Scans follow' cs whole fraction exponent := fun rest hrest => h rest (hrest.mono hfollow)

/-- The value of a numeral. -/
def numeralValue (whole : List Char) (fraction : Option (List Char)) (exponent : Option Int) :
    Binary64 :=
  Binary64.ofDecimal false (ofDigits 10 (whole ++ fraction.getD []))
    (exponent.getD 0 - (fraction.getD []).length)

/-- What a number is, by the text after its parts. -/
def numberBefore? (whole : List Char) (fraction : Option (List Char)) (exponent : Option Int)
    (rest : List Char) : Option (Literal × List Char) :=
  match rest with
  | 'j' :: rest =>
    if endsNumber rest then some (.imaginary (numeralValue whole fraction exponent), rest) else none
  | 'J' :: rest =>
    if endsNumber rest then some (.imaginary (numeralValue whole fraction exponent), rest) else none
  | _ =>
    if !endsNumber rest then none
    else if fraction.isSome || exponent.isSome then
      some (.float (numeralValue whole fraction exponent), rest)
    else (integer? whole).map fun l => (l, rest)

theorem Scans.readDecimal?_eq (h : Scans follow cs whole fraction exponent) {rest : List Char}
    (hrest : MayBegin follow rest) :
    readDecimal? (cs ++ rest) = numberBefore? whole fraction exponent rest := by
  obtain ⟨afterWhole, afterFraction, hwhole, hfraction, hexponent⟩ := h rest hrest
  simp only [readDecimal?, hwhole, hfraction, hexponent, Option.bind_eq_bind, Option.bind_some]
  rfl

/-- A number before the end of a number is one with a point, or an integer. -/
theorem Scans.readDecimal?_of_ends (h : Scans follow cs whole fraction exponent) {rest : List Char}
    (hrest : MayBegin follow rest) (hends : MayBegin (!mayContinueName ·) rest) :
    readDecimal? (cs ++ rest) =
      if fraction.isSome || exponent.isSome then
        some (.float (numeralValue whole fraction exponent), rest)
      else (integer? whole).map fun l => (l, rest) := by
  have hend := endsNumber_of_mayBegin hends
  rw [h.readDecimal?_eq hrest, numberBefore?, if_neg (by simp [hend])] <;>
  · rintro rest' rfl
    exact absurd (hends _ rfl) (by decide)

/-- A number before the mark of the imaginary unit. -/
theorem Scans.readDecimal?_eq_imaginary (h : Scans follow cs whole fraction exponent)
    (hj : follow 'j' = true) {rest : List Char} (hends : MayBegin (!mayContinueName ·) rest) :
    readDecimal? (cs ++ 'j' :: rest) =
      some (.imaginary (numeralValue whole fraction exponent), rest) := by
  rw [h.readDecimal?_eq (mayBegin_cons hj rest)]
  exact if_pos (endsNumber_of_mayBegin hends)

end Scans

/-! ## Integers -/

theorem scans_digits {ds : List Char} (h : Digits ds) : Scans endsDigits ds ds none none := by
  intro rest hrest
  refine ⟨rest, rest, digitGroups?_append h (hrest.mono fun c hc => ?_),
    readFraction?_of_not_point (hrest.mono fun c hc => ?_),
    readExponent?_of_not_letter (hrest.mono fun c hc => ?_)⟩ <;>
  · simp only [endsDigits, endsNumeral, Bool.and_eq_true] at hc ⊢
    tauto

/-- The digits of a number denote it. -/
theorem ofDigits_of_digits {ds : List Char} (h : Digits ds) :
    ofDigits 10 ds = Nat.ofDigitChars 10 ds 0 := by
  rw [ofDigits, Nat.ofDigitChars_eq_foldl]
  refine List.foldl_ext _ _ _ fun n c hc => ?_
  rw [digitValue, if_pos (h c hc)]

/-- The digits of a number begin with zero only if it is zero. -/
theorem toDigits_of_head?_eq_zero {n : Nat} (h : (Nat.toDigits 10 n).head? = some '0') :
    Nat.toDigits 10 n = ['0'] := by
  induction n using Nat.strongRecOn with
  | _ n ih =>
      rw [Nat.toDigits_eq_if (by decide)] at h ⊢
      split at h
      · rename_i hn
        rw [if_pos hn]
        simpa using h
      · rename_i hn
        -- the digits before the last one are those of a positive number
        rw [List.head?_append, List.head?_eq_some_head Nat.toDigits_ne_nil] at h
        have hfirst : (Nat.toDigits 10 (n / 10)).head? = some '0' := by
          rw [List.head?_eq_some_head Nat.toDigits_ne_nil]
          simpa using h
        have hzero := ih (n / 10) (by omega) hfirst
        have hvalue := congrArg (fun ds => Nat.ofDigitChars 10 ds 0) hzero
        simp only [Nat.ofDigitChars_ten_toDigits] at hvalue
        have hdiv : n / 10 = 0 := by rw [hvalue]; rfl
        omega

theorem integer?_toDigits {n : Nat} (h : n < 10 ^ decimalLimit) :
    integer? (Nat.toDigits 10 n) = some (.int n) := by
  have hlength : (Nat.toDigits 10 n).length ≤ decimalLimit :=
    (Nat.length_toDigits_le_iff (by decide) (by decide)).mpr h
  have hzeros : ¬ ((Nat.toDigits 10 n).head? = some '0' ∧
      (Nat.toDigits 10 n).any (· != '0') = true) := by
    rintro ⟨hhead, hany⟩
    rw [toDigits_of_head?_eq_zero hhead] at hany
    cases hany
  rw [integer?, if_neg (Nat.not_lt.mpr hlength), if_neg hzeros,
    ofDigits_of_digits (digits_toDigits n), Nat.ofDigitChars_ten_toDigits]

/-! ## Numbers as tokens -/

/-- The characters that numbers are written with. -/
def numericChars : List Char :=
  ['0', '1', '2', '3', '4', '5', '6', '7', '8', '9', '.', 'e', '+', '-', 'j']

theorem mem_numericChars_of_isDigit {c : Char} (h : c.isDigit = true) :
    c ∈ numericChars.take 10 := by
  simp only [Char.isDigit, Bool.and_eq_true, decide_eq_true_eq, ge_iff_le, UInt32.le_iff_toNat_le]
    at h
  have hlow : 48 ≤ c.toNat := h.1
  have hhigh : c.toNat ≤ 57 := h.2
  have hc : c = Char.ofNat c.toNat := (Char.ofNat_toNat c).symm
  generalize c.toNat = n at hlow hhigh hc
  subst hc
  interval_cases n <;> decide

theorem forall_isDigit {p : Char → Bool} (h : (numericChars.take 10).all p = true) {c : Char}
    (hc : c.isDigit = true) : p c = true :=
  List.all_eq_true.mp h c (mem_numericChars_of_isDigit hc)

theorem Digits.subset {ds : List Char} (h : Digits ds) : ds ⊆ numericChars := fun _ hc =>
  (List.take_subset 10 _) (mem_numericChars_of_isDigit (h _ hc))

/-- Letters that mark a base. -/
def baseMarks : List Char := ['x', 'X', 'o', 'O', 'b', 'B']

/-- A number that no letter of a base marks is decimal. -/
theorem readNumber?_eq {cs : List Char}
    (h : ∀ c, cs.tail.head? = some c → baseMarks.contains c = false) :
    readNumber? cs = readDecimal? cs := by
  unfold readNumber?
  split <;> first | rfl | exact absurd (h _ rfl) (by decide)

theorem spells_number {follow : Char → Bool} {cs : List Char} {l : Literal}
    (hbegins : Begins Char.isDigit cs) (hnumeric : cs ⊆ numericChars)
    (hfollow : ∀ c, follow c = true → baseMarks.contains c = false)
    (hread : ∀ rest, MayBegin follow rest → readDecimal? (cs ++ rest) = some (l, rest)) :
    Spells follow cs [.number l] := by
  obtain ⟨d, ds, rfl, hd⟩ := hbegins
  have hquiet : numericChars.all isQuiet = true := by decide
  have hbase : numericChars.all (!baseMarks.contains ·) = true := by decide
  have htoken : beginsToken d = true := forall_isDigit (by decide) hd
  have hname : mayBeginName d = false := by
    simpa using forall_isDigit (p := (!mayBeginName ·)) (by decide) hd
  refine spells_singleton nofun (fun c hc => List.all_eq_true.mp hquiet c (hnumeric hc))
    (fun _ => rfl) fun n levels opened rest hrest => ?_
  have hdecimal : readNumber? (d :: ds ++ rest) = some (l, rest) := by
    rw [readNumber?_eq, hread rest hrest]
    intro c hc
    cases ds with
    | nil => exact hfollow c (hrest c hc)
    | cons e ds =>
        cases hc
        simpa using List.all_eq_true.mp hbase _ (hnumeric (List.mem_cons_of_mem d List.mem_cons_self))
  rw [List.cons_append] at hdecimal ⊢
  rw [tokensFrom_cons htoken, if_neg (by simp [hname]), if_pos (by simp [hd]), hdecimal]

/-- The number that a text is read as. -/
def numberOf (cs : List Char) : Literal := ((readDecimal? cs).map Prod.fst).getD .nothing

theorem numberOf_eq {follow : Char → Bool} {cs : List Char} {l : Literal}
    (h : ∀ rest, MayBegin follow rest → readDecimal? (cs ++ rest) = some (l, rest)) :
    numberOf cs = l := by
  have hread := h [] nofun
  rw [List.append_nil] at hread
  rw [numberOf, hread]
  rfl

/-- The digits of an integer are one number. -/
theorem spells_int {n : Nat} {cs : List Char} (h : writeInteger n = some cs) :
    Spells closes cs [.number (.int n)] ∧ Begins Char.isDigit cs := by
  have hlimit : n < 10 ^ decimalLimit := by
    have hsame : decimalLimit = digitLimit := rfl
    rw [hsame]
    by_contra hn
    have hpower (k : Nat) : powerOf 10 k = 10 ^ k := by
      rw [powerOf, Int.toNat_natCast]
      rfl
    rw [writeInteger, if_pos ((hpower digitLimit).le.trans (Nat.le_of_not_lt hn))] at h
    cases h
  obtain rfl : Nat.toDigits 10 n = cs := by
    rw [writeInteger] at h
    split at h
    · cases h
    · exact Option.some.inj h
  have hbegins : Begins Char.isDigit (Nat.toDigits 10 n) := by
    obtain ⟨d, ds, hds⟩ := List.exists_cons_of_ne_nil (Nat.toDigits_ne_nil (n := n) (b := 10))
    exact ⟨d, ds, hds, digits_toDigits n d (by simp [hds])⟩
  refine ⟨spells_number hbegins (digits_toDigits n).subset (fun c hc => ?_) fun rest hrest => ?_,
    hbegins⟩
  · simpa using forall_closes (p := (!baseMarks.contains ·)) (by decide) hc
  · rw [(scans_digits (digits_toDigits n)).readDecimal?_of_ends
      (hrest.mono fun c hc => forall_closes (by decide) hc)
      (hrest.mono fun c hc => forall_closes (p := (!mayContinueName ·)) (by decide) hc),
      integer?_toDigits hlimit]
    rfl

/-! ## Numbers with a point or an exponent -/

end Entity.Formula

namespace Entity.Binary64

open Entity.Formula

theorem powerOf_pos {b : Nat} (hb : 0 < b) (e : Int) : 0 < powerOf b e := Nat.pow_pos hb

/-- Zero lies in no interval above zero. -/
theorem Rounding.holds_zero {r : Rounding} (h : 0 < r.low) (k : Int) : r.holds 0 k = false := by
  have hscale := powerOf_pos (b := 10) (by decide) (-k)
  unfold Rounding.holds
  by_cases hk : 0 ≤ k
  · simp [hk, Nat.ne_of_gt h]
  · simp [hk, Nat.ne_of_gt h, Nat.ne_of_gt hscale]

theorem eq_of_first_or_second {p : Nat → Bool} {a b d : Nat}
    (h : (if p a then some a else if p b then some b else none) = some d) : p d = true := by
  split_ifs at h with ha hb
  · rwa [← Option.some.inj h]
  · rwa [← Option.some.inj h]

theorem Rounding.onGrid?_ne_zero {r : Rounding} (h : 0 < r.low) (k : Int) :
    r.onGrid? k ≠ some 0 := by
  intro hzero
  have hholds : r.holds 0 k = true := eq_of_first_or_second (p := (r.holds · k)) hzero
  rw [Rounding.holds_zero h] at hholds
  cases hholds

/-- A search finds zero only if it finds nothing. -/
theorem Rounding.search_eq_zero {r : Rounding} (h : 0 < r.low) (leading : Int) (grids : List Nat)
    (hzero : (r.search leading grids).1 = 0) : r.search leading grids = (0, 0) := by
  induction grids with
  | nil => rfl
  | cons n grids ih =>
      cases hgrid : r.onGrid? (leading - n) with
      | some d =>
          simp only [Rounding.search, hgrid] at hzero
          rw [hzero] at hgrid
          exact absurd hgrid (Rounding.onGrid?_ne_zero h _)
      | none =>
          simp only [Rounding.search, hgrid] at hzero ⊢
          exact ih hzero

theorem low_pos {m : Nat} (hm : m ≠ 0) (e : Int) : 0 < (rounding m e).low := by
  have hpower := powerOf_pos (b := 2) (by decide) (e - 2)
  have hbelow : 0 < 4 * m - if m = leadingBit ∧ minExponent < e then 1 else 2 := by
    split_ifs <;> omega
  exact Nat.mul_pos hbelow hpower

/-- The digits of a positive number are digits, and there are some unless the point stands after the
first place. -/
theorem digitsAndPoint_spec {m : Nat} (hm : m ≠ 0) (e : Int) : Digits (digitsAndPoint m e).1 ∧
    ((digitsAndPoint m e).1 = [] → (digitsAndPoint m e).2 = 1) := by
  have hstripped : Digits (digitsAndPoint m e).1 := fun c hc =>
    digits_toDigits _ c (List.mem_reverse.mp
      ((List.dropWhile_sublist _).subset (List.mem_reverse.mp hc)))
  refine ⟨hstripped, fun hnil => ?_⟩
  have hall : ∀ c ∈ Nat.toDigits 10 (shortest m e).1, c = '0' := by
    have hdrop : (Nat.toDigits 10 (shortest m e).1).reverse.dropWhile (· == '0') = [] :=
      List.reverse_eq_nil_iff.mp hnil
    intro c hc
    simpa using List.dropWhile_eq_nil_iff.mp hdrop c (List.mem_reverse.mpr hc)
  have hhead : (Nat.toDigits 10 (shortest m e).1).head? = some '0' := by
    obtain ⟨d, ds, hds⟩ :=
      List.exists_cons_of_ne_nil (Nat.toDigits_ne_nil (n := (shortest m e).1) (b := 10))
    rw [hds, hall d (by simp [hds])]
    rfl
  have hdigits := toDigits_of_head?_eq_zero hhead
  have hzero : (shortest m e).1 = 0 := by
    have hvalue := congrArg (fun ds => Nat.ofDigitChars 10 ds 0) hdigits
    simp only [Nat.ofDigitChars_ten_toDigits] at hvalue
    exact hvalue
  have hnone : shortest m e = (0, 0) := Rounding.search_eq_zero (low_pos hm e) _ _ hzero
  simp [digitsAndPoint, hnone]

theorem isNumeral_positional {digits : List Char} (h : Digits digits) (point : Int) :
    IsNumeral (positional digits point) := by
  unfold positional
  dsimp only
  split_ifs with hpoint hlength
  · exact @IsNumeral.point ['0'] _ (by decide) nofun ((digits_replicate _).append h)
  · refine .point (h.append (digits_replicate _)) ?_ (by decide)
    rw [ne_eq, List.append_eq_nil_iff, List.replicate_eq_nil_iff]
    rintro ⟨rfl, hzero⟩
    simp only [List.length_nil] at hzero
    omega
  · refine .point (fun c hc => h c (List.take_subset _ _ hc)) ?_
      fun c hc => h c (List.drop_subset _ _ hc)
    rw [ne_eq, List.take_eq_nil_iff]
    rintro (hzero | rfl)
    · omega
    · simp at hlength

theorem isNumeral_exponential {digits : List Char} (h : Digits digits) (hne : digits ≠ [])
    (point : Int) : IsNumeral (exponential digits point) := by
  have hsize := digits_toDigits (point - 1).natAbs
  have hpadded : Digits (if (Nat.toDigits 10 (point - 1).natAbs).length < 2 then
      '0' :: Nat.toDigits 10 (point - 1).natAbs else Nat.toDigits 10 (point - 1).natAbs) := by
    split
    · exact (digits_replicate 1).append hsize
    · exact hsize
  have hpaddedne : (if (Nat.toDigits 10 (point - 1).natAbs).length < 2 then
      '0' :: Nat.toDigits 10 (point - 1).natAbs else Nat.toDigits 10 (point - 1).natAbs) ≠ [] := by
    split
    · nofun
    · exact Nat.toDigits_ne_nil
  have hfraction : (if digits.length ≤ 1 then [] else '.' :: digits.drop 1) = [] ∨
      ∃ fs, (if digits.length ≤ 1 then [] else '.' :: digits.drop 1) = '.' :: fs ∧ Digits fs := by
    split
    · exact .inl rfl
    · exact .inr ⟨_, rfl, fun c hc => h c (List.drop_subset _ _ hc)⟩
  have hsign : [if point - 1 < 0 then '-' else '+'] ∈ [[], ['+'], ['-']] := by
    split <;> decide
  have hnumeral := IsNumeral.exponent (fun c hc => h c (List.take_subset 1 _ hc))
    (by simpa using hne) hfraction hsign hpadded hpaddedne
  rwa [← List.append_assoc] at hnumeral

/-- The number has no sign and is one. -/
def isUnsigned : Binary64 → Bool
  | nan => false
  | infinite s => !s
  | finite s _ _ => !s

/-- A number without a sign is written with a point or an exponent. -/
theorem isNumeral_toText {x : Binary64} (h : x.isUnsigned = true) :
    IsNumeral (x.toText overflowNames).toList := by
  cases x with
  | nan => cases h
  | infinite s =>
      obtain rfl : s = false := by simpa [isUnsigned] using h
      exact @IsNumeral.exponent ['1'] [] [] ['3', '0', '9'] (by decide) (by simp) (.inl rfl)
        (by decide) (by decide) (by simp)
  | finite s m e =>
      obtain rfl : s = false := by simpa [isUnsigned] using h
      rw [toText, if_neg (by decide), String.toList_ofList]
      split_ifs with hm
      · exact @IsNumeral.point ['0'] ['0'] (by decide) (by simp) (by decide)
      · obtain ⟨hdigits, hpoint⟩ := digitsAndPoint_spec hm e
        dsimp only
        split_ifs with hsmall
        · exact isNumeral_positional hdigits _
        · refine isNumeral_exponential hdigits (fun hnil => hsmall ?_) _
          rw [hpoint hnil]
          decide

end Entity.Binary64

namespace Entity.Formula

open Entity.Text

theorem IsNumeral.begins {cs : List Char} (h : IsNumeral cs) : Begins Char.isDigit cs := by
  cases h with
  | point hwhole hne | exponent hwhole hne =>
      obtain ⟨d, ds, rfl⟩ := List.exists_cons_of_ne_nil hne
      exact ⟨d, _, rfl, hwhole d List.mem_cons_self⟩

theorem IsNumeral.subset {cs : List Char} (h : IsNumeral cs) : cs ⊆ numericChars := by
  cases h with
  | point hwhole hne hds =>
      exact List.append_subset.mpr ⟨hwhole.subset, List.cons_subset.mpr ⟨by decide, hds.subset⟩⟩
  | exponent hwhole hne hfraction hsign hds =>
      have hfraction' : ∀ {fs : List Char}, fs = [] ∨ (∃ ds, fs = '.' :: ds ∧ Digits ds) →
          fs ⊆ numericChars := by
        rintro fs (rfl | ⟨ds, rfl, hds⟩)
        · exact List.nil_subset _
        · exact List.cons_subset.mpr ⟨by decide, hds.subset⟩
      have hsign' : ∀ {cs : List Char}, cs ∈ [[], ['+'], ['-']] → cs ⊆ numericChars := by
        decide
      exact List.append_subset.mpr ⟨hwhole.subset, List.append_subset.mpr ⟨hfraction' hfraction,
        List.cons_subset.mpr ⟨by decide, List.append_subset.mpr ⟨hsign' hsign, hds.subset⟩⟩⟩⟩

/-- A number with a point or an exponent is one number. -/
theorem spells_float {cs : List Char} (h : IsNumeral cs) :
    Spells closesOrPoint cs [.number (numberOf cs)] := by
  obtain ⟨whole, fraction, exponent, hscans, hpart⟩ := h.scans
  have hread (rest : List Char) (hrest : MayBegin closesOrPoint rest) : readDecimal? (cs ++ rest) =
      some (.float (numeralValue whole fraction exponent), rest) := by
    rw [hscans.readDecimal?_of_ends
      (hrest.mono fun c hc => forall_closesOrPoint (by decide) hc)
      (hrest.mono fun c hc => forall_closesOrPoint (p := (!mayContinueName ·)) (by decide) hc),
      if_pos hpart]
  rw [numberOf_eq hread]
  refine spells_number h.begins h.subset (fun c hc => ?_) hread
  simpa using forall_closesOrPoint (p := (!baseMarks.contains ·)) (by decide) hc

/-- Of digits at the end of a text, only one stands after a point that is the last but one. -/
theorem before_of_reverse {ds before rest : List Char} (hds : Digits ds)
    (h : ds.reverse ++ before = '0' :: '.' :: rest) :
    (ds = [] ∧ before = '0' :: '.' :: rest) ∨ before = '.' :: rest := by
  have hreverse : ∀ c ∈ ds.reverse, c.isDigit = true := fun c hc => hds c (List.mem_reverse.mp hc)
  rw [← List.reverse_eq_nil_iff]
  match hrev : ds.reverse, hreverse with
  | [], _ =>
      rw [hrev] at h
      exact .inl ⟨rfl, h⟩
  | [d], _ =>
      rw [hrev] at h
      cases h
      exact .inr rfl
  | d :: e :: es, hdigits =>
      rw [hrev] at h
      cases h
      exact absurd (hdigits '.' (by simp)) (by decide)

/-- A numeral that ends in a point and zero is digits before them. -/
theorem IsNumeral.digits_of_reverse {cs rest : List Char} (h : IsNumeral cs)
    (hrest : cs.reverse = '0' :: '.' :: rest) : Digits rest.reverse ∧ rest ≠ [] := by
  cases h with
  | @point whole ds hwhole hne hds =>
      rw [List.reverse_append, List.reverse_cons, List.append_assoc, List.singleton_append] at hrest
      rcases before_of_reverse hds hrest with ⟨-, hbefore⟩ | hbefore
      · cases hbefore
      · cases hbefore
        rw [List.reverse_reverse]
        exact ⟨hwhole, by simpa using hne⟩
  | @exponent whole fraction sign ds hwhole hne hfraction hsign hds hdsne =>
      have hsplit : ds.reverse ++ (sign.reverse ++ 'e' :: (fraction.reverse ++ whole.reverse)) =
          '0' :: '.' :: rest := by
        rw [← hrest]
        simp
      rcases before_of_reverse hds hsplit with ⟨hnil, -⟩ | hbefore
      · exact absurd hnil hdsne
      · simp only [List.mem_cons, List.not_mem_nil, or_false] at hsign
        rcases hsign with rfl | rfl | rfl <;> cases hbefore

/-- A multiple of the imaginary unit is one number. -/
theorem spells_imaginary {x : Binary64} (h : x.isUnsigned = true) :
    Spells closesOrPoint (imaginaryText x) [.number (numberOf (imaginaryText x))] ∧
      Begins Char.isDigit (imaginaryText x) := by
  have hnumeral := Binary64.isNumeral_toText h
  -- the parts before the mark: those of the number, or its digits before a point and zero
  obtain ⟨cs, hcs, hbegins, hsubset, follow, whole, fraction, exponent, hscans, hj⟩ :
      ∃ cs, imaginaryText x = cs ++ ['j'] ∧ Begins Char.isDigit cs ∧ cs ⊆ numericChars ∧
        ∃ follow whole fraction exponent, Scans follow cs whole fraction exponent ∧
          follow 'j' = true := by
    unfold imaginaryText
    generalize (x.toText overflowNames).toList = cs at hnumeral
    refine ⟨_, rfl, ?_⟩
    split
    · rename_i hends
      obtain ⟨rest, hrest⟩ := Option.isSome_iff_exists.mp hends
      have hreverse : cs.reverse = '0' :: '.' :: rest := afterStart?_eq_some hrest
      obtain ⟨hdigits, hne⟩ := hnumeral.digits_of_reverse hreverse
      have hdrop : cs.dropLast.dropLast = rest.reverse := by
        rw [← List.reverse_reverse cs, hreverse]
        simp
      rw [hdrop]
      refine ⟨?_, hdigits.subset, endsDigits, _, _, _, scans_digits hdigits, by decide⟩
      obtain ⟨d, ds, hds⟩ := List.exists_cons_of_ne_nil (List.reverse_ne_nil_iff.mpr hne)
      exact ⟨d, ds, hds, hdigits d (by simp [hds])⟩
    · obtain ⟨whole, fraction, exponent, hscans, -⟩ := hnumeral.scans
      exact ⟨hnumeral.begins, hnumeral.subset, endsNumeral, _, _, _, hscans, by decide⟩
  rw [hcs]
  have hread (rest : List Char) (hrest : MayBegin closesOrPoint rest) :
      readDecimal? (cs ++ ['j'] ++ rest) =
        some (.imaginary (numeralValue whole fraction exponent), rest) := by
    rw [List.append_assoc]
    exact hscans.readDecimal?_eq_imaginary hj
      (hrest.mono fun c hc => forall_closesOrPoint (p := (!mayContinueName ·)) (by decide) hc)
  rw [numberOf_eq hread]
  refine ⟨spells_number (hbegins.append _) (List.append_subset.mpr ⟨hsubset, by decide⟩)
    (fun c hc => ?_) hread, hbegins.append _⟩
  simpa using forall_closesOrPoint (p := (!baseMarks.contains ·)) (by decide) hc

end Entity.Formula
