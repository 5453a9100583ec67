import Entity.Formula.Source
import Entity.Proofs.Text.Ends
import Mathlib.Data.List.Basic
import Mathlib.Tactic.Common

/-!
# Cutting lambda expressions out of a text

A lambda expression is found in the text around it by two searches, one in the other: over the
places where the word stands, from the left, and for each of them over the places where an
expression may end, from the right.  Here both are described by positions in the whole text, without
the order in which they are tried: a place has a candidate if some piece from there is a lambda
expression, namely the longest one.  Main statement: the search answers the leftmost candidate with
the expected parameters, and nothing if there is none, unless half of a surrogate pair follows the
word.
-/

namespace Entity.Formula

open Entity.Text

/-! ## Lambda expressions and where they stand -/

/-- The text is a lambda expression whose positional parameters have the names. -/
def IsLambdaOf (cs : List Char) (names : List String) : Prop :=
  ∃ ps body, expressionOf cs = .ok (.lambda ps body) ∧ Tree.positionalNames ps = names

/-- An expression in the text may end before the position. -/
def EndsAt (cs : List Char) (e : Nat) : Prop :=
  e = cs.length ∨ ∃ c, cs[e]? = some c ∧ mayEndExpression c = true

/-- What stands between two positions of a text, without the blanks at its ends. -/
def slice (cs : List Char) (i e : Nat) : List Char := trim ((cs.take e).drop i)

/-- The longest lambda expression that begins with the word at a position of a text. -/
structure Candidate (cs : List Char) (i : Nat) (found : FoundLambda) : Prop where
  word : "lambda".toList <+: cs.drop i
  longest : ∃ e, EndsAt cs e ∧ found.text = slice cs i e ∧
    IsLambdaOf found.text found.parameters ∧
    ∀ e', EndsAt cs e' → e < e' → ∀ names, ¬ IsLambdaOf (slice cs i e') names

/-- The positional parameters are the expected ones, if names are expected. -/
def FoundLambda.Fits (found : FoundLambda) (expected : Option (List String)) : Prop :=
  ∀ names ∈ expected, found.parameters = names

/-- The answer to a search for a lambda expression in a text. -/
structure Extracts (cs : List Char) (expected : Option (List String)) (answer : Option String) :
    Prop where
  /-- It is the leftmost candidate with the expected parameters. -/
  leftmost : ∀ t, answer = some t ↔ ∃ i found, Candidate cs i found ∧ found.Fits expected ∧
    found.text = t.toList ∧ ∀ j < i, ∀ other, Candidate cs j other → ¬ other.Fits expected
  nothing : answer = none ↔ ∀ i found, Candidate cs i found → ¬ found.Fits expected
  /-- It is a piece of the text, and a lambda expression with the expected parameters. -/
  sound : ∀ t, answer = some t → t.toList <:+: cs ∧
    ∃ names, IsLambdaOf t.toList names ∧ ∀ names' ∈ expected, names = names'

/-! ## Searching in order -/

/-- A search in a list that is in order finds the first element that yields something. -/
theorem findSome?_eq_some_iff_of_pairwise {α β : Type} {r : α → α → Prop} {l : List α}
    (hl : l.Pairwise r) (hr : ∀ x y, r x y → ¬ r y x) (f : α → Option β) (b : β) :
    l.findSome? f = some b ↔ ∃ x ∈ l, f x = some b ∧ ∀ y ∈ l, r y x → f y = none := by
  constructor
  · intro h
    obtain ⟨before, x, after, rfl, hx, hbefore⟩ := List.findSome?_eq_some_iff.mp h
    refine ⟨x, by simp, hx, ?_⟩
    intro y hy hyx
    -- what comes after the found element is not below it
    have hafter := (List.pairwise_cons.mp (List.pairwise_append.mp hl).2.1).1
    rcases List.mem_append.mp hy with hy | hy
    · exact hbefore y hy
    · rcases List.mem_cons.mp hy with rfl | hy
      · exact absurd hyx (hr y y hyx)
      · exact absurd (hafter y hy) (hr y x hyx)
  · rintro ⟨x, hx, hb, hfirst⟩
    obtain ⟨before, after, rfl⟩ := List.append_of_mem hx
    refine List.findSome?_eq_some_iff.mpr ⟨before, x, after, rfl, hb, ?_⟩
    intro y hy
    exact hfirst y (by simp [hy]) ((List.pairwise_append.mp hl).2.2 y hy x List.mem_cons_self)

/-- The positions where a word stands in a text. -/
def positions (word cs : List Char) : List Nat :=
  (List.range cs.length).filter fun i => beginsWith word (cs.drop i)

theorem occurrences_eq_map (word cs : List Char) :
    occurrences word cs = (positions word cs).map fun i => cs.drop i := by
  induction cs with
  | nil => rfl
  | cons c cs ih =>
      have hrest : (positions word (c :: cs)).map (fun i => (c :: cs).drop i) =
          (if beginsWith word (c :: cs) then [c :: cs] else []) ++ occurrences word cs := by
        rw [ih, positions, List.length_cons, List.range_succ_eq_map, List.filter_cons,
          List.filter_map, positions, List.drop_zero]
        split <;> simp [Function.comp_def]
      rw [hrest, occurrences]
      split <;> rfl

theorem mem_positions_iff {word cs : List Char} (hword : word ≠ []) (i : Nat) :
    i ∈ positions word cs ↔ word <+: cs.drop i := by
  rw [positions, List.mem_filter, List.mem_range, beginsWith_iff, and_iff_right_iff_imp]
  intro h
  by_contra hi
  rw [List.drop_eq_nil_of_le (Nat.le_of_not_lt hi)] at h
  exact hword (List.prefix_nil.mp h)

theorem pairwise_positions (word cs : List Char) : (positions word cs).Pairwise (· < ·) :=
  List.pairwise_lt_range.filter _

/-! ## The longest one at a position -/

theorem lambdaOf?_eq_some_iff (cs : List Char) (found : FoundLambda) :
    lambdaOf? cs = some found ↔ found.text = cs ∧ IsLambdaOf cs found.parameters := by
  obtain ⟨text, parameters⟩ := found
  rw [lambdaOf?, IsLambdaOf]
  split
  · rename_i ps body h
    simp [h, eq_comm]
  · rename_i h
    simp only [reduceCtorEq, false_iff, not_and]
    rintro - ⟨ps, body, hread, -⟩
    exact h ps body hread

theorem lambdaOf?_eq_none_iff (cs : List Char) :
    lambdaOf? cs = none ↔ ∀ names, ¬ IsLambdaOf cs names := by
  rw [Option.eq_none_iff_forall_ne_some]
  constructor
  · intro h names hnames
    exact h ⟨cs, names⟩ ((lambdaOf?_eq_some_iff cs _).mpr ⟨rfl, hnames⟩)
  · intro h found hfound
    exact h _ ((lambdaOf?_eq_some_iff cs found).mp hfound).2

/-- The end of a text and the places inside it, counted from its start. -/
theorem mem_expressionEnds_iff (cs : List Char) (n : Nat) :
    n ∈ expressionEnds cs ↔
      n = cs.length ∨ 0 < n ∧ ∃ c, cs[n]? = some c ∧ mayEndExpression c = true := by
  simp only [expressionEnds, List.mem_cons, List.mem_reverse, List.mem_map, List.mem_filter,
    Bool.and_eq_true, decide_eq_true_eq]
  refine or_congr Iff.rfl ⟨?_, ?_⟩
  · rintro ⟨⟨c, n⟩, ⟨hmem, hpos, hc⟩, rfl⟩
    exact ⟨hpos, c, List.mem_zipIdx_iff_getElem?.mp hmem, hc⟩
  · rintro ⟨hpos, c, hmem, hc⟩
    exact ⟨(c, n), ⟨List.mem_zipIdx_iff_getElem?.mpr hmem, hpos, hc⟩, rfl⟩

theorem pairwise_expressionEnds (cs : List Char) : (expressionEnds cs).Pairwise (· > ·) := by
  have hinner : ∀ p : Char × Nat → Bool,
      ((cs.zipIdx.filter p).map Prod.snd).Sublist (List.range' 0 cs.length) := by
    intro p
    rw [← List.zipIdx_map_snd 0 cs]
    exact List.filter_sublist.map Prod.snd
  rw [expressionEnds, List.pairwise_cons, List.pairwise_reverse]
  constructor
  · intro n hn
    have hlt := List.mem_range'_1.mp ((hinner _).subset (List.mem_reverse.mp hn))
    omega
  · exact List.Pairwise.sublist (hinner _) List.pairwise_lt_range'

/-- Nothing that ends where it begins is a lambda expression. -/
theorem not_isLambdaOf_slice {cs : List Char} {i e : Nat} (h : e ≤ i) (names : List String) :
    ¬ IsLambdaOf (slice cs i e) names := by
  have hnil : (cs.take e).drop i = [] := by
    rw [List.drop_eq_nil_iff, List.length_take]
    omega
  have hnone : lambdaOf? (trim []) = none := rfl
  rw [slice, hnil]
  exact (lambdaOf?_eq_none_iff _).mp hnone names

/-- The places where an expression that begins at a position may end, counted from there. -/
theorem mem_expressionEnds_drop_iff {cs : List Char} {i : Nat}
    (hword : "lambda".toList <+: cs.drop i) (n : Nat) :
    n ∈ expressionEnds (cs.drop i) ↔ 0 < n ∧ EndsAt cs (i + n) := by
  have hlen := hword.length_le
  rw [List.length_drop] at hlen
  have hpos : 0 < "lambda".toList.length := Nat.zero_lt_succ 5
  have hend : n = cs.length - i ↔ 0 < n ∧ i + n = cs.length := by omega
  rw [mem_expressionEnds_iff, List.length_drop, List.getElem?_drop, hend, EndsAt, and_or_left]

theorem longestLambda?_eq_some_iff {cs : List Char} {i : Nat}
    (hword : "lambda".toList <+: cs.drop i) (found : FoundLambda) :
    longestLambda? (cs.drop i) = some found ↔ Candidate cs i found := by
  have hslice : ∀ n, trim ((cs.drop i).take n) = slice cs i (i + n) := by
    intro n
    rw [slice, List.drop_take, Nat.add_sub_cancel_left]
  rw [longestLambda?, findSome?_eq_some_iff_of_pairwise (pairwise_expressionEnds _)
    fun _ _ => Nat.lt_asymm]
  simp only [hslice, lambdaOf?_eq_some_iff, lambdaOf?_eq_none_iff]
  -- a place that is counted from the word is the end `i + n` in the whole text
  constructor
  · rintro ⟨n, hn, ⟨htext, hlambda⟩, hlongest⟩
    have hends := ((mem_expressionEnds_drop_iff hword n).mp hn).2
    refine ⟨hword, i + n, hends, htext, htext ▸ hlambda, ?_⟩
    intro e he hlt
    obtain ⟨m, rfl⟩ : ∃ m, e = i + m := ⟨e - i, by omega⟩
    exact hlongest m ((mem_expressionEnds_drop_iff hword m).mpr ⟨by omega, he⟩) (by omega)
  · rintro ⟨-, e, he, htext, hlambda, hlongest⟩
    rw [htext] at hlambda
    -- an end that is not behind the word would leave an empty piece
    have hlt : i < e := by
      by_contra hle
      exact not_isLambdaOf_slice (Nat.le_of_not_lt hle) _ hlambda
    obtain ⟨n, rfl⟩ : ∃ n, e = i + n := ⟨e - i, by omega⟩
    refine ⟨n, (mem_expressionEnds_drop_iff hword n).mpr ⟨by omega, he⟩, ⟨htext, hlambda⟩, ?_⟩
    intro m hm hlt'
    exact hlongest (i + m) ((mem_expressionEnds_drop_iff hword m).mp hm).2 (by omega)

/-! ## The search -/

/-- The candidate of a position, if the expected names are its parameters. -/
def fitting? (cs : List Char) (expected : Option (List String)) (i : Nat) : Option FoundLambda :=
  (longestLambda? (cs.drop i)).filter fun found =>
    match expected with
    | some names => found.parameters == names
    | none => true

theorem fitting?_eq_some_iff {cs : List Char} {expected : Option (List String)} {i : Nat}
    (hword : "lambda".toList <+: cs.drop i) (found : FoundLambda) :
    fitting? cs expected i = some found ↔ Candidate cs i found ∧ found.Fits expected := by
  rw [fitting?, Option.filter_eq_some_iff, longestLambda?_eq_some_iff hword, FoundLambda.Fits]
  cases expected <;> simp

theorem fitting?_eq_none_iff {cs : List Char} {expected : Option (List String)} {i : Nat}
    (hword : "lambda".toList <+: cs.drop i) :
    fitting? cs expected i = none ↔ ∀ found, Candidate cs i found → ¬ found.Fits expected := by
  rw [Option.eq_none_iff_forall_ne_some]
  exact forall_congr' fun found => by rw [ne_eq, fitting?_eq_some_iff hword, not_and]

/-- The lambda expression that is found in a text without halves. -/
def leftmostFitting? (cs : List Char) (expected : Option (List String)) : Option FoundLambda :=
  (positions "lambda".toList cs).findSome? (fitting? cs expected)

theorem leftmostFitting?_eq_some_iff (cs : List Char) (expected : Option (List String))
    (found : FoundLambda) : leftmostFitting? cs expected = some found ↔
      ∃ i, Candidate cs i found ∧ found.Fits expected ∧
        ∀ j < i, ∀ other, Candidate cs j other → ¬ other.Fits expected := by
  have hne : "lambda".toList ≠ [] := by decide
  rw [leftmostFitting?, findSome?_eq_some_iff_of_pairwise (pairwise_positions _ _)
    fun _ _ => Nat.lt_asymm]
  refine exists_congr fun i => ?_
  rw [mem_positions_iff hne]
  constructor
  · rintro ⟨hword, hfound, hfirst⟩
    obtain ⟨hcandidate, hfits⟩ := (fitting?_eq_some_iff hword found).mp hfound
    refine ⟨hcandidate, hfits, ?_⟩
    intro j hj other hother
    exact (fitting?_eq_none_iff hother.word).mp
      (hfirst j ((mem_positions_iff hne j).mpr hother.word) hj) other hother
  · rintro ⟨hcandidate, hfits, hfirst⟩
    refine ⟨hcandidate.word, (fitting?_eq_some_iff hcandidate.word found).mpr
      ⟨hcandidate, hfits⟩, ?_⟩
    intro j hmem hj
    exact (fitting?_eq_none_iff ((mem_positions_iff hne j).mp hmem)).mpr (hfirst j hj)

theorem leftmostFitting?_eq_none_iff (cs : List Char) (expected : Option (List String)) :
    leftmostFitting? cs expected = none ↔
      ∀ i found, Candidate cs i found → ¬ found.Fits expected := by
  have hne : "lambda".toList ≠ [] := by decide
  rw [leftmostFitting?, List.findSome?_eq_none_iff]
  constructor
  · intro h i found hfound
    exact (fitting?_eq_none_iff hfound.word).mp
      (h i ((mem_positions_iff hne i).mpr hfound.word)) found hfound
  · intro h i hmem
    exact (fitting?_eq_none_iff ((mem_positions_iff hne i).mp hmem)).mpr (h i)

theorem extractLambda?_eq (cs : List Char) (expected : Option (List String)) :
    extractLambda? cs expected =
      if (positions "lambda".toList cs).any (fun i => (cs.drop i).any holdsHalf) then
        .error SyntaxProblem.unpairedHalf.toFailure
      else .ok ((leftmostFitting? cs expected).map fun found => String.ofList found.text) := by
  rw [extractLambda?, occurrences_eq_map, List.any_map, List.findSome?_map]
  rfl

/-- What is cut out of a text is a piece of it. -/
theorem slice_infix (cs : List Char) (i e : Nat) : slice cs i e <:+: cs := by
  have htrim : ∀ ds : List Char, trim ds <:+: ds := fun ds =>
    (trimEnd_prefix_self _).isInfix.trans (List.dropWhile_suffix isBlank).isInfix
  exact (htrim _).trans ((List.drop_suffix i _).isInfix.trans (List.take_prefix e cs).isInfix)

theorem extracts_leftmostFitting? (cs : List Char) (expected : Option (List String)) :
    Extracts cs expected
      ((leftmostFitting? cs expected).map fun found => String.ofList found.text) := by
  have hsome : ∀ t, (leftmostFitting? cs expected).map (fun found => String.ofList found.text) =
      some t ↔ ∃ i found, Candidate cs i found ∧ found.Fits expected ∧ found.text = t.toList ∧
        ∀ j < i, ∀ other, Candidate cs j other → ¬ other.Fits expected := by
    intro t
    simp only [Option.map_eq_some_iff, leftmostFitting?_eq_some_iff]
    constructor
    · rintro ⟨found, ⟨i, hcandidate, hfits, hfirst⟩, rfl⟩
      exact ⟨i, found, hcandidate, hfits, String.toList_ofList.symm, hfirst⟩
    · rintro ⟨i, found, hcandidate, hfits, htext, hfirst⟩
      exact ⟨found, ⟨i, hcandidate, hfits, hfirst⟩, by rw [htext, String.ofList_toList]⟩
  refine ⟨hsome, ?_, ?_⟩
  · rw [Option.map_eq_none_iff, leftmostFitting?_eq_none_iff]
  · intro t ht
    obtain ⟨i, found, hcandidate, hfits, htext, -⟩ := (hsome t).mp ht
    obtain ⟨e, -, hslice, hlambda, -⟩ := hcandidate.longest
    rw [← htext]
    exact ⟨hslice ▸ slice_infix cs i e, found.parameters, hlambda, hfits⟩

/-- Half of a surrogate pair stands somewhere behind the word. -/
def HalfFollows (cs : List Char) : Prop :=
  ∃ i, "lambda".toList <+: cs.drop i ∧ ∃ c ∈ cs.drop i, holdsHalf c = true

theorem any_positions_iff (cs : List Char) :
    (positions "lambda".toList cs).any (fun i => (cs.drop i).any holdsHalf) = true ↔
      HalfFollows cs := by
  have hne : "lambda".toList ≠ [] := by decide
  rw [List.any_eq_true, HalfFollows]
  simp only [mem_positions_iff hne, List.any_eq_true]

theorem extractLambda?_of_halfFollows {cs : List Char} (h : HalfFollows cs)
    (expected : Option (List String)) :
    extractLambda? cs expected = .error SyntaxProblem.unpairedHalf.toFailure := by
  rw [extractLambda?_eq, if_pos ((any_positions_iff cs).mpr h)]

theorem extractLambda?_of_not_halfFollows {cs : List Char} (h : ¬ HalfFollows cs)
    (expected : Option (List String)) : extractLambda? cs expected =
      .ok ((leftmostFitting? cs expected).map fun found => String.ofList found.text) := by
  rw [extractLambda?_eq, if_neg (mt (any_positions_iff cs).mp h)]

/-- **A lambda expression is found wherever there is one.**  The search through a text answers the
leftmost of the longest lambda expressions whose positional parameters are the expected ones, and
nothing if there is none; it does so unless half of a surrogate pair follows the word somewhere, and
then it fails. -/
theorem extractLambda?_extracts_iff (cs : List Char) (expected : Option (List String)) :
    ((∃ answer, extractLambda? cs expected = .ok answer ∧ Extracts cs expected answer) ↔
      ¬ HalfFollows cs) ∧
    (extractLambda? cs expected = .error SyntaxProblem.unpairedHalf.toFailure ↔
      HalfFollows cs) := by
  by_cases h : HalfFollows cs
  · rw [extractLambda?_of_halfFollows h]
    simp [h]
  · rw [extractLambda?_of_not_halfFollows h]
    simp [h, extracts_leftmostFitting?]

/-! ### A half behind an expression -/

namespace Halved

/-- A lambda expression, and behind it a text that is half of a surrogate pair. -/
def text : List Char :=
  "lambda x: x, '".toList ++ [Char.ofNat (0xd800 + halfShift)] ++ "'".toList

end Halved

/-- The expression before the comma is the longest one where the word stands, but the search does
not answer it: it fails when it reads the text up to its end. -/
theorem extractLambda?_not_extracts_halved :
    Candidate Halved.text 0 ⟨"lambda x: x".toList, ["x"]⟩ ∧
      extractLambda? Halved.text none = .error SyntaxProblem.unpairedHalf.toFailure ∧
      ¬ ∃ answer, extractLambda? Halved.text none = .ok answer ∧
        Extracts Halved.text none answer := by
  have hread : lambdaOf? "lambda x: x".toList = some ⟨"lambda x: x".toList, ["x"]⟩ := by
    decide +kernel
  have hhalf : lambdaOf? (slice Halved.text 0 Halved.text.length) = none := by decide +kernel
  have hends : ∀ e, EndsAt Halved.text e → 11 < e → e = Halved.text.length := by
    have hinner : ∀ e < Halved.text.length, 11 < e →
        Halved.text[e]?.any mayEndExpression = false := by decide
    rintro e (he | ⟨c, hc, hdelimiter⟩) hlt
    · exact he
    · have hnot := hinner e (List.getElem?_eq_some_iff.mp hc).1 hlt
      rw [hc, Option.any_some, hdelimiter] at hnot
      cases hnot
  have hfollows : HalfFollows Halved.text :=
    ⟨0, by decide, Char.ofNat (0xd800 + halfShift), by decide, by decide⟩
  have hfails := extractLambda?_of_halfFollows hfollows none
  refine ⟨⟨by decide, 11, Or.inr ⟨',', by decide, by decide⟩, by decide,
    ((lambdaOf?_eq_some_iff _ _).mp hread).2, ?_⟩, hfails, ?_⟩
  · intro e he hlt
    rw [hends e he hlt]
    exact (lambdaOf?_eq_none_iff _).mp hhalf
  · rintro ⟨answer, hanswer, -⟩
    rw [hfails] at hanswer
    cases hanswer

end Entity.Formula
