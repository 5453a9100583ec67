import Entity.Proofs.Formula.Quotes
import Entity.Proofs.Module.Tables

/-!
# The header of a module

A module begins with a text literal that names its type.  The name is written as it is, so that
quotes and backslashes in it mean what they mean in code.  Main statement: the header is one literal
that its own last line closes exactly when the name has no three quotes that close a literal, no
escape that cannot be read, and no character that code may not hold.
-/

namespace Entity

open Entity.Text Entity.Formula

namespace Formula

/-! ## Literals at the start of code -/

/-- The text literal that a piece of code begins with, and the code after it. -/
def leadingText? (cs : List Char) : Option (QuotedText × List Char) :=
  match plainLineEnds cs with
  | '"' :: cs => readText? [] '"' cs
  | _ => none

/-- Code that begins with a text literal has that literal as its first token, and goes on with the
tokens of the code after it. -/
theorem tokensOf_of_leadingText? {cs rest : List Char} {t : QuotedText}
    (h : leadingText? cs = some (t, rest)) :
    ∃ fuel, tokensOf (plainLineEnds cs) = .text t :: tokensFrom fuel false [] [] rest := by
  unfold leadingText? at h
  split at h
  · rename_i ds hds
    rw [hds, tokensOf]
    obtain ⟨n, hn⟩ : ∃ n, 2 * ('"' :: ds).length + 2 = n + 2 := ⟨_, rfl⟩
    rw [hn]
    refine ⟨n, ?_⟩
    have hread : readText? [] '"' ds = some (t, rest) := h
    simp [tokensFrom, indentation, isEmptyLine, lineStart?, topLevel, skipComment, isInnerBlank,
      mayBeginName, hread]
  · cases h

/-- Line ends before and after a character that is no line feed are plain alike. -/
theorem plainLineEnds_append_cons {d : Char} (hd : d ≠ '\n') (cs ds : List Char) :
    plainLineEnds (cs ++ d :: ds) = plainLineEnds cs ++ plainLineEnds (d :: ds) := by
  induction cs using plainLineEnds.induct with
  | case1 cs ih => simp [plainLineEnds, ih]
  | case2 cs h ih =>
      have hfeed : ∀ es, cs ++ d :: ds ≠ '\n' :: es := by
        intro es hes
        cases cs with
        | nil => exact hd (by simpa using congrArg List.head? hes)
        | cons c cs =>
            obtain ⟨rfl, -⟩ := List.cons.inj hes
            exact h cs rfl
      rw [List.cons_append, plainLineEnds.eq_2 _ fun es hes => hfeed es hes,
        plainLineEnds.eq_2 cs h, ih, List.cons_append]
  | case3 c cs h h' ih =>
      rw [List.cons_append, plainLineEnds_cons h', plainLineEnds_cons h', ih, List.cons_append]
  | case4 => rfl

/-! ## Sealed literals -/

/-- A literal is sealed before the code after it: code may hold it, it is the text literal that the
whole begins with, with just that code after it, and its escapes can be read. -/
structure Sealed (literal rest : List Char) : Prop where
  readable : unreadable? literal = none
  closed : ∃ t, leadingText? (literal ++ rest) = some (t, plainLineEnds rest) ∧
    (decodeBody? t.isBytes t.isRaw t.body).isSome

/-- A text means no more than itself between three double quotes: code may hold it, it does not
close the quotes, and its escapes can be read. -/
structure Harmless (cs : List Char) : Prop where
  readable : unreadable? cs = none
  closesNot : closesQuotes (plainLineEnds cs) = false
  escapes : (decodeBody? false false (plainLineEnds cs)).isSome

end Formula

namespace Module

/-! ## The header -/

/-- What stands after the name of the type, up to the closing quotes. -/
def headerEnd : List Char :=
  " definition module.".toList ++ '\n' :: ("Generated by nouns - DO NOT EDIT.".toList ++ ['\n'])

/-- The header of a module, from its opening to its closing quotes. -/
def header (type : String) : List Char :=
  threeQuotes ++ '\n' :: (type.toList ++ headerEnd) ++ threeQuotes

/-- What is between the quotes of the header, its line ends being plain. -/
def headerBody (type : String) : List Char :=
  '\n' :: (plainLineEnds type.toList ++ headerEnd)

/-- The header is read from its opening quotes on. -/
theorem leadingText?_header (type : String) (rest : List Char) :
    leadingText? (header type ++ rest) =
      (untilQuotes? '"' (headerBody type ++ threeQuotes ++ plainLineEnds rest)).map
        fun (body, rest) => ({ body }, rest) := by
  have hend : '\r' ∉ headerEnd ++ threeQuotes := by decide
  have hplain : plainLineEnds (header type ++ rest) =
      '"' :: ('"' :: '"' :: (headerBody type ++ threeQuotes ++ plainLineEnds rest)) := by
    calc plainLineEnds (header type ++ rest)
        = plainLineEnds ((threeQuotes ++ ['\n']) ++
            (type.toList ++ ((headerEnd ++ threeQuotes) ++ rest))) := by
          simp [header]
      _ = (threeQuotes ++ ['\n']) ++
            (plainLineEnds type.toList ++ ((headerEnd ++ threeQuotes) ++ plainLineEnds rest)) := by
          rw [plainLineEnds_append_of_not_mem (by decide)]
          congr 1
          rw [← plainLineEnds_append_of_not_mem hend]
          exact plainLineEnds_append_cons (by decide) _ _
      _ = '"' :: ('"' :: '"' :: (headerBody type ++ threeQuotes ++ plainLineEnds rest)) := by
          simp [headerBody, threeQuotes]
  unfold leadingText?
  rw [hplain]
  rfl

/-- The last line of the header closes it if the name of the type does not. -/
theorem untilQuotes?_header {type : String}
    (h : closesQuotes (plainLineEnds type.toList) = false) (rest : List Char) :
    untilQuotes? '"' (headerBody type ++ threeQuotes ++ rest) = some (headerBody type, rest) := by
  have hlast : untilQuotes? '"' ('\n' :: (threeQuotes ++ rest)) = some (['\n'], rest) := by
    have hopen : threeQuotes.isPrefixOf ('\n' :: (threeQuotes ++ rest)) = false := by
      simp [threeQuotes, List.isPrefixOf]
    have hclose : threeQuotes.isPrefixOf (threeQuotes ++ rest) = true := by
      simp [threeQuotes, List.isPrefixOf]
    rw [untilQuotes?_cons (by decide), hopen, if_neg (by simp),
      show threeQuotes ++ rest = '"' :: ('"' :: '"' :: rest) from rfl, untilQuotes?_cons (by decide)]
    rw [show '"' :: ('"' :: '"' :: rest) = threeQuotes ++ rest from rfl, hclose]
    rfl
  have hend : untilQuotes? '"' (headerEnd ++ (threeQuotes ++ rest)) = some (headerEnd, rest) := by
    have hopen : closesQuotes headerEnd.dropLast = false := by decide
    have happend := untilQuotes?_append_of_open hopen (c := '\n') (by decide) (by decide)
      (threeQuotes ++ rest)
    rw [hlast] at happend
    exact happend
  have hopen : threeQuotes.isPrefixOf (headerBody type ++ threeQuotes ++ rest) = false := by
    simp [threeQuotes, headerBody, List.isPrefixOf]
  have happend := untilQuotes?_append_of_open h (c := ' ') (by decide) (by decide)
    (headerEnd.tail ++ (threeQuotes ++ rest))
  rw [show ' ' :: (headerEnd.tail ++ (threeQuotes ++ rest)) = headerEnd ++ (threeQuotes ++ rest)
    from rfl, hend] at happend
  have hsame : plainLineEnds type.toList ++ headerEnd ++ threeQuotes ++ rest =
      plainLineEnds type.toList ++ (headerEnd ++ (threeQuotes ++ rest)) := by simp
  simp only [headerBody, List.cons_append] at hopen ⊢
  rw [untilQuotes?_cons (by decide), hopen, if_neg (by simp), hsame, happend]
  rfl

/-- The header is not closed by its last line if the name of the type closes it. -/
theorem length_lt_of_header {type : String} {rest body after : List Char}
    (h : closesQuotes (plainLineEnds type.toList) = true)
    (hread : untilQuotes? '"' (headerBody type ++ threeQuotes ++ rest) = some (body, after)) :
    rest.length < after.length := by
  have hcloses : closesQuotes ('\n' :: plainLineEnds type.toList) = true := by
    rw [closesQuotes.eq_3 _ _ (fun _ _ h _ => by simp at h), h, Bool.or_true]
  obtain ⟨body', after', hread', hlength⟩ :=
    exists_untilQuotes?_of_closes hcloses (headerEnd ++ threeQuotes ++ rest)
  obtain ⟨rfl, rfl⟩ : body' = body ∧ after' = after := by
    have hsame : '\n' :: plainLineEnds type.toList ++ (headerEnd ++ threeQuotes ++ rest) =
        headerBody type ++ threeQuotes ++ rest := by simp [headerBody]
    rw [hsame, hread] at hread'
    exact ⟨congrArg Prod.fst (Option.some.inj hread').symm,
      congrArg Prod.snd (Option.some.inj hread').symm⟩
  have htotal := congrArg List.length (eq_append_of_untilQuotes? hread)
  simp only [headerBody, List.length_append, List.length_cons] at htotal hlength
  omega

theorem isSome_decodeBody?_headerBody (type : String) :
    (decodeBody? false false (headerBody type)).isSome =
      (decodeBody? false false (plainLineEnds type.toList)).isSome := by
  have hlength := Nat.le_refl (plainLineEnds type.toList).length
  have happend : (unescape? false
      ((plainLineEnds type.toList).length + headerEnd.length)
      (plainLineEnds type.toList ++ ' ' :: headerEnd.tail)).isSome = _ :=
    isSome_unescape?_append (by decide) (by decide) headerEnd.length hlength
  simp only [decodeBody?, headerBody, List.length_cons, List.length_append, Bool.false_eq_true,
    if_false]
  rw [unescape?_cons (by decide), Option.isSome_map]
  exact happend

theorem unreadable?_header (type : String) :
    unreadable? (header type) = none ↔ unreadable? type.toList = none := by
  have hall : (threeQuotes ++ '\n' :: headerEnd).all
      (fun c => !holdsHalf c && c != '\x00') = true := by decide
  have hquotes : ∀ c ∈ threeQuotes ++ '\n' :: headerEnd, holdsHalf c = false ∧ c ≠ '\x00' := by
    intro c hc
    simpa using List.all_eq_true.mp hall c hc
  rw [unreadable?_eq_none_iff, unreadable?_eq_none_iff]
  constructor
  · intro h c hc
    exact h c (by simp [header, hc])
  · intro h c hc
    by_cases htype : c ∈ type.toList
    · exact h c htype
    · refine hquotes c ?_
      simp only [header, List.mem_append, List.mem_cons] at hc ⊢
      rcases hc with (hc | hc | hc | hc) | hc
      · exact Or.inl hc
      · exact Or.inr (Or.inl hc)
      · exact absurd hc htype
      · exact Or.inr (Or.inr hc)
      · exact Or.inl hc

/-- The header is sealed exactly if the name of the type is harmless. -/
theorem sealed_header_iff (type : String) (rest : List Char) :
    Sealed (header type) rest ↔ Harmless type.toList := by
  constructor
  · rintro ⟨hreadable, t, hleading, hdecode⟩
    rw [leadingText?_header, Option.map_eq_some_iff] at hleading
    obtain ⟨⟨body, after⟩, hread, ht⟩ := hleading
    obtain ⟨rfl, rfl⟩ := Prod.mk.inj ht
    have hopen : closesQuotes (plainLineEnds type.toList) = false := by
      by_contra hcloses
      exact Nat.lt_irrefl _ (length_lt_of_header (Bool.not_eq_false _ ▸ hcloses) hread)
    rw [untilQuotes?_header hopen] at hread
    obtain rfl : headerBody type = body := congrArg Prod.fst (Option.some.inj hread)
    exact ⟨(unreadable?_header type).mp hreadable, hopen,
      isSome_decodeBody?_headerBody type ▸ hdecode⟩
  · rintro ⟨hreadable, hopen, hescapes⟩
    refine ⟨(unreadable?_header type).mpr hreadable, { body := headerBody type }, ?_, ?_⟩
    · rw [leadingText?_header, untilQuotes?_header hopen]
      rfl
    · rw [isSome_decodeBody?_headerBody]
      exact hescapes

/-! ## Modules -/

/-- The code of a module after its header. -/
def codeAfterHeader (d : Definition) (data : Value) (computes filters : List (String × Entry))
    (exported : String) : List Char :=
  (lines ("" :: importLines ++ ["", "TYPE = " ++ quoted d.type, "VERSION = " ++ toString d.version,
    "CONTEXT = " ++ Value.optionText d.context, ""] ++ bodyLines data computes filters ++
      [exportLine exported, ""])).toList

theorem toList_lines_cons (l : String) {ls : List String} (h : ls ≠ []) :
    (lines (l :: ls)).toList = l.toList ++ '\n' :: (lines ls).toList := by
  simp only [lines, join, List.map_cons, String.toList_ofList]
  rw [joinWith_cons _ _ (by simpa using h)]
  simp

theorem toList_lines_header (type : String) {ls : List String} (h : ls ≠ []) :
    (lines (["\"\"\"", type ++ " definition module.", "Generated by nouns - DO NOT EDIT.",
      "\"\"\""] ++ ls)).toList = header type ++ '\n' :: (lines ls).toList := by
  have hquotes : "\"\"\"".toList = threeQuotes := rfl
  simp only [List.cons_append, List.nil_append]
  rw [toList_lines_cons _ (List.cons_ne_nil _ _), toList_lines_cons _ (List.cons_ne_nil _ _),
    toList_lines_cons _ (List.cons_ne_nil _ _), toList_lines_cons _ h, hquotes]
  unfold header headerEnd
  simp only [String.toList_append, List.append_assoc, List.cons_append, List.nil_append]

/-- A module is its header and the code after it. -/
theorem exists_eq_header_append {d : Definition} {exportName : Option String} {text : String}
    (h : (generate d exportName).result = .ok text) :
    ∃ data computes filters, metadata d = .ok data ∧
      (code d).result = .ok (computes, filters) ∧
      text.toList = header d.type ++ '\n' :: codeAfterHeader d data computes filters
        ((nonEmpty? exportName).getD d.type) := by
  obtain ⟨data, computes, filters, hdata, hcode, rfl⟩ := exists_eq_lines h
  refine ⟨data, computes, filters, hdata, hcode, ?_⟩
  rw [codeAfterHeader, ← toList_lines_header _ (by simp)]
  simp only [headLines, List.append_assoc, List.cons_append, List.nil_append]

/-- A module begins with its header.  The header is sealed before the code after it exactly if the
name of the type is harmless, and then the tokens of the module are the header and the tokens of the
code after it. -/
theorem header_sealed_iff {d : Definition} {exportName : Option String} {text : String}
    (h : (generate d exportName).result = .ok text) :
    ∃ data computes filters rest, metadata d = .ok data ∧
      (code d).result = .ok (computes, filters) ∧
      rest = '\n' :: codeAfterHeader d data computes filters
        ((nonEmpty? exportName).getD d.type) ∧
      text.toList = header d.type ++ rest ∧
      (Sealed (header d.type) rest ↔ Harmless d.type.toList) ∧
      (Harmless d.type.toList → ∃ fuel, tokensOf (plainLineEnds text.toList) =
        .text { body := headerBody d.type } ::
          tokensFrom fuel false [] [] (plainLineEnds rest)) := by
  obtain ⟨data, computes, filters, hdata, hcode, htext⟩ := exists_eq_header_append h
  refine ⟨data, computes, filters, _, hdata, hcode, rfl, htext, sealed_header_iff _ _, ?_⟩
  intro hharmless
  refine tokensOf_of_leadingText? ?_
  rw [htext, leadingText?_header, untilQuotes?_header hharmless.closesNot]
  rfl

/-! ### Types with quotes -/

/-- A definition without fields, and its module. -/
def moduleOf (type : String) : Except Failure (Definition × String) :=
  (Definition.read [("$type", .text type)]).result.bind fun d =>
    (generate d none).result.map fun text => (d, text)

theorem exists_of_moduleOf (type : String) (h : (moduleOf type).toBool = true) :
    ∃ d text, (Definition.read [("$type", .text type)]).result = .ok d ∧
      (generate d none).result = .ok text := by
  cases hmodule : moduleOf type with
  | error e => simp [hmodule, Except.toBool] at h
  | ok r =>
      obtain ⟨d, hread, hgenerate⟩ := bind_eq_ok.mp hmodule
      obtain ⟨text, htext, -⟩ := map_eq_ok.mp hgenerate
      exact ⟨d, text, hread, htext⟩

/-- Quotes and backslashes may stand in the name of a type as long as they end no literal and begin
no escape that cannot be read. -/
theorem header_sealed_iff_order : ∃ d text rest,
    (Definition.read [("$type", .text "Order \"EU\" \\d")]).result = .ok d ∧
    (generate d none).result = .ok text ∧ Harmless d.type.toList ∧
    text.toList = header d.type ++ rest ∧ Sealed (header d.type) rest := by
  obtain ⟨d, text, hread, htext⟩ := exists_of_moduleOf "Order \"EU\" \\d"
    (by decide +kernel)
  have htype : d.type = "Order \"EU\" \\d" := by
    have h : (Definition.read [("$type", .text "Order \"EU\" \\d")]).result.map Definition.type =
      .ok "Order \"EU\" \\d" := rfl
    rw [hread] at h
    exact Except.ok.inj h
  have hharmless : Harmless d.type.toList := by
    rw [htype]
    exact ⟨by decide, by decide, by decide⟩
  obtain ⟨data, computes, filters, rest, -, -, -, happend, hsealed, -⟩ := header_sealed_iff htext
  exact ⟨d, text, rest, hread, htext, hharmless, happend, hsealed.mpr hharmless⟩

/-- A type with three quotes in its name ends the header, and what follows them is code. -/
theorem header_broken_import : ∃ d text rest,
    (Definition.read [("$type", .text "T\"\"\"; import os; \"\"\"")]).result = .ok d ∧
    (generate d none).result = .ok text ∧ text.toList = header d.type ++ rest ∧
    ¬ Sealed (header d.type) rest ∧
    ∃ after, leadingText? text.toList =
      some ({ body := "\nT".toList }, "; import os; \"\"\" definition module.".toList ++ after) := by
  obtain ⟨d, text, hread, htext⟩ := exists_of_moduleOf "T\"\"\"; import os; \"\"\""
    (by decide +kernel)
  have htype : d.type = "T\"\"\"; import os; \"\"\"" := by
    have h : (Definition.read [("$type", .text "T\"\"\"; import os; \"\"\"")]).result.map
      Definition.type = .ok "T\"\"\"; import os; \"\"\"" := rfl
    rw [hread] at h
    exact Except.ok.inj h
  obtain ⟨data, computes, filters, -, -, happend⟩ := exists_eq_header_append htext
  refine ⟨d, text, _, hread, htext, happend, ?_, ?_⟩
  · rw [sealed_header_iff, htype]
    rintro ⟨-, hcloses, -⟩
    revert hcloses
    decide
  · rw [happend, leadingText?_header, htype]
    exact ⟨_, rfl⟩

end Module

end Entity
