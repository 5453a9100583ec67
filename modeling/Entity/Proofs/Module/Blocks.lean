import Entity.Proofs.Module.Routes
import Entity.Proofs.Text.Ends
import Entity.Proofs.Text.Names
import Mathlib.Data.List.Nodup

/-!
# Functions before the tables

A field whose code is a named function has an entry that names this function, and the function
stands before the tables under that name.  The name is made of the word characters of the field's
name, so that different fields can get the same one, and different names can be ways to write the
same one.  Main statement: the functions have different names, and every entry names the function of
its own field only, exactly when the fields of a table that need functions get names that differ in
their normal forms.
-/

namespace Entity.Module

open Entity.Text

/-! ## Heads of functions -/

/-- The text of a function after the word that makes it wait for others, if it begins with it. -/
def afterAsync (cs : List Char) : List Char := (afterStart? "async ".toList cs).getD cs

/-- The word in the head of a function. -/
def headWord? (cs : List Char) : Option (List Char) :=
  (afterStart? "def ".toList (afterAsync cs)).map (List.takeWhile Formula.mayContinueName)

/-- The name that a word is, in its normal form. -/
def nameOfWord? (word : List Char) : Option String :=
  if Formula.isName word then some (String.ofList (normal word)) else none

/-- The name under which a function is found. -/
def blockName? (block : String) : Option String := (headWord? block.toList).bind nameOfWord?

/-- The code is no named function, or its head has the name as it is read, between blanks and a
bracket. -/
def NamedPlainly (code : String) : Prop :=
  Formula.isFunctionSource (codeText code) = true →
    ∀ name, Formula.functionName? (codeText code) = .ok (some name) →
      (afterHead? name.toList none (afterAsync (codeText code))).isSome

theorem mayContinueName_of_isWord {c : Char} (h : isWord c = true) :
    Formula.mayContinueName c = true := by
  unfold isWord at h
  unfold Formula.mayContinueName Formula.mayBeginName
  split at h
  · simp only [Char.isAlphanum, Bool.or_eq_true, beq_iff_eq] at h ⊢
    tauto
  · rename_i hc
    have hle : 128 ≤ c.toNat := by
      have hlt : ¬ c.toNat < 128 := hc
      omega
    simp [hle]

theorem headWord?_def {new : List Char} (hword : ∀ c ∈ new, isWord c = true) (rest : List Char) :
    headWord? ("def ".toList ++ new ++ '(' :: rest) = some new := by
  have hasync : afterAsync ("def ".toList ++ new ++ '(' :: rest) =
      "def ".toList ++ new ++ '(' :: rest := rfl
  have hname : ∀ c ∈ new, Formula.mayContinueName c = true := fun c hc =>
    mayContinueName_of_isWord (hword c hc)
  rw [headWord?, hasync, List.append_assoc, afterStart?_append, Option.map_some,
    List.takeWhile_append_of_pos hname, List.takeWhile_cons_of_neg (by decide), List.append_nil]

/-- A character that begins no head stays before what is renamed. -/
theorem renameFunction_cons {c : Char} (hc : c ≠ 'd') (name new : List Char) (before : Option Char)
    (cs : List Char) :
    renameFunction name new before (c :: cs) = c :: renameFunction name new (some c) cs := by
  have hnone : afterHead? name before (c :: cs) = none := by
    unfold afterHead?
    split
    · rfl
    · rw [show "def".toList = ['d', 'e', 'f'] from rfl, afterStart?, if_neg (Ne.symm hc)]
      rfl
  rw [renameFunction, hnone]

theorem renameFunction_of_afterHead? {name : List Char} {before : Option Char} {cs rest : List Char}
    (h : afterHead? name before cs = some rest) (new : List Char) :
    renameFunction name new before cs = "def ".toList ++ new ++ '(' :: rest := by
  cases cs with
  | nil =>
      unfold afterHead? at h
      split at h <;> cases h
  | cons c cs => rw [renameFunction, h]

/-- A new name at the head of a function is the word in its head. -/
theorem headWord?_renameFunction {name new cs : List Char} (hword : ∀ c ∈ new, isWord c = true)
    (h : (afterHead? name none (afterAsync cs)).isSome) :
    headWord? (renameFunction name new none cs) = some new := by
  obtain ⟨rest, hrest⟩ := Option.isSome_iff_exists.mp h
  unfold afterAsync at hrest
  cases hasync : afterStart? "async ".toList cs with
  | none =>
      rw [hasync, Option.getD_none] at hrest
      rw [renameFunction_of_afterHead? hrest, headWord?_def hword]
  | some ds =>
      rw [hasync, Option.getD_some] at hrest
      -- no head begins in the word before, and the blank after it separates as the start does
      have hblank : afterHead? name (some ' ') ds = some rest := hrest
      have hrenamed : renameFunction name new none cs =
          "async ".toList ++ ("def ".toList ++ new ++ '(' :: rest) := by
        rw [afterStart?_eq_some hasync, ← renameFunction_of_afterHead? hblank]
        simp only [show "async ".toList = ['a', 's', 'y', 'n', 'c', ' '] from rfl, List.cons_append,
          List.nil_append]
        iterate 6 rw [renameFunction_cons (by decide)]
      have hdef : afterAsync (renameFunction name new none cs) =
          "def ".toList ++ new ++ '(' :: rest := by
        rw [hrenamed, afterAsync, afterStart?_append, Option.getD_some]
      have hhead := headWord?_def hword rest
      rw [headWord?] at hhead ⊢
      rw [hdef]
      exact hhead

/-! ## Names of functions -/

theorem isWord_functionName (table : EntryTable) (field : String) :
    ∀ c ∈ (table.functionName field).toList, isWord c = true := by
  have hstart : ∀ c ∈ (table.start ++ "_").toList, isWord c = true := by
    have hall : (table.start ++ "_").toList.all isWord = true := by cases table <;> decide
    exact List.all_eq_true.mp hall
  intro c hc
  rw [EntryTable.functionName, String.toList_append, List.mem_append, String.toList_ofList] at hc
  rcases hc with hc | hc
  · exact hstart c hc
  · obtain ⟨d, -, rfl⟩ := List.mem_map.mp hc
    split
    · assumption
    · decide

/-- Names of functions of different tables differ, in whatever way they are written. -/
theorem normalName_functionName_ne (field field' : String) :
    normalName (EntryTable.compute.functionName field) ≠
      normalName (EntryTable.filter.functionName field') := by
  have hascii : ∀ start ∈ ["_compute", "_filter"], ∀ c ∈ start.toList, c.toNat < 128 := by
    have hall : ∀ start ∈ ["_compute", "_filter"],
        start.toList.all (fun c => decide (c.toNat < 128)) = true := by decide
    intro start hstart c hc
    simpa using List.all_eq_true.mp (hall start hstart) c hc
  obtain ⟨rest, hrest⟩ := exists_normal_append "_compute".toList (hascii _ (by simp)) (c := '_')
    (by decide) (wordCharacters field.toList)
  obtain ⟨rest', hrest'⟩ := exists_normal_append "_filter".toList (hascii _ (by simp)) (c := '_')
    (by decide) (wordCharacters field'.toList)
  have hcompute : (EntryTable.compute.functionName field).toList =
      "_compute".toList ++ '_' :: wordCharacters field.toList := by
    simp [EntryTable.functionName, EntryTable.start]
  have hfilter : (EntryTable.filter.functionName field').toList =
      "_filter".toList ++ '_' :: wordCharacters field'.toList := by
    simp [EntryTable.functionName, EntryTable.start]
  rw [normalName, normalName, hcompute, hfilter, hrest, hrest', ne_eq, String.ofList_inj]
  simp

/-! ## Functions of entries -/

/-- The entry needs no function, or it is the name of one that is its field's own. -/
def Entry.NamesOwn (table : EntryTable) (field : String) (e : Entry) : Prop :=
  e.functions = [] ∨ e.text = table.functionName field ∧
    ∃ b, e.functions = [b] ∧ headWord? b.toList = some (table.functionName field).toList

/-- An entry for code whose head is plain names its own function, if it needs one. -/
theorem Entry.Route.namesOwn {table : EntryTable} {field : String} {code : Option String}
    {e : Entry} (h : e.Route table field code) (hplain : ∀ c, code = some c → NamedPlainly c) :
    e.NamesOwn table field := by
  cases h with
  | missing | unreadable | unnamed | lambda | formula => exact .inl rfl
  | function hsource _ _ hname =>
      refine .inr ⟨rfl, _, rfl, ?_⟩
      rw [String.toList_ofList]
      exact headWord?_renameFunction (isWord_functionName table field)
        (hplain _ rfl hsource _ hname)

/-- The codes of the compute functions and of the links that select by a function. -/
def codes (d : Definition) : List String :=
  (d.functions.filterMap fun f => match f.2 with
    | .computation c => c.text?
    | .generation _ => none) ++
  d.cascades.filterMap fun c => c.2.selector.bind Computation.text?

theorem namesOwn_of_code {d : Definition} {computes filters : List (String × Entry)}
    (h : (code d).result = .ok (computes, filters)) (hplain : ∀ c ∈ codes d, NamedPlainly c) :
    (∀ r ∈ computes, r.2.NamesOwn .compute r.1) ∧ ∀ r ∈ filters, r.2.NamesOwn .filter r.1 := by
  rw [code, Outcome.result_bind, bind_eq_ok] at h
  obtain ⟨computes', hcomputes, h⟩ := h
  rw [Outcome.result_bind, bind_eq_ok] at h
  obtain ⟨filters', hfilters, h⟩ := h
  cases h
  constructor
  · intro r hr
    obtain ⟨c, hc, hroute⟩ := exists_of_mem_computeEntries hcomputes r hr
    refine hroute.namesOwn fun s hs => hplain s ?_
    exact List.mem_append_left _ (List.mem_filterMap.mpr ⟨_, hc, hs⟩)
  · intro r hr
    obtain ⟨c, hc, ⟨f, hselector, hroute⟩ | ⟨-, condition, -, hr⟩⟩ :=
      exists_of_mem_filterEntries hfilters r hr
    · refine hroute.namesOwn fun s hs => hplain s ?_
      refine List.mem_append_right _ (List.mem_filterMap.mpr ⟨_, hc, ?_⟩)
      rw [hselector]
      exact hs
    · rw [hr]
      exact .inl rfl

/-! ## Functions before the tables -/

/-- The functions before the tables. -/
def blocks (entries : List (String × Entry)) : List String :=
  entries.flatMap fun r => r.2.functions

theorem functionLines_eq (entries : List (String × Entry)) :
    functionLines entries = (blocks entries).flatMap fun b => [b, "", ""] :=
  List.flatMap_assoc.symm

/-- Every function has a name, the names are different, and an entry that needs a function names
this one and no other. -/
structure BlocksOwn (entries : List (String × Entry)) : Prop where
  named : ∀ b ∈ blocks entries, (blockName? b).isSome
  distinct : ((blocks entries).map blockName?).Nodup
  own : ∀ r ∈ entries, r.2.functions ≠ [] → ∃ b, r.2.functions = [b] ∧
    (blocks entries).filter (fun b' => blockName? b' = some (normalName r.2.text)) = [b]

/-- The names that the fields that need functions get. -/
def blockWords (table : EntryTable) (entries : List (String × Entry)) : List String :=
  (entries.filter fun r => !r.2.functions.isEmpty).map fun r => table.functionName r.1

/-- What the fields that need functions get are names, and those of one table differ. -/
structure NamesApart (computes filters : List (String × Entry)) : Prop where
  names : ∀ w ∈ blockWords .compute computes ++ blockWords .filter filters,
    Formula.isName w.toList = true
  computes : ((blockWords .compute computes).map normalName).Nodup
  filters : ((blockWords .filter filters).map normalName).Nodup

theorem blocks_append (entries entries' : List (String × Entry)) :
    blocks (entries ++ entries') = blocks entries ++ blocks entries' :=
  List.flatMap_append

/-- Functions have the names of their fields. -/
theorem map_blockName?_blocks {table : EntryTable} {entries : List (String × Entry)}
    (h : ∀ r ∈ entries, r.2.NamesOwn table r.1) : (blocks entries).map blockName? =
      (blockWords table entries).map fun w => nameOfWord? w.toList := by
  induction entries with
  | nil => rfl
  | cons r entries ih =>
      have hrest := ih fun r' hr' => h r' (List.mem_cons_of_mem r hr')
      rw [blocks] at hrest ⊢
      rw [List.flatMap_cons, List.map_append, hrest, blockWords, blockWords]
      rcases h r List.mem_cons_self with hnone | ⟨-, b, hb, hhead⟩
      · rw [hnone, List.filter_cons_of_neg (by simp [hnone])]
        rfl
      · rw [hb, List.filter_cons_of_pos (by simp [hb]), List.map_cons, List.map_cons, List.map_cons,
          blockName?, hhead]
        rfl

theorem nameOfWord?_of_isName {w : String} (h : Formula.isName w.toList = true) :
    nameOfWord? w.toList = some (normalName w) := if_pos h

theorem isSome_nameOfWord? {w : List Char} :
    (nameOfWord? w).isSome = true ↔ Formula.isName w = true := by
  unfold nameOfWord?
  split <;> simp [*]

/-- A function with a name has the normal form of the word in its head as its name. -/
theorem blockName?_eq_some {b w : String} (hhead : headWord? b.toList = some w.toList)
    (h : (blockName? b).isSome) : blockName? b = some (normalName w) := by
  rw [blockName?, hhead, Option.bind_some] at h ⊢
  exact nameOfWord?_of_isName (isSome_nameOfWord?.mp h)

/-- Of things with different marks, only one has the mark that it has. -/
theorem filter_eq_singleton {α β : Type} [DecidableEq β] {f : α → β} {as : List α}
    (h : (as.map f).Nodup) {a : α} (ha : a ∈ as) : as.filter (fun a' => f a' = f a) = [a] := by
  induction as with
  | nil => cases ha
  | cons b as ih =>
      obtain ⟨hb, hrest⟩ := List.nodup_cons.mp h
      rcases List.mem_cons.mp ha with rfl | ha
      · rw [List.filter_cons_of_pos (by simp), List.filter_eq_nil_iff.mpr]
        intro a' ha' heq
        exact hb (List.mem_map.mpr ⟨a', ha', by simpa using heq⟩)
      · have hne : f b ≠ f a := fun heq => hb (List.mem_map.mpr ⟨a, ha, heq.symm⟩)
        rw [List.filter_cons_of_neg (by simpa using hne), ih hrest ha]

section Tables

variable {computes filters : List (String × Entry)}

theorem blockName?_blocks_eq (hcomputes : ∀ r ∈ computes, r.2.NamesOwn .compute r.1)
    (hfilters : ∀ r ∈ filters, r.2.NamesOwn .filter r.1) :
    (blocks (computes ++ filters)).map blockName? =
      (blockWords .compute computes ++ blockWords .filter filters).map
        fun w => nameOfWord? w.toList := by
  rw [blocks_append, List.map_append, map_blockName?_blocks hcomputes,
    map_blockName?_blocks hfilters, List.map_append]

theorem exists_of_mem_blockWords {table : EntryTable} {entries : List (String × Entry)} {w : String}
    (h : w ∈ blockWords table entries) : ∃ field, w = table.functionName field := by
  obtain ⟨r, -, rfl⟩ := List.mem_map.mp h
  exact ⟨r.1, rfl⟩

/-- Names are different if those of each table are. -/
theorem nodup_blockWords_iff :
    ((blockWords .compute computes ++ blockWords .filter filters).map normalName).Nodup ↔
      ((blockWords .compute computes).map normalName).Nodup ∧
        ((blockWords .filter filters).map normalName).Nodup := by
  rw [List.map_append, List.nodup_append']
  refine and_congr_right fun _ => and_iff_left ?_
  intro n hcompute hfilter
  obtain ⟨w, hw, rfl⟩ := List.mem_map.mp hcompute
  obtain ⟨w', hw', heq⟩ := List.mem_map.mp hfilter
  obtain ⟨field, rfl⟩ := exists_of_mem_blockWords hw
  obtain ⟨field', rfl⟩ := exists_of_mem_blockWords hw'
  exact normalName_functionName_ne field field' heq.symm

/-- Functions are their fields' own exactly if the names of the fields are apart. -/
theorem blocksOwn_iff (hcomputes : ∀ r ∈ computes, r.2.NamesOwn .compute r.1)
    (hfilters : ∀ r ∈ filters, r.2.NamesOwn .filter r.1) :
    BlocksOwn (computes ++ filters) ↔ NamesApart computes filters := by
  have hnames := blockName?_blocks_eq hcomputes hfilters
  have hplain : (∀ w ∈ blockWords .compute computes ++ blockWords .filter filters,
      Formula.isName w.toList = true) → (blocks (computes ++ filters)).map blockName? =
        ((blockWords .compute computes ++ blockWords .filter filters).map normalName).map some := by
    intro hw
    rw [hnames, List.map_map]
    exact List.map_congr_left fun w hmem => nameOfWord?_of_isName (hw w hmem)
  constructor
  · rintro ⟨hnamed, hdistinct, -⟩
    have hw : ∀ w ∈ blockWords .compute computes ++ blockWords .filter filters,
        Formula.isName w.toList = true := by
      intro w hmem
      have hblock := List.mem_map_of_mem (f := fun w : String => nameOfWord? w.toList) hmem
      rw [← hnames] at hblock
      obtain ⟨b, hb, heq⟩ := List.mem_map.mp hblock
      exact isSome_nameOfWord?.mp (heq ▸ hnamed b hb)
    rw [hplain hw] at hdistinct
    have hnodup := nodup_blockWords_iff.mp hdistinct.of_map
    exact ⟨hw, hnodup.1, hnodup.2⟩
  · rintro ⟨hw, hcompute, hfilter⟩
    have hdistinct : ((blocks (computes ++ filters)).map blockName?).Nodup := by
      rw [hplain hw]
      exact (nodup_blockWords_iff.mpr ⟨hcompute, hfilter⟩).map fun _ _ => Option.some.inj
    have hnamed : ∀ b ∈ blocks (computes ++ filters), (blockName? b).isSome := by
      intro b hb
      have hmem := List.mem_map_of_mem (f := blockName?) hb
      rw [hplain hw] at hmem
      obtain ⟨n, -, hn⟩ := List.mem_map.mp hmem
      rw [← hn]
      rfl
    refine ⟨hnamed, hdistinct, fun r hr hfunctions => ?_⟩
    have hown : ∃ table : EntryTable, r.2.NamesOwn table r.1 := by
      rcases List.mem_append.mp hr with hr | hr
      · exact ⟨_, hcomputes r hr⟩
      · exact ⟨_, hfilters r hr⟩
    obtain ⟨table, hnone | ⟨htext, b, hb, hhead⟩⟩ := hown
    · exact absurd hnone hfunctions
    · have hmem : b ∈ blocks (computes ++ filters) :=
        List.mem_flatMap.mpr ⟨r, hr, by simp [hb]⟩
      have hname := blockName?_eq_some hhead (hnamed b hmem)
      rw [← htext] at hname
      refine ⟨b, hb, ?_⟩
      rw [← hname]
      exact filter_eq_singleton hdistinct hmem

end Tables

/-! ## Modules -/

/-- The functions before the tables have different names, and every entry names that of its own
field, exactly if the names that the fields get are apart; a module has these functions and no
others before its tables. -/
theorem blocks_own_iff {d : Definition} {computes filters : List (String × Entry)}
    (h : (code d).result = .ok (computes, filters)) (hplain : ∀ c ∈ codes d, NamedPlainly c) :
    (BlocksOwn (computes ++ filters) ↔ NamesApart computes filters) ∧
      ∀ exportName text, (generate d exportName).result = .ok text → ∃ front back,
        text = lines (front ++ (blocks (computes ++ filters)).flatMap (fun b => [b, "", ""]) ++
          table "COMPUTE_FUNCTIONS" computes ++ [""] ++ table "LINK_FILTERS" filters ++ back) := by
  obtain ⟨hcomputes, hfilters⟩ := namesOwn_of_code h hplain
  refine ⟨blocksOwn_iff hcomputes hfilters, fun exportName text htext => ?_⟩
  obtain ⟨data, computes', filters', -, hcode, rfl⟩ := exists_eq_lines htext
  rw [h] at hcode
  cases hcode
  refine ⟨headLines d ++ ["META: dict[str, Any] = " ++ String.ofList (data.layout ⟨0, 0⟩), "", "",
    lookupCode, "", ""], ["", "", entryCode, "", "",
      exportLine ((nonEmpty? exportName).getD d.type), ""], ?_⟩
  simp only [bodyLines, functionLines_eq, List.append_assoc, List.cons_append, List.nil_append]

/-! ### Fields with functions -/

theorem namedPlainly_of_toOption {c : String} (name : String)
    (hname : (Formula.functionName? (codeText c)).toOption = some (some name))
    (hhead : (afterHead? name.toList none (afterAsync (codeText c))).isSome = true) :
    NamedPlainly c := by
  intro _ name' h
  rw [eq_ok_of_toOption hname] at h
  cases h
  exact hhead

namespace Invoice

/-- The items of an invoice that are open. -/
def items : Cascade where
  operator := .outgoing
  target := "Item"
  selector := some (.code "async def f(item):\n    return item.open")

/-- A computation and a selection whose functions have the same name. -/
def definition : Definition where
  raw := [("$type", .text "Invoice"),
    ("total", .map [("$compute", .text "def f(r):\n    return r.net")]),
    ("items", .map [("$link", .text "-> Item"),
      ("where", .text "async def f(item):\n    return item.open")])]
  type := "Invoice"
  id := none
  version := 1
  context := none
  parent := none
  seed := .null
  enrichments := []
  fields := [
    ("total", {
      name := "total"
      description := "def f(r):\n    return r.net"
      source := .compute
      compute := some (.code "def f(r):\n    return r.net") }),
    ("items", { name := "items", description := "Item", source := .link, cascade := some items })]
  cascades := [("items", items)]
  events := []
  schedules := []
  crons := []
  migrations := []

/-- The rows of the tables of a module, with the functions before them. -/
def tables : List (String × Entry) × List (String × Entry) :=
  ([("total", {
      text := "_compute_total"
      functions := ["def _compute_total(r):\n    return r.net"] })],
    [("items", {
      text := "_filter_items"
      functions := ["async def _filter_items(item):\n    return item.open"] })])

theorem namedPlainly_codes : ∀ c ∈ codes definition, NamedPlainly c := by
  have hcodes : codes definition =
      ["def f(r):\n    return r.net", "async def f(item):\n    return item.open"] := rfl
  rw [hcodes, List.forall_mem_cons, List.forall_mem_singleton]
  exact ⟨namedPlainly_of_toOption "f" (by decide +kernel) (by decide +kernel),
    namedPlainly_of_toOption "f" (by decide +kernel) (by decide +kernel)⟩

end Invoice

/-- The general statement for a computation and a selection whose functions have one name. -/
theorem blocks_own_iff_invoice : (Definition.read Invoice.definition.raw).result =
    .ok Invoice.definition ∧ (code Invoice.definition).result = .ok Invoice.tables ∧
    (∀ c ∈ codes Invoice.definition, NamedPlainly c) ∧
    NamesApart Invoice.tables.1 Invoice.tables.2 ∧
    BlocksOwn (Invoice.tables.1 ++ Invoice.tables.2) := by
  have hcode : (code Invoice.definition).result = .ok Invoice.tables :=
    eq_ok_of_toOption (by decide +kernel)
  have hapart : NamesApart Invoice.tables.1 Invoice.tables.2 :=
    ⟨by decide, by decide, by decide⟩
  exact ⟨rfl, hcode, Invoice.namedPlainly_codes, hapart,
    (blocks_own_iff hcode Invoice.namedPlainly_codes).1.mpr hapart⟩

/-! ### Fields with functions of one name -/

namespace Ledger

/-- Two computations of fields whose names have the same word characters. -/
def definition : Definition where
  raw := [("$type", .text "Ledger"),
    ("net-sum", .map [("$compute", .text "def f(r):\n    return 1")]),
    ("net_sum", .map [("$compute", .text "def f(r):\n    return 2")])]
  type := "Ledger"
  id := none
  version := 1
  context := none
  parent := none
  seed := .null
  enrichments := []
  fields := [
    ("net-sum", {
      name := "net-sum"
      description := "def f(r):\n    return 1"
      source := .compute
      compute := some (.code "def f(r):\n    return 1") }),
    ("net_sum", {
      name := "net_sum"
      description := "def f(r):\n    return 2"
      source := .compute
      compute := some (.code "def f(r):\n    return 2") })]
  cascades := []
  events := []
  schedules := []
  crons := []
  migrations := []

/-- The rows of the compute functions, with the functions before them. -/
def computes : List (String × Entry) :=
  [("net-sum", {
      text := "_compute_net_sum"
      functions := ["def _compute_net_sum(r):\n    return 1"] }),
    ("net_sum", {
      text := "_compute_net_sum"
      functions := ["def _compute_net_sum(r):\n    return 2"] })]

end Ledger

/-- The functions of two fields have one name, and the entries of both fields are this name. -/
theorem blocks_clash_ledger : (Definition.read Ledger.definition.raw).result =
    .ok Ledger.definition ∧ (code Ledger.definition).result = .ok (Ledger.computes, []) ∧
    (blocks Ledger.computes).map blockName? = [some "_compute_net_sum", some "_compute_net_sum"] ∧
    ¬ BlocksOwn Ledger.computes := by
  have hcode : (code Ledger.definition).result = .ok (Ledger.computes, []) :=
    eq_ok_of_toOption (by decide +kernel)
  have hnames : (blocks Ledger.computes).map blockName? =
      [some "_compute_net_sum", some "_compute_net_sum"] := by decide +kernel
  refine ⟨rfl, hcode, hnames, fun h => ?_⟩
  have hdistinct := h.distinct
  rw [hnames] at hdistinct
  exact absurd hdistinct (by simp)

end Entity.Module
