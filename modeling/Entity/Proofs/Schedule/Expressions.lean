import Entity.Proofs.Outcome
import Entity.Proofs.Schedule.Items

/-!
# Cron expressions as sets

A cron expression whose items are written with decimal numbers stands for the moments whose five
parts lie in the sets of its fields.  Main statement: it matches exactly those moments, or it meets
a number with too many digits, warns of it and matches nothing.
-/

namespace Entity

open Entity.Text

/-! ## Parts of a moment -/

namespace Calendar

theorem yearAndRest_le (day : Nat) : (yearAndRest day).2 ≤ 365 := by
  simp only [yearAndRest]
  omega

theorem daysIn_le (year month : Nat) : daysIn year month ≤ 31 := by
  unfold daysIn
  split
  · split <;> decide
  · decide
  · decide
  · decide
  · decide
  · exact Nat.le_refl _

theorem le_total_daysIn (year : Nat) : 365 ≤ total ((List.range' 1 12).map (daysIn year)) := by
  simp only [List.range', List.map_cons, List.map_nil, total_cons, total_nil, daysIn]
  split <;> decide

theorem month_mem (year rest : Nat) (months : List Nat) :
    (monthAndRest year rest months).1 ∈ months ++ [12] := by
  induction months generalizing rest with
  | nil => exact List.mem_singleton.mpr rfl
  | cons month months ih =>
      rw [monthAndRest]
      split
      · exact List.mem_cons_self
      · exact List.mem_cons_of_mem _ (ih _)

/-- A day that is not long after the given months lies in one of them, or soon after. -/
theorem monthAndRest_lt (year rest : Nat) (months : List Nat)
    (h : rest < total (months.map (daysIn year)) + 31) :
    (monthAndRest year rest months).2 < 31 := by
  induction months generalizing rest with
  | nil => simpa [monthAndRest] using h
  | cons month months ih =>
      have hlong := daysIn_le year month
      rw [List.map_cons, total_cons] at h
      rw [monthAndRest]
      split
      · rename_i hin
        exact hin.trans_le hlong
      · exact ih _ (by omega)

end Calendar

namespace Date

open Calendar

theorem month_of_parts (d : Date) : 1 ≤ d.parts.2.1 ∧ d.parts.2.1 ≤ 12 := by
  have hmonth := month_mem (yearAndRest d.day).1 (yearAndRest d.day).2 (List.range' 1 12)
  have hall : ∀ month ∈ List.range' 1 12 ++ [12], 1 ≤ month ∧ month ≤ 12 := by decide
  exact hall _ hmonth

theorem day_of_parts (d : Date) : 1 ≤ d.parts.2.2 ∧ d.parts.2.2 ≤ 31 := by
  have hrest := yearAndRest_le d.day
  have htotal := le_total_daysIn (yearAndRest d.day).1
  have hday := monthAndRest_lt (yearAndRest d.day).1 (yearAndRest d.day).2 (List.range' 1 12)
    (by omega)
  exact ⟨Nat.le_add_left _ _, hday⟩

end Date

namespace Cron

/-- Each part of a moment is one of the values that its field goes over. -/
theorem components_mem (m : Moment) :
    ∀ c ∈ components m, c.2.2 ∈ Set.Icc c.1 c.2.1 := by
  have hmonth := m.date.month_of_parts
  have hday := m.date.day_of_parts
  have hminute : m.minuteOfHour < 60 := Nat.mod_lt _ (by decide)
  have hhour : m.hourOfDay < 24 := Nat.mod_lt _ (by decide)
  have hweekday : m.date.weekday < 7 := Nat.mod_lt _ (by decide)
  rcases hparts : m.date.parts with ⟨year, month, day⟩
  simp only [hparts] at hmonth hday
  simp only [components, hparts, List.forall_mem_cons, Set.mem_Icc, List.not_mem_nil,
    false_imp_iff, implies_true, and_true]
  omega

/-! ## Fields -/

/-- The items of a field with commas between them. -/
def fieldText (items : List Item) : List Char := joinWith [','] (items.map Item.text)

/-- The values that one of the items stands for. -/
def fieldValues (least greatest : ℤ) (items : List Item) : Set ℤ :=
  {value | ∃ item ∈ items, value ∈ item.values least greatest}

/-- There is an item, and all items are written with decimal numbers. -/
structure DecimalItems (items : List Item) : Prop where
  ne_nil : items ≠ []
  decimal : ∀ item ∈ items, item.Decimal

instance (items : List Item) : Decidable (DecimalItems items) :=
  decidable_of_iff (items ≠ [] ∧ ∀ item ∈ items, item.Decimal)
    ⟨fun h => ⟨h.1, h.2⟩, fun h => ⟨h.ne_nil, h.decimal⟩⟩

/-- Some number of the items is too long. -/
def OverlongItems (items : List Item) : Prop := ∃ item ∈ items, ∃ n ∈ item.numbers, Overlong n

section Field

variable {items : List Item} {least greatest value : ℤ}

theorem mem_fieldValues_every (hvalue : value ∈ Set.Icc least greatest) :
    value ∈ fieldValues least greatest [.every] :=
  ⟨.every, List.mem_singleton.mpr rfl, hvalue, Set.mem_univ value⟩

/-- The items of a field are read from its text. -/
theorem itemsOf_fieldText (h : DecimalItems items) : itemsOf (fieldText items) = items := by
  obtain ⟨item, items, rfl⟩ := List.exists_cons_of_ne_nil h.ne_nil
  have hcomma : ∀ text ∈ item.text :: items.map Item.text, ',' ∉ text := by
    intro text htext
    rw [← List.map_cons, List.mem_map] at htext
    obtain ⟨item, hitem, rfl⟩ := htext
    exact (h.decimal item hitem).comma_not_mem
  have hread : ∀ item' ∈ item :: items, (Item.ofText ∘ Item.text) item' = id item' :=
    fun item' hitem => Item.ofText_text (h.decimal item' hitem)
  rw [itemsOf, fieldText, List.map_cons, splitAt_joinWith List.not_mem_nil hcomma]
  simp only [List.nil_append, List.map_id']
  rw [← List.map_cons, List.map_map, List.map_congr_left hread, List.map_id]

theorem fieldText_ne_nil (h : DecimalItems items) : fieldText items ≠ [] := by
  obtain ⟨item, items, rfl⟩ := List.exists_cons_of_ne_nil h.ne_nil
  exact (prefix_joinWith _ _ _).ne_nil (h.decimal item (by simp)).text_ne_nil

/-- No blank stands in a field. -/
theorem not_blank_fieldText (h : DecimalItems items) :
    ∀ c ∈ fieldText items, isBlank c = false := by
  intro c hc
  by_contra hb
  refine not_mem_joinWith ?_ ?_ hc
  · intro hcomma
    rw [List.mem_singleton.mp hcomma] at hb
    exact hb (by decide)
  · intro text htext hmem
    obtain ⟨item, hitem, rfl⟩ := List.mem_map.mp htext
    exact hb ((h.decimal item hitem).not_blank c hmem)

theorem decides_matchesAny? (h : ∀ item ∈ items, item.Decimal)
    (hvalue : value ∈ Set.Icc least greatest) :
    Decides (value ∈ fieldValues least greatest items) (OverlongItems items)
      (matchesAny? least greatest value items) := by
  induction items with
  | nil => exact decides_some (iff_of_false Bool.false_ne_true fun ⟨_, hmem, _⟩ => by cases hmem)
  | cons item items ih =>
      have hhere := Item.decides_matches? (h item (by simp)) hvalue
      have hlater := ih fun item hitem => h item (by simp [hitem])
      refine (hhere.congr Iff.rfl fun hlong => ⟨item, by simp, hlong⟩).bind fun b hb => ?_
      cases b with
      | true => exact decides_some (iff_of_true rfl ⟨item, by simp, hb.mp rfl⟩)
      | false =>
          have hnot : value ∉ item.values least greatest := fun h => Bool.false_ne_true (hb.mpr h)
          refine hlater.congr ?_ ?_
          · simp [fieldValues, hnot]
          · rintro ⟨other, hother, hlong⟩
            exact ⟨other, by simp [hother], hlong⟩

end Field

/-- The fields that a run of parts lies in. -/
theorem decides_matchesAll? {fields : List (List Item)} {parts : List (ℤ × ℤ × ℤ)}
    (hlength : fields.length = parts.length) (h : ∀ items ∈ fields, DecimalItems items)
    (hparts : ∀ c ∈ parts, c.2.2 ∈ Set.Icc c.1 c.2.1) :
    Decides (List.Forall₂ (fun items c => c.2.2 ∈ fieldValues c.1 c.2.1 items) fields parts)
      (∃ items ∈ fields, OverlongItems items)
      (matchesAll? (fields.map fieldText) parts) := by
  induction fields generalizing parts with
  | nil =>
      obtain rfl : parts = [] := List.length_eq_zero_iff.mp hlength.symm
      exact decides_some (iff_of_true rfl List.Forall₂.nil)
  | cons items fields ih =>
      obtain ⟨⟨least, greatest, value⟩, parts, rfl⟩ :=
        List.exists_cons_of_length_eq_add_one hlength.symm
      have hitems := h items (by simp)
      have hhere := decides_matchesAny? hitems.decimal (hparts _ List.mem_cons_self)
      have hlater := ih (Nat.succ.inj hlength) (fun items hmem => h items (by simp [hmem]))
        fun c hc => hparts c (List.mem_cons_of_mem _ hc)
      rw [List.map_cons, matchesAll?, fieldMatches?, itemsOf_fieldText hitems]
      refine (hhere.congr Iff.rfl fun hlong => ⟨items, by simp, hlong⟩).bind fun b hb => ?_
      rw [List.forall₂_cons]
      cases b with
      | true =>
          refine hlater.congr (and_iff_right (hb.mp rfl)).symm ?_
          rintro ⟨other, hother, hlong⟩
          exact ⟨other, by simp [hother], hlong⟩
      | false =>
          exact decides_some (iff_of_false Bool.false_ne_true fun hboth =>
            Bool.false_ne_true (hb.mpr hboth.1))

/-! ## Expressions -/

/-- The items of the five fields of an expression. -/
structure Fields where
  minute : List Item
  hour : List Item
  day : List Item
  month : List Item
  weekday : List Item

namespace Fields

/-- The fields in the order in which they are written. -/
def all (fields : Fields) : List (List Item) :=
  [fields.minute, fields.hour, fields.day, fields.month, fields.weekday]

/-- The expression is written with blanks between the five fields, and each field with decimal
numbers. -/
structure Writes (fields : Fields) (expression : String) : Prop where
  words : words expression.toList = fields.all.map fieldText
  decimal : ∀ items ∈ fields.all, DecimalItems items

/-- The fields with blanks between them. -/
def expression (fields : Fields) : String :=
  String.ofList (joinWith [' '] (fields.all.map fieldText))

/-- Each part of the moment is in the set of its field. -/
structure Covers (fields : Fields) (m : Moment) : Prop where
  minute : (m.minuteOfHour : ℤ) ∈ fieldValues 0 59 fields.minute
  hour : (m.hourOfDay : ℤ) ∈ fieldValues 0 23 fields.hour
  day : (m.date.parts.2.2 : ℤ) ∈ fieldValues 1 31 fields.day
  month : (m.date.parts.2.1 : ℤ) ∈ fieldValues 1 12 fields.month
  weekday : (m.date.weekday : ℤ) ∈ fieldValues 0 6 fields.weekday

variable {fields : Fields} {expression : String}

/-- Decimal fields are written by an expression. -/
theorem writes_expression (h : ∀ items ∈ fields.all, DecimalItems items) :
    fields.Writes fields.expression := by
  refine ⟨?_, h⟩
  rw [Fields.expression, String.toList_ofList]
  refine words_joinWith ?_ ?_
  · rintro text htext
    obtain ⟨items, hitems, rfl⟩ := List.mem_map.mp htext
    exact fieldText_ne_nil (h items hitems)
  · rintro text htext
    obtain ⟨items, hitems, rfl⟩ := List.mem_map.mp htext
    exact not_blank_fieldText (h items hitems)

theorem covers_iff (m : Moment) :
    fields.Covers m ↔
      List.Forall₂ (fun items c => c.2.2 ∈ fieldValues c.1 c.2.1 items) fields.all
        (components m) := by
  simp only [all, components, List.forall₂_cons, List.forall₂_nil_left_iff, and_true]
  exact ⟨fun h => ⟨h.minute, h.hour, h.day, h.month, h.weekday⟩,
    fun ⟨hminute, hhour, hday, hmonth, hweekday⟩ => ⟨hminute, hhour, hday, hmonth, hweekday⟩⟩

theorem isMatch_eq (h : fields.Writes expression) (m : Moment) :
    isMatch expression m =
      match matchesAll? (fields.all.map fieldText) (components m) with
      | some b => Outcome.ok b
      | none => ⟨.ok false, [.cronField expression]⟩ := by
  rw [isMatch, h.words, if_neg (not_not.mpr (by rfl))]
  cases matchesAll? (fields.all.map fieldText) (components m) <;> rfl

/-- **An expression matches the moments that its fields cover**, and nothing is logged, or one of
its numbers is too long, which is logged, and it does not match. -/
theorem isMatch_iff_covers (h : fields.Writes expression) (m : Moment) :
    (∃ b, isMatch expression m = Outcome.ok b ∧ (b = true ↔ fields.Covers m)) ∨
      (∃ items ∈ fields.all, OverlongItems items) ∧
        isMatch expression m = ⟨.ok false, [.cronField expression]⟩ := by
  have hall := decides_matchesAll? (by rfl : fields.all.length = (components m).length) h.decimal
    (components_mem m)
  rw [← covers_iff] at hall
  rw [isMatch_eq h]
  cases hanswer : matchesAll? (fields.all.map fieldText) (components m) with
  | some b =>
      rw [hanswer] at hall
      exact Or.inl ⟨b, rfl, hall⟩
  | none =>
      rw [hanswer] at hall
      exact Or.inr ⟨hall, rfl⟩

/-- Every twentieth minute and those from seven to nine, at every third hour from eight to
seventeen, on every tenth day, in every month and on the days from Monday to Friday. -/
def workdays : Fields where
  minute := [.everyStep ['2', '0'], .range ['7'] ['9']]
  hour := [.rangeStep ['\u0668'] ['1', '7'] ['3']]
  day := [.fromStep ['0', '1'] ['1', '0']]
  month := [.exactly ['6'], .every]
  weekday := [.range ['1'] ['5']]

/-- Twenty minutes to twelve on the first of January 2024, a Monday. -/
def monday : Moment := .ofParts ⟨738885⟩ 11 40 17 0

/-- Digits of two scripts, and blanks of several kinds between the fields. -/
theorem isMatch_iff_covers_workdays :
    workdays.Writes " */20,7-9  \u0668-17/3\t01/10 6,*\u30001-5\n" ∧
    isMatch " */20,7-9  \u0668-17/3\t01/10 6,*\u30001-5\n" monday = Outcome.ok true ∧
    workdays.Covers monday := by
  have hwrites : workdays.Writes " */20,7-9  \u0668-17/3\t01/10 6,*\u30001-5\n" :=
    ⟨by decide +kernel, by decide +kernel⟩
  have hanswer : matchesAll? (workdays.all.map fieldText) (components monday) = some true := by
    decide +kernel
  have hmatch := isMatch_eq hwrites monday
  rw [hanswer] at hmatch
  refine ⟨hwrites, hmatch, ?_⟩
  rcases isMatch_iff_covers hwrites monday with ⟨b, hb, hiff⟩ | ⟨-, hwarned⟩
  · rw [hmatch] at hb
    cases hb
    exact hiff.mp rfl
  · rw [hmatch] at hwarned
    cases hwarned

/-- The minutes from the first one up to a number of `n` nines. -/
def nines (n : Nat) : Item := .range ['0'] (List.replicate n '9')

/-- Every minute, with an upper end that is far away. -/
def endless (n : Nat) : Fields where
  minute := [nines n]
  hour := [.every]
  day := [.every]
  month := [.every]
  weekday := [.every]

section Endless

variable {n : Nat}

theorem decimalItems_nines (h : 0 < n) : DecimalItems [nines n] := by
  refine ⟨List.cons_ne_nil _ _, fun item hitem => ?_⟩
  obtain rfl := List.mem_singleton.mp hitem
  refine ⟨Item.noConfusion, fun digits hdigits => ?_⟩
  rcases List.mem_cons.mp hdigits with rfl | hdigits
  · decide
  · obtain rfl := List.mem_singleton.mp hdigits
    exact Numeral.decimalDigits_replicate h

theorem writes_endless (h : 0 < n) : (endless n).Writes (endless n).expression := by
  have hevery : DecimalItems [.every] := by decide
  refine writes_expression ?_
  simp [all, endless, decimalItems_nines h, hevery]

/-- No number is before the first minute, however many nines it is written with. -/
theorem covers_endless (n : Nat) : (endless n).Covers ⟨0⟩ := by
  have hminute : (0 : ℤ) ∈ fieldValues 0 59 [nines n] :=
    ⟨_, List.mem_cons_self, ⟨le_rfl, by decide⟩, by decide, Int.natCast_nonneg _⟩
  exact ⟨hminute, mem_fieldValues_every (by decide +kernel),
    mem_fieldValues_every (by decide +kernel), mem_fieldValues_every (by decide +kernel),
    mem_fieldValues_every (by decide +kernel)⟩

/-- At the first minute the upper end is looked at, and it cannot be read. -/
theorem isMatch_endless (h : Numeral.digitLimit < n) :
    isMatch (endless n).expression ⟨0⟩ =
      ⟨.ok false, [.cronField (endless n).expression]⟩ := by
  have hpos : 0 < n := Nat.zero_lt_of_lt h
  have hlow : Numeral.int? ['0'] = some 0 := by rfl
  have hhigh : Numeral.int? (List.replicate n '9') = none := by
    rw [(Numeral.decimalDigits_replicate hpos).int?_eq, List.length_replicate, if_pos h]
  have hitem : (nines n).matches? 0 59 0 = none := by
    rw [nines, Item.matches?, inRange?, hlow]
    change (Numeral.int? (List.replicate n '9')).bind _ = none
    rw [hhigh]
    rfl
  have hanswer : matchesAll? ((endless n).all.map fieldText) (components ⟨0⟩) = none := by
    change (fieldMatches? (fieldText [nines n]) 0 59 0).bind _ = none
    rw [fieldMatches?, itemsOf_fieldText (decimalItems_nines hpos), matchesAny?, hitem]
    rfl
  rw [isMatch_eq (writes_endless hpos), hanswer]

end Endless

/-- With 4301 nines the first moment of all is covered, but it does not match. -/
theorem isMatch_unread_nines :
    (endless 4301).Writes (endless 4301).expression ∧ (endless 4301).Covers ⟨0⟩ ∧
      isMatch (endless 4301).expression ⟨0⟩ =
        ⟨.ok false, [.cronField (endless 4301).expression]⟩ :=
  ⟨writes_endless (by decide), covers_endless 4301, isMatch_endless (by decide)⟩

end Fields

end Cron

end Entity
