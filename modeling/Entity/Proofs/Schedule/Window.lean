import Entity.Schedule.Cron
import Entity.Proofs.Outcome
import Mathlib.Data.Nat.Find
import Mathlib.Order.MinMax
import Mathlib.Tactic.Set

/-!
# Windows of cron expressions

An expression is due when it matches at a whole minute of the window that goes from the last run up
to now.  Main statements: what a walk over whole minutes finds, the windows of successive ticks
share no minute and leave none out, and both together for the answers along a run of ticks.
-/

namespace Entity

/-! ## Whole minutes -/

namespace Moment

variable {a b : Moment}

/-- Nothing of the moment is left beside its minutes. -/
def IsWholeMinute (m : Moment) : Prop := m.floorMinute = m

/-- The moment is at least two days away from both ends of the calendar. -/
structure Inland (m : Moment) : Prop where
  start : 2 * day ≤ m.micros
  stop : m.micros + 2 * day ≤ limit

theorem micros_floorMinute (m : Moment) : m.floorMinute.micros = m.micros / minute * minute := rfl

theorem floorMinute_le (m : Moment) : m.floorMinute.micros ≤ m.micros := Nat.div_mul_le_self _ _

theorem lt_floorMinute_add (m : Moment) : m.micros < m.floorMinute.micros + minute :=
  Nat.lt_div_mul_add (by decide)

theorem floorMinute_mono (h : a.micros ≤ b.micros) : a.floorMinute.micros ≤ b.floorMinute.micros :=
  Nat.mul_le_mul_right _ (Nat.div_le_div_right h)

theorem dvd_floorMinute (m : Moment) : minute ∣ m.floorMinute.micros := Nat.dvd_mul_left _ _

theorem isWholeMinute_iff_dvd {m : Moment} : m.IsWholeMinute ↔ minute ∣ m.micros := by
  constructor
  · intro h
    rw [← h]
    exact dvd_floorMinute m
  · intro h
    obtain ⟨n⟩ := m
    exact congrArg Moment.mk (Nat.div_mul_cancel h)

theorem isWholeMinute_floorMinute (m : Moment) : m.floorMinute.IsWholeMinute :=
  isWholeMinute_iff_dvd.mpr (dvd_floorMinute m)

/-- A length of whole minutes stays what it is when both ends lose their seconds. -/
theorem floorMinute_le_add {length : Nat} (hlength : minute ∣ length)
    (h : b.micros ≤ a.micros + length) :
    b.floorMinute.micros ≤ a.floorMinute.micros + length := by
  obtain ⟨k, rfl⟩ := hlength
  calc b.micros / minute * minute
      ≤ (a.micros + minute * k) / minute * minute :=
        Nat.mul_le_mul_right _ (Nat.div_le_div_right h)
    _ = a.micros / minute * minute + minute * k := by
        rw [Nat.add_mul_div_left _ _ (by decide), Nat.add_mul, Nat.mul_comm k]

/-- The minute after one that is away from the ends of the calendar is still in it. -/
theorem Inland.lt_limit {m : Moment} (h : m.Inland) : m.floorMinute.micros + minute < limit :=
  calc m.floorMinute.micros + minute
      ≤ m.micros + minute := Nat.add_le_add_right (floorMinute_le m) _
    _ < m.micros + 2 * day := Nat.add_lt_add_left (by decide) _
    _ ≤ limit := h.stop

end Moment

namespace Cron

open Moment

variable {expression : String} {last now m : Moment}

/-! ## Walks -/

/-- The expression matches at the moment. -/
def Matches (expression : String) (m : Moment) : Prop := (isMatch expression m).result = .ok true

/-- Whether an expression matches is always answered; one that cannot be read matches never. -/
theorem exists_result_isMatch (expression : String) (m : Moment) :
    ∃ b, (isMatch expression m).result = .ok b := by
  unfold isMatch
  dsimp only
  split
  · exact ⟨false, rfl⟩
  · split
    · exact ⟨_, rfl⟩
    · exact ⟨false, rfl⟩

/-- A walk over whole minutes finds whether the expression matches at one of them. -/
theorem exists_result_anyMatch (expression : String) (count : Nat) (m : Moment) :
    ∃ b, (anyMatch expression count m).result = .ok b ∧
      (b = true ↔ ∃ k < count, Matches expression ⟨m.micros + k * minute⟩) := by
  induction count generalizing m with
  | zero => exact ⟨false, rfl, by simp⟩
  | succ count ih =>
      obtain ⟨here, hhere⟩ := exists_result_isMatch expression m
      unfold anyMatch
      cases here with
      | true =>
          refine ⟨true, by simp [hhere, Except.bind], iff_of_true rfl ⟨0, by omega, ?_⟩⟩
          simpa [Matches] using hhere
      | false =>
          obtain ⟨b, hb, hiff⟩ := ih ⟨m.micros + minute⟩
          refine ⟨b, by simp [hhere, hb, Except.bind], hiff.trans ?_⟩
          -- the walk goes on one minute later, and this minute does not match
          constructor
          · rintro ⟨k, hk, hmatch⟩
            refine ⟨k + 1, by omega, ?_⟩
            rwa [Nat.add_mul, Nat.one_mul, Nat.add_comm (k * minute), ← Nat.add_assoc]
          · rintro ⟨k, hk, hmatch⟩
            cases k with
            | zero =>
                rw [Nat.zero_mul, Nat.add_zero, Matches, hhere] at hmatch
                cases hmatch
            | succ k =>
                refine ⟨k, by omega, ?_⟩
                rwa [Nat.add_mul, Nat.one_mul, Nat.add_comm (k * minute), ← Nat.add_assoc] at hmatch

/-- From one whole minute up to another the walk takes a step for each whole minute. -/
theorem exists_lt_minutesBetween {start stop : Moment} (hstart : minute ∣ start.micros)
    (hstop : minute ∣ stop.micros) (P : Moment → Prop) :
    (∃ k < minutesBetween start stop, P ⟨start.micros + k * minute⟩) ↔
      ∃ m : Moment, m.IsWholeMinute ∧ start.micros ≤ m.micros ∧ m.micros ≤ stop.micros ∧ P m := by
  obtain ⟨⟨a⟩, ⟨b⟩⟩ := start, stop
  obtain ⟨a, rfl⟩ := hstart
  obtain ⟨b, rfl⟩ := hstop
  have hcount : minutesBetween ⟨minute * a⟩ ⟨minute * b⟩ = b + 1 - a := by
    have hlength : minute * b + minute - minute * a = minute * (b + 1 - a) := by
      rw [Nat.mul_sub, Nat.mul_add, Nat.mul_one]
    exact (congrArg (· / minute) hlength).trans (Nat.mul_div_cancel_left _ (by decide))
  rw [hcount]
  constructor
  · rintro ⟨k, hk, hP⟩
    have hsum : minute * a + k * minute = minute * (a + k) := by
      rw [Nat.mul_add, Nat.mul_comm k]
    refine ⟨_, isWholeMinute_iff_dvd.mpr ⟨a + k, hsum⟩, Nat.le_add_right _ _, ?_, hP⟩
    exact hsum ▸ Nat.mul_le_mul_left minute (by omega : a + k ≤ b)
  · rintro ⟨⟨n⟩, hwhole, hfrom, hto, hP⟩
    obtain ⟨c, rfl⟩ := isWholeMinute_iff_dvd.mp hwhole
    have hac : a ≤ c := Nat.le_of_mul_le_mul_left hfrom (by decide)
    have hcb : c ≤ b := Nat.le_of_mul_le_mul_left hto (by decide)
    refine ⟨c - a, by omega, ?_⟩
    have hsum : minute * a + (c - a) * minute = minute * c := by
      rw [Nat.mul_comm (c - a), ← Nat.mul_add, Nat.add_sub_cancel' hac]
    exact hsum ▸ hP

/-! ## Windows -/

/-- The window of a last run looks at the moment: a whole minute after the last run, not after now
and not longer ago than the lookback. -/
structure InWindow (last now m : Moment) : Prop where
  whole : m.IsWholeMinute
  after : last.floorMinute.micros < m.micros
  until_now : m.micros ≤ now.floorMinute.micros
  recent : now.floorMinute.micros - lookback ≤ m.micros

/-- A lookback from a moment that is away from the ends of the calendar stays in it. -/
theorem lookback_le_of_inland (h : now.Inland) : lookback ≤ now.floorMinute.micros := by
  have hroom : lookback + minute ≤ 2 * day := by decide
  have hlong : lookback + minute ≤ now.floorMinute.micros + minute :=
    (hroom.trans h.start).trans (lt_floorMinute_add now).le
  exact Nat.le_of_add_le_add_right hlong

theorem minute_dvd_lookback : minute ∣ lookback := by decide

/-- The first minute of a window: the one after the last run, or where the lookback begins. -/
def opening (last now : Moment) : Moment :=
  ⟨max (last.floorMinute.micros + minute) (now.floorMinute.micros - lookback)⟩

theorem dvd_opening (last now : Moment) : minute ∣ (opening last now).micros := by
  have hnext : minute ∣ last.floorMinute.micros + minute :=
    Nat.dvd_add (dvd_floorMinute last) (Nat.dvd_refl _)
  have hback : minute ∣ now.floorMinute.micros - lookback :=
    Nat.dvd_sub (dvd_floorMinute now) minute_dvd_lookback
  exact max_rec' (minute ∣ ·) hnext hback

/-- A window holds the whole minutes from its opening up to now. -/
theorem inWindow_iff : InWindow last now m ↔ m.IsWholeMinute ∧
    (opening last now).micros ≤ m.micros ∧ m.micros ≤ now.floorMinute.micros := by
  constructor
  · rintro ⟨hwhole, hafter, huntil, hrecent⟩
    refine ⟨hwhole, max_le ?_ hrecent, huntil⟩
    -- two whole minutes that differ are a minute apart
    obtain ⟨a, ha⟩ := dvd_floorMinute last
    obtain ⟨c, hc⟩ := isWholeMinute_iff_dvd.mp hwhole
    rw [ha, hc] at hafter ⊢
    have hac : a + 1 ≤ c := Nat.lt_of_mul_lt_mul_left hafter
    exact Nat.mul_le_mul_left _ hac
  · rintro ⟨hwhole, hfrom, huntil⟩
    obtain ⟨hnext, hrecent⟩ := max_le_iff.mp hfrom
    have hpos : 0 < minute := by decide
    exact ⟨hwhole, by omega, huntil, hrecent⟩

/-- Away from the ends of the calendar no step of the walk leaves it. -/
theorem result_isDue (expression : String) (hlast : last.Inland) (hnow : now.Inland) :
    (isDue expression (some last) now).result =
      (anyMatch expression (minutesBetween (opening last now) now.floorMinute)
        (opening last now)).result := by
  have hroom : ¬limit ≤ now.floorMinute.micros + minute := Nat.not_le.mpr hnow.lt_limit
  have hinside : ¬(limit ≤ last.floorMinute.micros + minute ∨
      now.floorMinute.micros < lookback) := by
    rintro (h | h)
    · exact absurd hlast.lt_limit (Nat.not_lt.mpr h)
    · exact absurd (lookback_le_of_inland hnow) (Nat.not_le.mpr h)
  unfold isDue
  simp only [hinside, hroom, and_false, if_false]
  rw [Outcome.result_bind]
  change Except.bind (anyMatch expression (minutesBetween (opening last now) now.floorMinute)
    (opening last now)).result _ = _
  obtain ⟨b, hb, -⟩ := exists_result_anyMatch expression
    (minutesBetween (opening last now) now.floorMinute) (opening last now)
  rw [hb]
  cases b <;> rfl

/-- Away from the ends of the calendar it is always answered whether an expression is due: it is if
it matches at a minute of the window. -/
theorem exists_result_isDue (expression : String) (hlast : last.Inland) (hnow : now.Inland) :
    ∃ b, (isDue expression (some last) now).result = .ok b ∧
      (b = true ↔ ∃ m, InWindow last now m ∧ Matches expression m) := by
  rw [result_isDue expression hlast hnow]
  obtain ⟨b, hb, hiff⟩ := exists_result_anyMatch expression
    (minutesBetween (opening last now) now.floorMinute) (opening last now)
  refine ⟨b, hb, hiff.trans ?_⟩
  rw [exists_lt_minutesBetween (dvd_opening last now) (dvd_floorMinute now)]
  simp only [inWindow_iff, and_assoc]

/-! ## Runs of ticks -/

/-- The first `n` steps of a run of ticks go forward, and none is longer than the lookback. -/
structure Steady (ticks : Nat → Moment) (n : Nat) : Prop where
  forward : ∀ i < n, (ticks i).micros ≤ (ticks (i + 1)).micros
  close : ∀ i < n, (ticks (i + 1)).micros ≤ (ticks i).micros + lookback

variable {ticks : Nat → Moment} {n i j : Nat}

theorem Steady.floorMinute_mono (h : Steady ticks n) (hij : i ≤ j) (hj : j ≤ n) :
    (ticks i).floorMinute.micros ≤ (ticks j).floorMinute.micros := by
  induction j, hij using Nat.le_induction with
  | base => exact Nat.le_refl _
  | succ j hij ih =>
      exact (ih (by omega)).trans (Moment.floorMinute_mono (h.forward j (by omega)))

/-- With ticks at most a lookback apart, a window reaches back to the tick before. -/
theorem Steady.inWindow (h : Steady ticks n) (hi : i < n) (hwhole : m.IsWholeMinute)
    (hafter : (ticks i).floorMinute.micros < m.micros)
    (huntil : m.micros ≤ (ticks (i + 1)).floorMinute.micros) :
    InWindow (ticks i) (ticks (i + 1)) m := by
  refine ⟨hwhole, hafter, huntil, ?_⟩
  have hreach := floorMinute_le_add minute_dvd_lookback (h.close i hi)
  omega

/-- No minute between the first tick and the last is left out. -/
theorem Steady.exists_inWindow (h : Steady ticks n) (hwhole : m.IsWholeMinute)
    (hafter : (ticks 0).floorMinute.micros < m.micros)
    (huntil : m.micros ≤ (ticks n).floorMinute.micros) :
    ∃ i < n, InWindow (ticks i) (ticks (i + 1)) m := by
  -- the first tick whose minute is not before the moment ends the window
  have hexists : ∃ k, m.micros ≤ (ticks k).floorMinute.micros := ⟨n, huntil⟩
  have hfirst : Nat.find hexists ≤ n := Nat.find_min' hexists huntil
  have hspec := Nat.find_spec hexists
  have hmin : ∀ k < Nat.find hexists, ¬m.micros ≤ (ticks k).floorMinute.micros :=
    fun k hk => Nat.find_min hexists hk
  cases hk : Nat.find hexists with
  | zero =>
      rw [hk] at hspec
      omega
  | succ k =>
      rw [hk] at hspec hfirst hmin
      have hbefore := hmin k (by omega)
      exact ⟨k, by omega, h.inWindow (by omega) hwhole (by omega) hspec⟩

/-- Two windows of a run of ticks have no minute in common. -/
theorem Steady.eq_of_inWindow (h : Steady ticks n) (hi : i < n) (hj : j < n)
    (hmi : InWindow (ticks i) (ticks (i + 1)) m) (hmj : InWindow (ticks j) (ticks (j + 1)) m) :
    i = j := by
  have hiu := hmi.until_now
  have hju := hmj.until_now
  have hia := hmi.after
  have hja := hmj.after
  rcases Nat.lt_trichotomy i j with hij | hij | hij
  · have := h.floorMinute_mono (show i + 1 ≤ j by omega) (by omega)
    omega
  · exact hij
  · have := h.floorMinute_mono (show j + 1 ≤ i by omega) (by omega)
    omega

/-- Cron windows neither lose nor repeat a minute.  Away from the ends of the calendar it is
answered whether an expression is due, and it is due exactly if it matches at a minute of its
window.  Along ticks that are at most a lookback apart, each minute at which the expression matches
lies in exactly one window, and the windows that hold such a minute are those that are due. -/
theorem isDue_windows (expression : String) :
    (∀ last now : Moment, last.Inland → now.Inland →
      ∃ b, (isDue expression (some last) now).result = .ok b ∧
        (b = true ↔ ∃ m, InWindow last now m ∧ Matches expression m)) ∧
    ∀ (ticks : Nat → Moment) (n : Nat), (∀ i ≤ n, (ticks i).Inland) → Steady ticks n →
      (∀ m : Moment, m.IsWholeMinute → (ticks 0).floorMinute.micros < m.micros →
        m.micros ≤ (ticks n).floorMinute.micros → Matches expression m →
        ∃! i, i < n ∧ InWindow (ticks i) (ticks (i + 1)) m) ∧
      ∀ i < n, ∃ b, (isDue expression (some (ticks i)) (ticks (i + 1))).result = .ok b ∧
        (b = true ↔ ∃ m, InWindow (ticks i) (ticks (i + 1)) m ∧ Matches expression m) := by
  refine ⟨fun last now hlast hnow => exists_result_isDue expression hlast hnow,
    fun ticks n hinland hsteady => ⟨?_, ?_⟩⟩
  · intro m hwhole hafter huntil _
    obtain ⟨i, hi, hm⟩ := hsteady.exists_inWindow hwhole hafter huntil
    exact ⟨i, ⟨hi, hm⟩, fun j hj => hsteady.eq_of_inWindow hj.1 hi hj.2 hm⟩
  · intro i hi
    exact exists_result_isDue expression (hinland i (by omega)) (hinland (i + 1) (by omega))

/-- Forty seconds apart, from half a minute before nine o'clock on. -/
def nineTicks (i : Nat) : Moment :=
  ⟨700000 * day + 9 * hour - 30 * second + i * (40 * second)⟩

/-- Of four ticks around nine o'clock, one is due, though two others fall into the same minute. -/
theorem isDue_windows_nine :
    (∃! i, i < 3 ∧ InWindow (nineTicks i) (nineTicks (i + 1)) ⟨700000 * day + 9 * hour⟩) ∧
      (isDue "0 9 * * *" (some (nineTicks 0)) (nineTicks 1)).result = .ok true := by
  have hinland : ∀ i ≤ 3, (nineTicks i).Inland := fun i hi =>
    ⟨(by decide : ∀ i ≤ 3, 2 * day ≤ (nineTicks i).micros) i hi,
      (by decide : ∀ i ≤ 3, (nineTicks i).micros + 2 * day ≤ limit) i hi⟩
  have hsteady : Steady nineTicks 3 :=
    ⟨by decide, by decide⟩
  have hmatch : Matches "0 9 * * *" ⟨700000 * day + 9 * hour⟩ := by rfl
  obtain ⟨hwindows, hruns⟩ := isDue_windows "0 9 * * *"
  obtain ⟨honce, hdue⟩ := hruns nineTicks 3 hinland hsteady
  refine ⟨honce _ (by rfl) (by decide) (by decide) hmatch, ?_⟩
  obtain ⟨b, hb, hiff⟩ := hdue 0 (by decide)
  rw [hb, hiff.mpr ⟨_, ⟨by rfl, by decide, by decide, by decide⟩, hmatch⟩]

end Cron

end Entity
