import DaemonGroup.Lib.Run
import Mathlib.Tactic.Common

/-!
# DaemonGroup.Eag.Clock

The clock of the daemon (`eag_time.c`), which is made of readings of the system clock. When the system clock
is set back, or on by more than ten seconds, the clock of the daemon goes on to the next full second.

* `clock_follows_iff` — it never goes back; and it shows how long the daemon has been running exactly if the
  system clock is never set.
-/

namespace DaemonGroup
namespace Eag

open Lib

def MAX_SECONDS_UPGREADE_PER_CALL : Int := 10
def TIMER_SECOND_MICRO : Int := 1000000

/-- `struct timeval` -/
structure Timeval where
  tv_sec : Int
  tv_usec : Int
deriving DecidableEq, Repr

namespace Timeval

/-- The first loop of `timeval_adjust`. -/
def carry (a : Timeval) : Timeval :=
  if TIMER_SECOND_MICRO ≤ a.tv_usec then carry ⟨a.tv_sec + 1, a.tv_usec - TIMER_SECOND_MICRO⟩ else a
termination_by a.tv_usec.toNat
decreasing_by
  simp only [TIMER_SECOND_MICRO] at *
  omega

/-- The second loop. -/
def borrow (a : Timeval) : Timeval :=
  if a.tv_usec < 0 then borrow ⟨a.tv_sec - 1, a.tv_usec + TIMER_SECOND_MICRO⟩ else a
termination_by (-a.tv_usec).toNat
decreasing_by
  simp only [TIMER_SECOND_MICRO] at *
  omega

/-- `timeval_adjust` -/
def adjust (a : Timeval) : Timeval :=
  let a := borrow (carry a)
  if a.tv_sec < 0 then ⟨0, 0⟩ else a

/-- `timeval_subtract` -/
def subtract (a b : Timeval) : Timeval := adjust ⟨a.tv_sec - b.tv_sec, a.tv_usec - b.tv_usec⟩

/-- `timeval_cmp` -/
def cmp (a b : Timeval) : Int := if a.tv_sec = b.tv_sec then a.tv_usec - b.tv_usec else a.tv_sec - b.tv_sec

/-- The time in microseconds. -/
def micros (a : Timeval) : Int := a.tv_sec * TIMER_SECOND_MICRO + a.tv_usec

/-- A time as `gettimeofday` gives it. -/
structure Regular (a : Timeval) : Prop where
  sec : 0 ≤ a.tv_sec
  usec : 0 ≤ a.tv_usec
  usec_lt : a.tv_usec < TIMER_SECOND_MICRO

instance (a : Timeval) : Decidable a.Regular :=
  decidable_of_iff (0 ≤ a.tv_sec ∧ 0 ≤ a.tv_usec ∧ a.tv_usec < TIMER_SECOND_MICRO)
    ⟨fun h => ⟨h.1, h.2.1, h.2.2⟩, fun h => ⟨h.sec, h.usec, h.usec_lt⟩⟩

end Timeval

/-- `eag_time` and `tv_prev`. -/
structure Clock where
  eag_time : Timeval
  tv_prev : Timeval
deriving DecidableEq, Repr

namespace Clock

/-- `eag_time_init` -/
def init (tv_now : Timeval) : Clock := ⟨tv_now, tv_now⟩

/-- `eag_time_gettimeofday`, when the system clock shows `tv_now`. The time is `eag_time`. -/
def gettimeofday (c : Clock) (tv_now : Timeval) : Clock :=
  if tv_now.cmp c.tv_prev < 0 then ⟨⟨c.eag_time.tv_sec + 1, 0⟩, tv_now⟩
  else
    let diff := tv_now.subtract c.tv_prev
    if diff.tv_sec > MAX_SECONDS_UPGREADE_PER_CALL then
      ⟨Timeval.adjust ⟨c.eag_time.tv_sec + 1, 0⟩, tv_now⟩
    else
      ⟨Timeval.adjust ⟨c.eag_time.tv_sec + diff.tv_sec, c.eag_time.tv_usec + diff.tv_usec⟩, tv_now⟩

end Clock

/-! ## Times -/

namespace Timeval

variable {a b : Timeval}

theorem carry_of_lt (h : a.tv_usec < TIMER_SECOND_MICRO) : a.carry = a := by
  rw [carry, if_neg (by omega)]

theorem borrow_of_nonneg (h : 0 ≤ a.tv_usec) : a.borrow = a := by
  rw [borrow, if_neg (by omega)]

/-- The first loop keeps the time, and stops below a second. -/
theorem carry_spec (h : 0 ≤ a.tv_usec) : a.carry.micros = a.micros ∧ 0 ≤ a.carry.tv_usec ∧
    a.carry.tv_usec < TIMER_SECOND_MICRO := by
  fun_induction carry a with
  | case1 a hge ih =>
    obtain ⟨hm, hrest⟩ := ih (by simp only [TIMER_SECOND_MICRO] at *; omega)
    refine ⟨hm.trans ?_, hrest⟩
    simp only [micros, TIMER_SECOND_MICRO]
    omega
  | case2 a hlt => exact ⟨rfl, h, by omega⟩

/-- The second loop keeps the time, and stops at a fraction of a second. -/
theorem borrow_spec (h : a.tv_usec < TIMER_SECOND_MICRO) : a.borrow.micros = a.micros ∧
    0 ≤ a.borrow.tv_usec ∧ a.borrow.tv_usec < TIMER_SECOND_MICRO := by
  fun_induction borrow a with
  | case1 a hneg ih =>
    obtain ⟨hm, hrest⟩ := ih (by simp only [TIMER_SECOND_MICRO] at *; omega)
    refine ⟨hm.trans ?_, hrest⟩
    simp only [micros, TIMER_SECOND_MICRO]
    omega
  | case2 a hpos => exact ⟨rfl, by omega, h⟩

/-- A time that is not negative is only written another way. -/
theorem adjust_spec (h : 0 ≤ a.micros) : a.adjust.micros = a.micros ∧ a.adjust.Regular := by
  have hloops : a.carry.borrow.micros = a.micros ∧ 0 ≤ a.carry.borrow.tv_usec ∧
      a.carry.borrow.tv_usec < TIMER_SECOND_MICRO := by
    by_cases hneg : 0 ≤ a.tv_usec
    · obtain ⟨hm, hpos, hlt⟩ := carry_spec hneg
      rw [borrow_of_nonneg hpos]
      exact ⟨hm, hpos, hlt⟩
    · have hlt : a.tv_usec < TIMER_SECOND_MICRO := by
        simp only [TIMER_SECOND_MICRO]
        omega
      rw [carry_of_lt hlt]
      exact borrow_spec hlt
  obtain ⟨hm, hpos, hlt⟩ := hloops
  have hsec : 0 ≤ a.carry.borrow.tv_sec := by
    simp only [micros, TIMER_SECOND_MICRO] at *
    omega
  rw [adjust, if_neg (by omega)]
  exact ⟨hm, hsec, hpos, hlt⟩

theorem adjust_regular (h : a.Regular) : a.adjust = a := by
  obtain ⟨hsec, hpos, hlt⟩ := h
  rw [adjust, carry_of_lt hlt, borrow_of_nonneg hpos, if_neg (by omega)]

/-- The sum of two times. -/
theorem adjust_add (ha : 0 ≤ a.micros) (hb : 0 ≤ b.micros) :
    (adjust ⟨a.tv_sec + b.tv_sec, a.tv_usec + b.tv_usec⟩).micros = a.micros + b.micros ∧
      (adjust ⟨a.tv_sec + b.tv_sec, a.tv_usec + b.tv_usec⟩).Regular := by
  have hm : micros ⟨a.tv_sec + b.tv_sec, a.tv_usec + b.tv_usec⟩ = a.micros + b.micros := by
    simp only [micros, TIMER_SECOND_MICRO]
    omega
  rw [← hm]
  exact adjust_spec (by omega)

theorem subtract_spec (h : b.micros ≤ a.micros) :
    (a.subtract b).micros = a.micros - b.micros ∧ (a.subtract b).Regular := by
  have hm : micros ⟨a.tv_sec - b.tv_sec, a.tv_usec - b.tv_usec⟩ = a.micros - b.micros := by
    simp only [micros, TIMER_SECOND_MICRO]
    omega
  rw [← hm]
  exact adjust_spec (by omega)

theorem Regular.nonneg (h : a.Regular) : 0 ≤ a.micros := by
  obtain ⟨hsec, hpos, -⟩ := h
  simp only [micros, TIMER_SECOND_MICRO]
  omega

theorem cmp_neg (ha : a.Regular) (hb : b.Regular) : a.cmp b < 0 ↔ a.micros < b.micros := by
  obtain ⟨-, ha, ha'⟩ := ha
  obtain ⟨-, hb, hb'⟩ := hb
  simp only [cmp, micros, TIMER_SECOND_MICRO] at *
  split <;> omega

end Timeval

/-! ## Readings -/

namespace Clock

/-- The system clock was not set since the last reading. -/
def Steady (c : Clock) (tv_now : Timeval) : Prop :=
  c.tv_prev.micros ≤ tv_now.micros ∧
    tv_now.micros - c.tv_prev.micros < (MAX_SECONDS_UPGREADE_PER_CALL + 1) * TIMER_SECOND_MICRO

instance (c : Clock) (tv_now : Timeval) : Decidable (c.Steady tv_now) := inferInstanceAs (Decidable (_ ∧ _))

/-- Both times are written as they should be. -/
structure Sound (c : Clock) : Prop where
  eag_time : c.eag_time.Regular
  tv_prev : c.tv_prev.Regular

variable {c : Clock} {tv_now : Timeval}

/-- What one reading does: it follows the system clock, or goes on to the next full second. -/
theorem gettimeofday_cases (h : c.Sound) (hnow : tv_now.Regular) :
    (c.gettimeofday tv_now).Sound ∧ (c.gettimeofday tv_now).tv_prev = tv_now ∧
      (c.Steady tv_now → (c.gettimeofday tv_now).eag_time.micros - c.eag_time.micros =
        tv_now.micros - c.tv_prev.micros) ∧
      (¬ c.Steady tv_now → (c.gettimeofday tv_now).eag_time = ⟨c.eag_time.tv_sec + 1, 0⟩) := by
  obtain ⟨heag, hprev⟩ := h
  have hnext : Timeval.Regular ⟨c.eag_time.tv_sec + 1, 0⟩ :=
    ⟨Int.add_nonneg heag.sec (by decide), Int.le_refl 0, show (0 : Int) < TIMER_SECOND_MICRO by decide⟩
  rw [gettimeofday]
  by_cases hcmp : tv_now.cmp c.tv_prev < 0
  · rw [if_pos hcmp]
    rw [Timeval.cmp_neg hnow hprev] at hcmp
    refine ⟨⟨hnext, hnow⟩, rfl, fun hs => ?_, fun _ => rfl⟩
    exact absurd hs.1 (Int.not_le.mpr hcmp)
  · rw [if_neg hcmp]
    rw [Timeval.cmp_neg hnow hprev, Int.not_lt] at hcmp
    obtain ⟨hdiff, hreg⟩ := Timeval.subtract_spec hcmp
    have hsum := Timeval.adjust_add heag.nonneg hreg.nonneg
    obtain ⟨-, hpos, hlt⟩ := hreg
    simp only
    split_ifs with hlarge
    · rw [Timeval.adjust_regular hnext]
      refine ⟨⟨hnext, hnow⟩, rfl, fun hs => ?_, fun _ => rfl⟩
      simp only [Steady, Timeval.micros, TIMER_SECOND_MICRO, MAX_SECONDS_UPGREADE_PER_CALL] at *
      omega
    · refine ⟨⟨hsum.2, hnow⟩, rfl, fun _ => ?_, fun hs => ?_⟩
      · rw [hsum.1, hdiff]
        omega
      · refine absurd ⟨hcmp, ?_⟩ hs
        simp only [Timeval.micros, TIMER_SECOND_MICRO, MAX_SECONDS_UPGREADE_PER_CALL] at *
        omega

/-- One reading sets the clock on by less than eleven seconds, and never back. -/
theorem gettimeofday_le (h : c.Sound) (hnow : tv_now.Regular) :
    c.eag_time.micros ≤ (c.gettimeofday tv_now).eag_time.micros ∧
      (c.gettimeofday tv_now).eag_time.micros - c.eag_time.micros <
        (MAX_SECONDS_UPGREADE_PER_CALL + 1) * TIMER_SECOND_MICRO := by
  obtain ⟨-, -, hsteady, hset⟩ := gettimeofday_cases h hnow
  by_cases hs : c.Steady tv_now
  · rw [← Int.sub_nonneg, hsteady hs]
    exact ⟨Int.sub_nonneg.mpr hs.1, hs.2⟩
  · obtain ⟨-, hpos, hlt⟩ := h.eag_time
    rw [hset hs]
    simp only [Timeval.micros, TIMER_SECOND_MICRO, MAX_SECONDS_UPGREADE_PER_CALL] at *
    omega

/-- Nor do its seconds go back. -/
theorem gettimeofday_sec_le (h : c.Sound) (hnow : tv_now.Regular) :
    c.eag_time.tv_sec ≤ (c.gettimeofday tv_now).eag_time.tv_sec := by
  have hle := (gettimeofday_le h hnow).1
  obtain ⟨-, hpos, hlt⟩ := h.eag_time
  obtain ⟨-, hpos', hlt'⟩ := (gettimeofday_cases h hnow).1.eag_time
  simp only [Timeval.micros, TIMER_SECOND_MICRO] at *
  omega

/-- When the system clock is set, the clock of the daemon leaves it. -/
theorem gettimeofday_leaves (h : c.Sound) (hnow : tv_now.Regular)
    (hsame : c.eag_time.micros = c.tv_prev.micros) (hs : ¬ c.Steady tv_now) :
    (c.gettimeofday tv_now).eag_time.micros ≠ (c.gettimeofday tv_now).tv_prev.micros := by
  obtain ⟨-, hprev, -, hset⟩ := gettimeofday_cases h hnow
  obtain ⟨-, hpos, hlt⟩ := h.eag_time
  rw [hprev, hset hs]
  simp only [Steady, Timeval.micros, TIMER_SECOND_MICRO, MAX_SECONDS_UPGREADE_PER_CALL] at *
  omega

theorem sound_init (h : tv_now.Regular) : (init tv_now).Sound := ⟨h, h⟩

theorem sound_run {tv_nows : List Timeval} (h : c.Sound) (hnow : ∀ tv_now ∈ tv_nows, tv_now.Regular) :
    (run gettimeofday c tv_nows).Sound :=
  Obeys.run_inv (C := fun _ t => t.Regular) (I := Sound) (fun _ _ h ht => (gettimeofday_cases h ht).1) h
    (obeys_of_forall fun t ht _ => hnow t ht)

/-- Whatever the system clock shows, the clock of the daemon never goes back, and no reading sets it on by
eleven seconds. It shows what the system clock does as long as this is not set, and no longer. -/
theorem clock_follows_iff (tv_0 : Timeval) (tv_nows : List Timeval) (h0 : tv_0.Regular)
    (hnow : ∀ tv_now ∈ tv_nows, tv_now.Regular) :
    (∀ pre tv_now suf, tv_nows = pre ++ tv_now :: suf →
      let c := run gettimeofday (init tv_0) pre
      c.eag_time.micros ≤ (c.gettimeofday tv_now).eag_time.micros ∧
        (c.gettimeofday tv_now).eag_time.micros - c.eag_time.micros < 11 * TIMER_SECOND_MICRO) ∧
    (Obeys gettimeofday Steady (init tv_0) tv_nows ↔ ∀ pre suf, tv_nows = pre ++ suf →
      (run gettimeofday (init tv_0) pre).eag_time.micros =
        (run gettimeofday (init tv_0) pre).tv_prev.micros) := by
  constructor
  · rintro pre tv_now suf rfl
    have hsound := sound_run (sound_init h0) fun t ht => hnow t (List.mem_append_left _ ht)
    exact gettimeofday_le hsound (hnow tv_now (by simp))
  · have hregular : Obeys gettimeofday (fun _ t => t.Regular) (init tv_0) tv_nows :=
      obeys_of_forall fun t ht _ => hnow t ht
    refine Obeys.iff_within (I := fun c => c.Sound ∧ c.eag_time.micros = c.tv_prev.micros) hregular ?_
      (fun _ h => h.2) (fun c t h ht hs => gettimeofday_leaves h.1 ht h.2 hs) ⟨sound_init h0, rfl⟩
    rintro c t ⟨hsound, hsame⟩ ht hs
    obtain ⟨hsound', hprev, hsteady, -⟩ := gettimeofday_cases hsound ht
    refine ⟨hsound', ?_⟩
    rw [hprev]
    have := hsteady hs
    omega

/-- The system clock is set back by fifty seconds, and the clock of the daemon shows another time. -/
theorem clock_set_back : ¬ ∀ pre suf, [⟨50, 0⟩] = pre ++ suf →
    (run gettimeofday (init ⟨100, 0⟩) pre).eag_time.micros =
      (run gettimeofday (init ⟨100, 0⟩) pre).tv_prev.micros := by
  intro h
  exact absurd ((clock_follows_iff ⟨100, 0⟩ [⟨50, 0⟩] (by decide) (by decide)).2.mpr h) (by decide)

end Clock

end Eag
end DaemonGroup
