import Mathlib.Data.UInt

/-!
# Timers

The timers of `rina_timer.c` on a clock of seconds and nanoseconds. A period has to elapse from
when a timer is started; the time computed for its end leaves out the seconds of the clock.
-/

namespace RinaSense

/-- Readings of the clock since the epoch. -/
structure Timespec where
  tvSec : Nat
  tvNsec : Nat
  bound : tvNsec < 1000000000
  deriving Repr, DecidableEq

/-- The nanoseconds since the epoch. -/
def Timespec.nanoseconds (time : Timespec) : Nat := time.tvSec * 1000000000 + time.tvNsec

/-- `IPCPTimer_t`. -/
structure IpcpTimer where
  bActive : Bool
  bExpired : Bool
  xTimeOut : Timespec
  ulRemainingTimeUs : UInt32
  ulReloadTimeUs : UInt32
  deriving Repr, DecidableEq

/-! ## Operations -/

/-- `nsec`: periods and the nanoseconds of the clock have 32 bits. -/
def expiryNanoseconds (now : Timespec) (xTimeUs : UInt32) : UInt32 :=
  xTimeUs * 1000 + UInt32.ofNat now.tvNsec

def vIpcpTimerStart (now : Timespec) (pxTimer : IpcpTimer) (xTimeUs : UInt32) : IpcpTimer :=
  let nsec := (expiryNanoseconds now xTimeUs).toNat
  { pxTimer with
    xTimeOut :=
      { tvSec := nsec / 1000000000
        tvNsec := nsec % 1000000000
        bound := Nat.mod_lt _ (by decide) }
    ulRemainingTimeUs := xTimeUs
    bExpired := xTimeUs == 0
    bActive := true }

/-- `bExpired` as a check sets it. -/
def expiredAt (now : Timespec) (pxTimer : IpcpTimer) : Bool :=
  if pxTimer.bExpired then true
  else if now.tvSec = pxTimer.xTimeOut.tvSec then now.tvNsec < pxTimer.xTimeOut.tvNsec
  else now.tvSec < pxTimer.xTimeOut.tvSec

/-- The clock is read to look at the time-out, and once more when the timer is started
again. -/
def bIpcpTimerCheck (now restart : Timespec) (pxTimer : IpcpTimer) : Bool × IpcpTimer :=
  if !pxTimer.bActive then (false, pxTimer)
  else
    let bExpired := expiredAt now pxTimer
    let pxTimer := { pxTimer with bExpired }
    if bExpired then (true, vIpcpTimerStart restart pxTimer pxTimer.ulReloadTimeUs)
    else (false, pxTimer)

def vIpcpTimerReload (now : Timespec) (pxTimer : IpcpTimer) (xTimeUs : UInt32) : IpcpTimer :=
  vIpcpTimerStart now { pxTimer with ulReloadTimeUs := xTimeUs } xTimeUs

/-! ## Purpose -/

/-- The period has elapsed. -/
def Timespec.Elapsed (start now : Timespec) (xTimeUs : UInt32) : Prop :=
  start.nanoseconds + xTimeUs.toNat * 1000 ≤ now.nanoseconds

/-- A check of a timer that was started tells whether its period has elapsed, and if so starts
it again with its reload time. -/
def ChecksProperly (start now restart : Timespec) (pxTimer : IpcpTimer) (xTimeUs : UInt32) : Prop :=
  ((bIpcpTimerCheck now restart pxTimer).1 = true ↔ start.Elapsed now xTimeUs) ∧
    ((bIpcpTimerCheck now restart pxTimer).1 = true →
      (bIpcpTimerCheck now restart pxTimer).2 =
        vIpcpTimerStart restart pxTimer pxTimer.ulReloadTimeUs)

/-! ## Checks -/

section Checks

variable {start now restart time : Timespec} {pxTimer : IpcpTimer} {xTimeUs : UInt32}

/-- Readings are compared by their seconds and then by their nanoseconds. -/
theorem Timespec.before_iff : (if now.tvSec = time.tvSec then decide (now.tvNsec < time.tvNsec)
    else decide (now.tvSec < time.tvSec)) = true ↔ now.nanoseconds < time.nanoseconds := by
  have bound := now.bound
  have bound' := time.bound
  rw [nanoseconds, nanoseconds]
  split
  · next same =>
      rw [decide_eq_true_iff, same]
      omega
  · next different =>
      rw [decide_eq_true_iff]
      omega

/-- A timer that expires is started again. -/
theorem check_restarts (expires : (bIpcpTimerCheck now restart pxTimer).1 = true) :
    (bIpcpTimerCheck now restart pxTimer).2 =
      vIpcpTimerStart restart pxTimer pxTimer.ulReloadTimeUs := by
  cases active : pxTimer.bActive with
  | false => simp [bIpcpTimerCheck, active] at expires
  | true =>
      cases expired : expiredAt now pxTimer with
      | false => simp [bIpcpTimerCheck, active, expired] at expires
      | true =>
          simp only [bIpcpTimerCheck, active, expired, Bool.not_true, Bool.false_eq_true, if_false,
            if_true]
          rfl

/-- A timer that was started expires before the time computed, not behind it. -/
theorem check_started_iff :
    (bIpcpTimerCheck now restart (vIpcpTimerStart start pxTimer xTimeUs)).1 = true ↔
      xTimeUs = 0 ∨ now.nanoseconds < (expiryNanoseconds start xTimeUs).toNat := by
  have timeOut : (vIpcpTimerStart start pxTimer xTimeUs).xTimeOut.nanoseconds =
      (expiryNanoseconds start xTimeUs).toNat := Nat.div_add_mod' ..
  have checked : (bIpcpTimerCheck now restart (vIpcpTimerStart start pxTimer xTimeUs)).1 =
      expiredAt now (vIpcpTimerStart start pxTimer xTimeUs) := by
    rw [bIpcpTimerCheck]
    cases expiredAt now (vIpcpTimerStart start pxTimer xTimeUs) <;> rfl
  rw [checked, expiredAt]
  by_cases zero : xTimeUs = 0
  · simp [vIpcpTimerStart, zero]
  · have running : (vIpcpTimerStart start pxTimer xTimeUs).bExpired = false :=
      beq_eq_false_iff_ne.mpr zero
    rw [running, if_neg Bool.false_ne_true, Timespec.before_iff, timeOut]
    simp only [zero, false_or]

/-- The time computed is no later than the end of the period. -/
theorem expiry_le (start : Timespec) (xTimeUs : UInt32) :
    (expiryNanoseconds start xTimeUs).toNat ≤ start.nanoseconds + xTimeUs.toNat * 1000 := by
  rw [expiryNanoseconds, UInt32.toNat_add, UInt32.toNat_mul, Timespec.nanoseconds]
  have wrapped := Nat.mod_le (xTimeUs.toNat * (1000 : UInt32).toNat) (2 ^ 32)
  have few : (UInt32.ofNat start.tvNsec).toNat ≤ start.tvNsec := by
    rw [UInt32.toNat_ofNat']
    exact Nat.mod_le ..
  apply (Nat.mod_le ..).trans
  have thousand : (1000 : UInt32).toNat = 1000 := rfl
  rw [thousand] at wrapped ⊢
  omega

/-- What is checked of a timer just started does not depend on the timer. -/
theorem checksProperly_started_iff :
    ChecksProperly start now restart (vIpcpTimerStart start pxTimer xTimeUs) xTimeUs ↔
      (xTimeUs = 0 ∨ now.nanoseconds < (expiryNanoseconds start xTimeUs).toNat ↔
        start.Elapsed now xTimeUs) := by
  rw [ChecksProperly, and_iff_left check_restarts, check_started_iff]

end Checks

/-- After a timer is started or reloaded, a check tells whether its period has elapsed exactly if
the period is zero, or has not elapsed and the clock is not before the time computed. -/
theorem timer_check_iff {start now : Timespec} (later : start.nanoseconds ≤ now.nanoseconds)
    (restart : Timespec) (pxTimer : IpcpTimer) (xTimeUs : UInt32) :
    (ChecksProperly start now restart (vIpcpTimerStart start pxTimer xTimeUs) xTimeUs ∧
        ChecksProperly start now restart (vIpcpTimerReload start pxTimer xTimeUs) xTimeUs) ↔
      xTimeUs = 0 ∨ (expiryNanoseconds start xTimeUs).toNat ≤ now.nanoseconds ∧
        now.nanoseconds < start.nanoseconds + xTimeUs.toNat * 1000 := by
  rw [vIpcpTimerReload, checksProperly_started_iff, checksProperly_started_iff, and_self,
    Timespec.Elapsed]
  have before := expiry_le start xTimeUs
  by_cases zero : xTimeUs = 0
  · have none : xTimeUs.toNat * 1000 = 0 := by rw [zero]; rfl
    have elapsed : start.nanoseconds + xTimeUs.toNat * 1000 ≤ now.nanoseconds := by
      rw [none, Nat.add_zero]
      exact later
    exact iff_of_true (iff_of_true (.inl zero) elapsed) (.inl zero)
  · simp only [zero, false_or]
    omega

/-- The clock at a whole second. -/
def Timespec.atSecond (tvSec : Nat) : Timespec := ⟨tvSec, 0, by decide⟩

/-- A timer that was never started. -/
def IpcpTimer.stopped : IpcpTimer := ⟨false, false, .atSecond 0, 0, 0⟩

theorem timer_check_iff_running :
    (ChecksProperly (.atSecond 1) (.atSecond 1) (.atSecond 1)
          (vIpcpTimerStart (.atSecond 1) .stopped 1) 1 ∧
        ChecksProperly (.atSecond 1) (.atSecond 1) (.atSecond 1)
          (vIpcpTimerReload (.atSecond 1) .stopped 1) 1) ↔
      (1 : UInt32) = 0 ∨
        (expiryNanoseconds (.atSecond 1) 1).toNat ≤ (Timespec.atSecond 1).nanoseconds ∧
        (Timespec.atSecond 1).nanoseconds <
          (Timespec.atSecond 1).nanoseconds + (1 : UInt32).toNat * 1000 :=
  timer_check_iff (Nat.le_refl _) (.atSecond 1) .stopped 1

/-- A timer of one microsecond, a second later. -/
theorem elapsed_timer_not_expired :
    (Timespec.atSecond 1).nanoseconds ≤ (Timespec.atSecond 2).nanoseconds ∧
      ¬ ChecksProperly (.atSecond 1) (.atSecond 2) (.atSecond 2)
        (vIpcpTimerStart (.atSecond 1) .stopped 1) 1 := by
  refine ⟨by decide, ?_⟩
  intro checked
  rw [checksProperly_started_iff] at checked
  have elapsed : (Timespec.atSecond 1).Elapsed (.atSecond 2) 1 := by
    rw [Timespec.Elapsed]
    decide
  exact absurd (checked.mpr elapsed) (by decide)

end RinaSense
