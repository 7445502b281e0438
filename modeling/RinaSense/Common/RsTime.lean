import Mathlib.Data.List.ReduceOption
import RinaSense.Common.RinaTimer
import RinaSense.Ipcp.State
import RinaSense.Library.Trace

/-!
# Time-outs

The time-outs of `posix_rstime.c`: the clock is read when one is set, and each check takes the
time since the last reading off the time that is left.
-/

namespace RinaSense

open Command Trace

/-- A reading of the clock of the time-outs, which the system keeps in 64 bits with a sign. -/
structure ClockReading where
  time : Timespec
  range : time.nanoseconds < 2 ^ 63
  deriving Repr, DecidableEq

/-- The nanoseconds of a reading, `SEC_TO_NS` of its seconds and the rest. -/
def ClockReading.ns (reading : ClockReading) : Nat := reading.time.nanoseconds

def ClockReading.zero : ClockReading where
  time := .atSecond 0
  range := by decide

/-- `struct RsTimeOut` and the time that is left, in microseconds. -/
structure RsTimeOut where
  xTimespec : ClockReading
  xTimeLeft : UInt32
  deriving Repr, DecidableEq

/-- The reading the time-out is set to, if the clock can be read. -/
def xRsTimeSetTimeOut (clock : Option ClockReading) : Option ClockReading := clock

/-- The time left after a reading. The microseconds have 32 bits, and so has their product
with 1000; the nanoseconds have 64. -/
def timeLeftAt (pTimeOut : RsTimeOut) (now : ClockReading) : UInt32 :=
  let unNsTimeDone : Nat := (pTimeOut.xTimespec.ns + (pTimeOut.xTimeLeft * 1000).toNat) % 2 ^ 64
  let nNsTimeLeft := ((unNsTimeDone : Int) - now.ns).bmod (2 ^ 64)
  if 0 < nNsTimeLeft then UInt32.ofNat (nNsTimeLeft / 1000).toNat else 0

def xRsTimeCheckTimeOut (clock : Option ClockReading) (pTimeOut : RsTimeOut) : Bool × RsTimeOut :=
  match clock with
  | none => (false, pTimeOut)
  | some xCheckTimespec =>
      (true, { xTimespec := xCheckTimespec, xTimeLeft := timeLeftAt pTimeOut xCheckTimespec })

/-! ## Runs -/

/-- A time-out with the number of times it was checked. -/
structure Countdown where
  timeOut : RsTimeOut
  checks : Nat
  deriving Repr, DecidableEq

namespace Countdown

/-- The time-out when it was set. -/
def start (set : ClockReading) (xTimeLeft : UInt32) : Countdown where
  timeOut := { xTimespec := set, xTimeLeft }
  checks := 0

/-- One check, with what the clock reads or nothing. -/
def poll (clock : Option ClockReading) : EStateM Fault Countdown Bool := do
  let state ← get
  let (read, timeOut) := xRsTimeCheckTimeOut clock state.timeOut
  set { timeOut, checks := if read then state.checks + 1 else state.checks : Countdown }
  return read

end Countdown

/-- The readings are those of a clock that never goes back. -/
def NonDecreasing : ClockReading → List (Option ClockReading) → Prop
  | _, [] => True
  | last, none :: polls => NonDecreasing last polls
  | last, some now :: polls => last.ns ≤ now.ns ∧ NonDecreasing now polls

/-! ## Purpose -/

/-- Two amounts that differ by no more than a margin. -/
def Near (margin first second : Nat) : Prop := first ≤ second + margin ∧ second ≤ first + margin

namespace Countdown

/-- The nanoseconds that remain of a time-out of microseconds. -/
def remaining (set now : ClockReading) (xTimeLeft : UInt32) : Nat :=
  xTimeLeft.toNat * 1000 - (now.ns - set.ns)

/-- Whenever the clock can be read, the check returns true and leaves what remains, to a
microsecond for each check. -/
def CountsDown (set : ClockReading) (xTimeLeft : UInt32) (clock : Option ClockReading)
    (result : EStateM.Result Fault Countdown Bool) : Prop :=
  ∀ now, clock = some now → ∃ next, result = .ok true next ∧
    Near (1000 * next.checks) (next.timeOut.xTimeLeft.toNat * 1000) (remaining set now xTimeLeft)

end Countdown

/-! ## A check -/

section Check

variable {pTimeOut : RsTimeOut} {now : ClockReading}

/-- What is left after a check: the product, as it is in 32 bits, without the time since the last
reading, rounded down. -/
theorem timeLeftAt_toNat (later : pTimeOut.xTimespec.ns ≤ now.ns) :
    (timeLeftAt pTimeOut now).toNat =
      ((pTimeOut.xTimeLeft * 1000).toNat - (now.ns - pTimeOut.xTimespec.ns)) / 1000 := by
  have productRange : (pTimeOut.xTimeLeft * 1000).toNat < 2 ^ 32 := UInt32.toNat_lt _
  have lastRange : pTimeOut.xTimespec.ns < 2 ^ 63 := pTimeOut.xTimespec.range
  have nowRange : now.ns < 2 ^ 63 := now.range
  rw [timeLeftAt]
  generalize (pTimeOut.xTimeLeft * 1000).toNat = product at *
  generalize pTimeOut.xTimespec.ns = last at *
  have done : (last + product) % 2 ^ 64 = last + product := Nat.mod_eq_of_lt (by omega)
  have difference : (((last + product : Nat) : Int) - now.ns).bmod (2 ^ 64) =
      ((last + product : Nat) : Int) - now.ns := Int.bmod_eq_of_le (by omega) (by omega)
  simp only [done, difference]
  split
  · next positive =>
      have quotient : ((((last + product : Nat) : Int) - now.ns) / 1000).toNat =
          (product - (now.ns - last)) / 1000 := by omega
      have fits : (product - (now.ns - last)) / 1000 < 2 ^ 32 := by omega
      rw [quotient]
      exact UInt32.toNat_ofNat_of_lt' fits
  · next expired =>
      rw [UInt32.toNat_zero]
      omega

/-- What is left can be multiplied again. -/
theorem timeLeftAt_short (later : pTimeOut.xTimespec.ns ≤ now.ns) :
    (timeLeftAt pTimeOut now).toNat * 1000 < 2 ^ 32 := by
  rw [timeLeftAt_toNat later]
  exact Nat.lt_of_le_of_lt (Nat.le_trans (Nat.div_mul_le_self _ _) (Nat.sub_le _ _))
    (UInt32.toNat_lt _)

theorem product_toNat {xTimeLeft : UInt32} (short : xTimeLeft.toNat * 1000 < 2 ^ 32) :
    (xTimeLeft * 1000).toNat = xTimeLeft.toNat * 1000 := by
  rw [UInt32.toNat_mul]
  exact Nat.mod_eq_of_lt short

theorem product_le_of_long {xTimeLeft : UInt32} (long : 2 ^ 32 ≤ xTimeLeft.toNat * 1000) :
    (xTimeLeft * 1000).toNat + 2 ^ 32 ≤ xTimeLeft.toNat * 1000 := by
  rw [UInt32.toNat_mul]
  have split := Nat.div_add_mod (xTimeLeft.toNat * (1000 : UInt32).toNat) (2 ^ 32)
  have many : 1 ≤ xTimeLeft.toNat * (1000 : UInt32).toNat / 2 ^ 32 :=
    Nat.div_pos long (by decide)
  change _ + 2 ^ 32 ≤ xTimeLeft.toNat * (1000 : UInt32).toNat
  omega

end Check

/-! ## Counting down -/

namespace Countdown

variable {set now : ClockReading} {xTimeLeft : UInt32} {state : Countdown}

/-- The time-out after a check with this reading. -/
def checked (state : Countdown) (now : ClockReading) : Countdown where
  timeOut := { xTimespec := now, xTimeLeft := timeLeftAt state.timeOut now }
  checks := state.checks + 1

@[simp] theorem run_poll_none : (poll none).run state = .ok false state := rfl

@[simp] theorem run_poll_some : (poll (some now)).run state = .ok true (state.checked now) := rfl

/-- The time left is near to what remains, and its product with 1000 is one of 32 bits. -/
structure Counting (set : ClockReading) (xTimeLeft : UInt32) (state : Countdown) : Prop where
  near : Near (1000 * state.checks) (state.timeOut.xTimeLeft.toNat * 1000)
    (remaining set state.timeOut.xTimespec xTimeLeft)
  short : state.timeOut.xTimeLeft.toNat * 1000 < 2 ^ 32
  after : set.ns ≤ state.timeOut.xTimespec.ns

theorem counting_start (short : xTimeLeft.toNat * 1000 < 2 ^ 32) :
    Counting set xTimeLeft (start set xTimeLeft) where
  near := by
    change Near _ (xTimeLeft.toNat * 1000) (xTimeLeft.toNat * 1000 - (set.ns - set.ns))
    rw [Nat.sub_self, Nat.sub_zero]
    exact ⟨Nat.le_add_right _ _, Nat.le_add_right _ _⟩
  short := short
  after := Nat.le_refl _

theorem near_checked {margin left done target : Nat} (near : Near margin left target) :
    Near (margin + 1000) ((left - done) / 1000 * 1000) (target - done) := by
  obtain ⟨below, above⟩ := near
  constructor
  · omega
  · omega

theorem remaining_later (after : set.ns ≤ state.timeOut.xTimespec.ns)
    (later : state.timeOut.xTimespec.ns ≤ now.ns) :
    remaining set now xTimeLeft =
      remaining set state.timeOut.xTimespec xTimeLeft -
        (now.ns - state.timeOut.xTimespec.ns) := by
  rw [remaining, remaining]
  omega

/-- A check rounds what is left by less than a microsecond more. -/
theorem Counting.checked (counting : Counting set xTimeLeft state)
    (later : state.timeOut.xTimespec.ns ≤ now.ns) :
    Counting set xTimeLeft (state.checked now) := by
  have left : (timeLeftAt state.timeOut now).toNat =
      (state.timeOut.xTimeLeft.toNat * 1000 - (now.ns - state.timeOut.xTimespec.ns)) / 1000 := by
    rw [← product_toNat counting.short]
    exact timeLeftAt_toNat later
  have near : Near (1000 * (state.checks + 1)) ((timeLeftAt state.timeOut now).toNat * 1000)
      (remaining set now xTimeLeft) := by
    rw [left, remaining_later counting.after later, Nat.mul_succ]
    exact near_checked counting.near
  exact
    { near := near
      short := timeLeftAt_short later
      after := Nat.le_trans counting.after later }

theorem Counting.countsDown {polls : List (Option ClockReading)}
    (counting : Counting set xTimeLeft state)
    (ordered : NonDecreasing state.timeOut.xTimespec polls) :
    ∀ occurrence ∈ trace poll polls state,
      CountsDown set xTimeLeft occurrence.event occurrence.result := by
  induction polls generalizing state with
  | nil => exact fun _ member => absurd member List.not_mem_nil
  | cons clock polls ih =>
      intro occurrence member
      cases clock with
      | none =>
          obtain rfl | ⟨value, next, run, later⟩ := mem_trace_cons.mp member
          · intro now read
            cases read
          · cases run
            exact ih counting ordered occurrence later
      | some now =>
          have next := counting.checked ordered.1
          obtain rfl | ⟨value, _, run, later⟩ := mem_trace_cons.mp member
          · intro other read
            cases read
            exact ⟨_, rfl, next.near⟩
          · cases run
            exact ih next ordered.2 occurrence later

/-! ## Long time-outs -/

/-- The first check of a long time-out leaves nothing near to what remains, unless that is
almost nothing. -/
theorem near_first_iff (long : 2 ^ 32 ≤ xTimeLeft.toNat * 1000) (later : set.ns ≤ now.ns) :
    Near 1000 ((timeLeftAt ⟨set, xTimeLeft⟩ now).toNat * 1000) (remaining set now xTimeLeft) ↔
      xTimeLeft.toNat * 1000 ≤ now.ns - set.ns + 1000 := by
  have left := @timeLeftAt_toNat ⟨set, xTimeLeft⟩ now later
  have wrapped := product_le_of_long long
  rw [left, remaining, Near]
  simp only
  omega

theorem Counting.after_long (long : 2 ^ 32 ≤ xTimeLeft.toNat * 1000) (later : set.ns ≤ now.ns)
    (late : xTimeLeft.toNat * 1000 ≤ now.ns - set.ns + 1000) :
    Counting set xTimeLeft ((start set xTimeLeft).checked now) where
  near := (near_first_iff long later).mpr late
  short := @timeLeftAt_short ⟨set, xTimeLeft⟩ now later
  after := later

/-- A long time-out counts down exactly where its first check comes when it is over. -/
theorem countsDown_long_iff (long : 2 ^ 32 ≤ xTimeLeft.toNat * 1000)
    {polls : List (Option ClockReading)} (ordered : NonDecreasing set polls) :
    (∀ occurrence ∈ trace poll polls (start set xTimeLeft),
        CountsDown set xTimeLeft occurrence.event occurrence.result) ↔
      ∀ now, polls.reduceOption.head? = some now →
        xTimeLeft.toNat * 1000 ≤ now.ns - set.ns + 1000 := by
  induction polls with
  | nil => exact iff_of_true (fun _ member => absurd member List.not_mem_nil) nofun
  | cons clock polls ih =>
      cases clock with
      | none =>
          rw [List.reduceOption_cons_of_none, ← ih ordered, trace_of_ok run_poll_none]
          simp only [List.forall_mem_cons, and_iff_right_iff_imp]
          intro _ now read
          cases read
      | some now =>
          rw [List.reduceOption_cons_of_some, List.head?_cons]
          constructor
          · intro all other first
            cases first
            obtain ⟨next, run, near⟩ := all _ (mem_trace_cons.mpr (.inl rfl)) now rfl
            cases run
            exact (near_first_iff long ordered.1).mp near
          · intro late occurrence member
            have counting := Counting.after_long long ordered.1 (late now rfl)
            obtain rfl | ⟨value, _, run, later⟩ := mem_trace_cons.mp member
            · intro other read
              cases read
              exact ⟨_, rfl, counting.near⟩
            · cases run
              exact counting.countsDown ordered.2 occurrence later

end Countdown

/-- A time-out that is set and checked by a clock that never goes back. -/
structure ClockPolls where
  set : ClockReading
  polls : List (Option ClockReading)
  ordered : NonDecreasing set polls

/-- The product with 1000 has 32 bits, or the time-out is over, but for a microsecond at most,
when it is first checked. -/
def ClockPolls.InTime (clock : ClockPolls) (xTimeLeft : UInt32) : Prop :=
  xTimeLeft.toNat * 1000 < 2 ^ 32 ∨
    ∀ now, clock.polls.reduceOption.head? = some now →
      xTimeLeft.toNat * 1000 ≤ now.ns - clock.set.ns + 1000

theorem countdown_iff (clock : ClockPolls) (xTimeLeft : UInt32) :
    (∀ occurrence ∈ trace Countdown.poll clock.polls (.start clock.set xTimeLeft),
        Countdown.CountsDown clock.set xTimeLeft occurrence.event occurrence.result) ↔
      clock.InTime xTimeLeft := by
  by_cases short : xTimeLeft.toNat * 1000 < 2 ^ 32
  · exact iff_of_true ((Countdown.counting_start short).countsDown clock.ordered) (.inl short)
  · rw [Countdown.countsDown_long_iff (Nat.le_of_not_lt short) clock.ordered]
    exact ⟨.inr, fun inTime => inTime.resolve_left short⟩

end RinaSense
