import AnalysisHarness.Task.Poll

/-!
# Lengths of time in machine words

The clock and the limits of time are numbers of nanoseconds, without a bound. A machine keeps a
length of time as a word of whole seconds and the nanoseconds that are left, and adds and compares
such pairs. This module says when the sum of two of them has room, and that comparing the pairs is
comparing the nanoseconds.
-/

namespace AnalysisHarness
namespace Task

def nanosPerSecond : Nat := 1000 * nanosPerMs

/-- A length of time: a word of seconds and less than a second of nanoseconds. -/
structure Span where
  seconds : Nat
  nanos : Nat
  seconds_lt : seconds < 2 ^ 64
  nanos_lt : nanos < nanosPerSecond
  deriving DecidableEq, Repr

namespace Span

def inNanos (d : Span) : Nat := d.seconds * nanosPerSecond + d.nanos

def ofMs (ms : UInt64) : Span where
  seconds := ms.toNat / 1000
  nanos := ms.toNat % 1000 * nanosPerMs
  seconds_lt := Nat.lt_of_le_of_lt (Nat.div_le_self ms.toNat 1000) ms.toNat_lt
  nanos_lt := Nat.mul_lt_mul_of_pos_right (Nat.mod_lt ms.toNat (by decide)) (by decide)

def add? (a b : Span) : Option Span :=
  let nanos := a.nanos + b.nanos
  if h : a.seconds + b.seconds + nanos / nanosPerSecond < 2 ^ 64 then
    some ⟨_, nanos % nanosPerSecond, h, Nat.mod_lt nanos (by decide)⟩
  else none

def exceeds (a b : Span) : Bool :=
  decide (b.seconds < a.seconds) || (a.seconds == b.seconds && decide (b.nanos < a.nanos))

theorem inNanos_ofMs (ms : UInt64) : (ofMs ms).inNanos = ms.toNat * nanosPerMs := by
  have hsplit := Nat.div_add_mod ms.toNat 1000
  simp only [inNanos, ofMs, nanosPerSecond, nanosPerMs]
  omega

theorem inNanos_of_add? {a b sum : Span} (h : a.add? b = some sum) :
    sum.inNanos = a.inNanos + b.inNanos := by
  simp only [add?] at h
  split at h
  · cases h
    have hcarry := Nat.div_add_mod (a.nanos + b.nanos) nanosPerSecond
    simp only [inNanos, nanosPerSecond, nanosPerMs] at hcarry ⊢
    omega
  · cases h

theorem exists_add?_ofMs {elapsed : Span} (h : elapsed.seconds < 2 ^ 63) (ms : UInt64) :
    exists sum, elapsed.add? (ofMs ms) = some sum := by
  have hroom : elapsed.seconds + (ofMs ms).seconds +
      (elapsed.nanos + (ofMs ms).nanos) / nanosPerSecond < 2 ^ 64 := by
    have hms := ms.toNat_lt
    have helapsed := elapsed.nanos_lt
    have hnanos := (ofMs ms).nanos_lt
    have hseconds : (ofMs ms).seconds = ms.toNat / 1000 := rfl
    simp only [nanosPerSecond, nanosPerMs] at helapsed hnanos ⊢
    omega
  exact ⟨_, dif_pos hroom⟩

theorem exceeds_iff (a b : Span) : a.exceeds b = true <-> b.inNanos < a.inNanos := by
  have ha := a.nanos_lt
  have hb := b.nanos_lt
  simp only [exceeds, Bool.or_eq_true, Bool.and_eq_true, decide_eq_true_eq, beq_iff_eq, inNanos,
    nanosPerSecond, nanosPerMs] at ha hb ⊢
  omega

end Span
end Task
end AnalysisHarness
