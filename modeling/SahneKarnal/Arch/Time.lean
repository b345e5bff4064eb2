import Mathlib.Algebra.Group.Nat.Basic
import Mathlib.Data.Nat.Defs
import SahneKarnal.Arch.Exception

/-!
# The PowerPC time base

`read_time_base` samples the 64-bit time base with three `mfspr`: TBU, TBL, TBU. It joins the
second TBU with TBL as `(upper2 << 32) | lower`. Its check of `upper1 != upper2` has an empty
body, so it never retries. On a counter that never goes backwards, a read lies between the time
base at its TBL sample and `2^32` past the time base at its last sample
(`readTimeBase_bounds`). It is exact when no carry reaches the upper half between those two
samples (`readTimeBase_eq_of_no_carry`). After such a carry the read runs ahead, the next read
goes backwards, and `delay_cycles` returns early, by less than `2^32` cycles
(`delayCycles_deadline_lt`).

The time base is observed only through the samples: `samples k` is its value at the `k`-th
`mfspr` of a run. `SPR_TBU` and `SPR_TBL` are `in(reg)` operands of the `asm!`, so the compiled
`mfspr` reads the SPR numbered as the GPR that holds them; the model reads the registers the
source names, TBU and TBL.

The other seven backends read their counter with one instruction (`rdtsc`, `mrs cntpct_el0`,
`rdtime`, `mfc0 Count`, `l.mfspr`, `rd %asr26`). Their `delay_cycles` is one loop over those
reads (`delayCyclesWith`). It returns exactly after the first read that reached the deadline
`min(start + cycles, u64::MAX)`, whatever the counter does (`delay_cycles_stops_at_deadline`).
A single read cannot tear, so no such read comes early.
-/

namespace SahneKarnal.Arch.Time.Powerpc64

open SahneKarnal.Arch.Exception

/-- `SPR_TBU`. -/
def sprTbu : Nat := 269

/-- `SPR_TBL`. -/
def sprTbl : Nat := 268

/-- `mfspr rD, spr` on the time-base registers, with the time base at `timeBase`: TBU gives its
upper half and TBL its lower half, each zero-extended. -/
def mfspr (spr : Nat) (timeBase : BitVec 64) : BitVec 64 :=
  if spr = sprTbu then timeBase >>> 32 else timeBase &&& 0xFFFFFFFF

/-- `read_time_base`, its three `mfspr` seeing the time base at samples `next`, `next + 1` and
`next + 2`: `(upper2 << 32) | lower`. The first TBU read, `upper1`, feeds only the empty
`if upper1 != upper2 {}` and changes nothing. -/
def readTimeBase (samples : Nat → BitVec 64) (next : Nat) : BitVec 64 :=
  let lower := mfspr sprTbl (samples (next + 1))
  let upper2 := mfspr sprTbu (samples (next + 2))
  (upper2 <<< 32) ||| lower

/-- `start.checked_add(cycles).unwrap_or(u64::MAX)`. -/
def deadline (start cycles : BitVec 64) : BitVec 64 :=
  (addU64 start cycles).getD (BitVec.allOnes 64)

/-- `while read_time_base().0 < end {}` from sample `next` on, for at most `fuel` reads: the
sample after the read that reached `finish`. -/
def pollUntil (samples : Nat → BitVec 64) (finish : BitVec 64) : Nat → Nat → Option Nat
  | 0, _ => none
  | fuel + 1, next =>
    if readTimeBase samples next < finish then pollUntil samples finish fuel (next + 3)
    else some (next + 3)

/-- `delay_cycles(cycles)`: the number of time-base samples it takes before it returns. -/
def delayCycles (samples : Nat → BitVec 64) (cycles : BitVec 64) (fuel : Nat) : Option Nat :=
  if cycles = 0 then some 0
  else pollUntil samples (deadline (readTimeBase samples 0) cycles) fuel 3

/-- The time base does not go backwards between samples. -/
def NonDecreasing (samples : Nat → BitVec 64) : Prop :=
  ∀ earlier later, earlier ≤ later → (samples earlier).toNat ≤ (samples later).toNat

theorem lowHalf_eq : (0xFFFFFFFF : BitVec 64) = BitVec.ofNat 64 (2 ^ 32 - 1) := by decide

/-- A read is the upper half of the time base at its last sample joined with the lower half at
its TBL sample. -/
theorem readTimeBase_toNat (samples : Nat → BitVec 64) (next : Nat) :
    (readTimeBase samples next).toNat =
      (samples (next + 2)).toNat / 2 ^ 32 * 2 ^ 32 + (samples (next + 1)).toNat % 2 ^ 32 := by
  have hupper : (samples (next + 2)).toNat / 2 ^ 32 < 2 ^ 32 := by
    have := (samples (next + 2)).isLt
    omega
  have hlower : (samples (next + 1)).toNat % 2 ^ 32 < 2 ^ 32 := Nat.mod_lt _ (by decide)
  simp only [readTimeBase, mfspr, if_neg (by decide : sprTbl ≠ sprTbu), if_true]
  rw [BitVec.toNat_or, BitVec.toNat_shiftLeft, BitVec.toNat_ushiftRight, lowHalf_eq,
    toNat_and_low _ (by decide), Nat.shiftRight_eq_div_pow, Nat.shiftLeft_eq,
    Nat.mod_eq_of_lt (by omega), Nat.mul_comm, ← Nat.mul_add_lt_is_or hlower]

/-- On a time base that has not gone backwards between the TBL and the last sample, a read lies
between the time base at the TBL sample and `2^32` past it at the last sample. -/
theorem readTimeBase_bounds (samples : Nat → BitVec 64) (next : Nat)
    (hmono : (samples (next + 1)).toNat ≤ (samples (next + 2)).toNat) :
    (samples (next + 1)).toNat ≤ (readTimeBase samples next).toNat ∧
      (readTimeBase samples next).toNat < (samples (next + 2)).toNat + 2 ^ 32 := by
  rw [readTimeBase_toNat]
  omega

/-- Without a carry into the upper half between the TBL and the last sample, a read is the time
base at the TBL sample. -/
theorem readTimeBase_eq_of_no_carry (samples : Nat → BitVec 64) (next : Nat)
    (hcarry : (samples (next + 1)).toNat / 2 ^ 32 = (samples (next + 2)).toNat / 2 ^ 32) :
    readTimeBase samples next = samples (next + 1) := by
  apply BitVec.eq_of_toNat_eq
  rw [readTimeBase_toNat]
  omega

/-- The wait ends at a read that reached `finish`. -/
theorem pollUntil_eq_some {samples : Nat → BitVec 64} {finish : BitVec 64} {fuel next last : Nat}
    (hpoll : pollUntil samples finish fuel next = some last) :
    ∃ poll, last = poll + 3 ∧ finish.toNat ≤ (readTimeBase samples poll).toNat := by
  induction fuel generalizing next with
  | zero => cases hpoll
  | succ fuel ih =>
    unfold pollUntil at hpoll
    split at hpoll
    · exact ih hpoll
    · rename_i hreached
      exact ⟨next, (Option.some.inj hpoll).symm, Nat.le_of_not_lt hreached⟩

/-- When `delay_cycles` returns, the time base at its last sample is less than `2^32` short of
the deadline `start + cycles`: a carry during the last read cuts the wait short by less than
`2^32` cycles. -/
theorem delayCycles_deadline_lt {samples : Nat → BitVec 64} {cycles : BitVec 64} {fuel last : Nat}
    (hmono : NonDecreasing samples) (hcycles : cycles ≠ 0)
    (hdelay : delayCycles samples cycles fuel = some last) :
    (deadline (readTimeBase samples 0) cycles).toNat < (samples (last - 1)).toNat + 2 ^ 32 := by
  rw [delayCycles, if_neg hcycles] at hdelay
  obtain ⟨poll, rfl, hreached⟩ := pollUntil_eq_some hdelay
  have hbound := (readTimeBase_bounds samples poll (hmono _ _ (by omega))).2
  rw [show poll + 3 - 1 = poll + 2 by omega]
  omega

/-- A time base with a carry out of its lower half: `0xFFFF_FFF0` at samples 0 to 2,
`0xFFFF_FFFF` at samples 3 and 4, and `0x1_0000_0000` from sample 5 on. -/
def carrySamples (sample : Nat) : BitVec 64 :=
  if sample < 3 then 0xFFFFFFF0 else if sample < 5 then 0xFFFFFFFF else 0x100000000

/-- On `carrySamples`, which never goes backwards, the carry falls between the TBL and the last
sample of the read from sample 3. That read returns `0x1_FFFF_FFFF`, nearly `2^32` past the
time base at its last sample, and the next read returns `0x1_0000_0000`, going backwards.
`delay_cycles(0x100)` returns after these two reads, 6 samples, when the time base has advanced
by only `0x10`. -/
theorem carry_during_read_runs_ahead_and_cuts_delay :
    NonDecreasing carrySamples ∧ readTimeBase carrySamples 3 = 0x1FFFFFFFF ∧
      readTimeBase carrySamples 6 = 0x100000000 ∧ delayCycles carrySamples 0x100 1 = some 6 ∧
      (carrySamples 5).toNat - (carrySamples 0).toNat = 0x10 := by
  refine ⟨fun earlier later hle => ?_, by decide, by decide, by decide, by decide⟩
  unfold carrySamples
  split_ifs <;> first | decide | omega

end SahneKarnal.Arch.Time.Powerpc64

/-! ## The backends with a single-instruction counter read -/

namespace SahneKarnal.Arch.Time

open Powerpc64 (deadline)

/-- `while read().0 < end {}` from the `next`-th counter read on, for at most `fuel` reads, where
the `k`-th read returns `counter k`: the number of reads made when the loop exits. -/
def pollCounter (counter : Nat → BitVec 64) (finish : BitVec 64) : Nat → Nat → Option Nat
  | 0, _ => none
  | fuel + 1, next =>
    if counter next < finish then pollCounter counter finish fuel (next + 1) else some (next + 1)

/-- `delay_cycles(cycles)` over a counter read by one instruction: return at once for `0`,
else read `start` (read 0), take the deadline `start.checked_add(cycles).unwrap_or(u64::MAX)`,
and poll from read 1 on. The result is the number of reads made. -/
def delayCyclesWith (counter : Nat → BitVec 64) (cycles : BitVec 64) (fuel : Nat) : Option Nat :=
  if cycles = 0 then some 0 else pollCounter counter (deadline (counter 0) cycles) fuel 1

/-- `delay_cycles` over `read_tsc` (`rdtsc`). -/
def Amd64.delayCycles (readTsc : Nat → BitVec 64) (cycles : BitVec 64) (fuel : Nat) :
    Option Nat :=
  delayCyclesWith readTsc cycles fuel

/-- `delay_cycles` over `read_cntpct` (`mrs cntpct_el0`). -/
def Armv9.delayCycles (readCntpct : Nat → BitVec 64) (cycles : BitVec 64) (fuel : Nat) :
    Option Nat :=
  delayCyclesWith readCntpct cycles fuel

/-- `delay_cycles` over `read_time_counter` (`rdtime`). -/
def Loongarch64.delayCycles (readTimeCounter : Nat → BitVec 64) (cycles : BitVec 64)
    (fuel : Nat) : Option Nat :=
  delayCyclesWith readTimeCounter cycles fuel

/-- `delay_cycles` over `read_count_register` (`mfc0 Count`). -/
def Mips64.delayCycles (readCountRegister : Nat → BitVec 64) (cycles : BitVec 64) (fuel : Nat) :
    Option Nat :=
  delayCyclesWith readCountRegister cycles fuel

/-- `delay_cycles` over `read_timebase` (`l.mfspr`). -/
def Openrisc64.delayCycles (readTimebase : Nat → BitVec 64) (cycles : BitVec 64) (fuel : Nat) :
    Option Nat :=
  delayCyclesWith readTimebase cycles fuel

/-- `delay_cycles` over `read_time_counter` (`rdtime`). -/
def Rv64i.delayCycles (readTimeCounter : Nat → BitVec 64) (cycles : BitVec 64) (fuel : Nat) :
    Option Nat :=
  delayCyclesWith readTimeCounter cycles fuel

/-- `delay_cycles` over `read_tick_register` (`rd %asr26`). -/
def Sparcv9.delayCycles (readTickRegister : Nat → BitVec 64) (cycles : BitVec 64) (fuel : Nat) :
    Option Nat :=
  delayCyclesWith readTickRegister cycles fuel

/-- The deadline is `start + cycles`, saturated at `u64::MAX`. -/
theorem deadline_toNat (start cycles : BitVec 64) :
    (deadline start cycles).toNat = min (start.toNat + cycles.toNat) (2 ^ 64 - 1) := by
  unfold deadline Exception.addU64
  split
  · rename_i hfits
    rw [Option.getD_some, BitVec.toNat_add, Nat.mod_eq_of_lt hfits]
    omega
  · rw [Option.getD_none, BitVec.toNat_allOnes]
    omega

/-- The polling loop exits exactly after the first read from `next` on that reached `finish`,
if that read is among its `fuel` reads. -/
theorem pollCounter_eq_some_iff (counter : Nat → BitVec 64) (finish : BitVec 64) :
    ∀ fuel next last, pollCounter counter finish fuel next = some last ↔
      ∃ read, next ≤ read ∧ read < next + fuel ∧ last = read + 1 ∧
        finish.toNat ≤ (counter read).toNat ∧
        ∀ earlier, next ≤ earlier → earlier < read → (counter earlier).toNat < finish.toNat
  | 0, next, last => by
    simp only [pollCounter, reduceCtorEq, false_iff, not_exists, not_and]
    intro read hlow hhigh
    omega
  | fuel + 1, next, last => by
    rw [pollCounter]
    by_cases hbelow : counter next < finish
    · rw [if_pos hbelow, pollCounter_eq_some_iff counter finish fuel (next + 1) last]
      rw [BitVec.lt_def] at hbelow
      constructor
      · rintro ⟨read, hlow, hhigh, rfl, hreached, hbefore⟩
        refine ⟨read, by omega, by omega, rfl, hreached, fun earlier hearly hlt => ?_⟩
        by_cases hfirst : earlier = next
        · rw [hfirst]; exact hbelow
        · exact hbefore earlier (by omega) hlt
      · rintro ⟨read, hlow, hhigh, rfl, hreached, hbefore⟩
        have hread : read ≠ next := fun h => by rw [h] at hreached; omega
        exact ⟨read, by omega, by omega, rfl, hreached,
          fun earlier hearly hlt => hbefore earlier (by omega) hlt⟩
    · rw [if_neg hbelow, Option.some.injEq]
      rw [BitVec.lt_def] at hbelow
      constructor
      · rintro rfl
        exact ⟨next, Nat.le_refl _, by omega, rfl, by omega, fun earlier hlow hlt => by omega⟩
      · rintro ⟨read, hlow, hhigh, rfl, hreached, hbefore⟩
        by_cases hread : read = next
        · rw [hread]
        · exact absurd (hbefore next (Nat.le_refl _) (by omega)) (by omega)

/-- `delay_cycles` on the single-read backends, for every counter behaviour: with `cycles = 0`
it makes no read; otherwise it returns exactly after the first read, from read 1 on, whose value
reached `min(start + cycles, u64::MAX)`, `start` being read 0. So it never returns before the
counter reached the deadline, and it returns once the counter gets there within its reads. -/
theorem delay_cycles_stops_at_deadline (counter : Nat → BitVec 64) (cycles : BitVec 64)
    (fuel last : Nat) :
    delayCyclesWith counter cycles fuel = some last ↔
      (cycles = 0 ∧ last = 0) ∨
        (cycles ≠ 0 ∧ ∃ read, 1 ≤ read ∧ read ≤ fuel ∧ last = read + 1 ∧
          min ((counter 0).toNat + cycles.toNat) (2 ^ 64 - 1) ≤ (counter read).toNat ∧
          ∀ earlier, 1 ≤ earlier → earlier < read →
            (counter earlier).toNat < min ((counter 0).toNat + cycles.toNat) (2 ^ 64 - 1)) := by
  unfold delayCyclesWith
  by_cases hcycles : cycles = 0
  · simp [hcycles, eq_comm]
  · rw [if_neg hcycles, pollCounter_eq_some_iff, deadline_toNat]
    constructor
    · rintro ⟨read, hlow, hhigh, hlast, hreached, hbefore⟩
      exact Or.inr ⟨hcycles, read, hlow, by omega, hlast, hreached, hbefore⟩
    · rintro (⟨hzero, -⟩ | ⟨-, read, hlow, hhigh, hlast, hreached, hbefore⟩)
      · exact absurd hzero hcycles
      · exact ⟨read, hlow, by omega, hlast, hreached, hbefore⟩

end SahneKarnal.Arch.Time
