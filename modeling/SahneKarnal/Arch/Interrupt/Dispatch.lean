import Mathlib.Algebra.Group.Nat.Basic
import SahneKarnal.Arch.Interrupt

/-!
# Servicing pending interrupts

The LoongArch HT-PIC, the OpenRISC PIC and the SPARC controller report their pending lines
as one word. Their `get_irq` turns that word into a line number with
`(width - 1) - pending.leading_zeros()`, the index of the highest set bit, and answers `0`
for an empty word. `handle_external_interrupts` then hands the line to the driver and sends
its EOI, but only when the line is above `0`: line `0` shares its number with "nothing
pending" and is never serviced (`handlePendingLine_eq_nil_iff`).

The PowerPC MPIC and the RISC-V PLIC report one acknowledged id instead. The PowerPC `get_irq`
keeps only the low byte of `MPIC_IACK`, so the handler's test against the "nothing pending"
value `0xFFFFFFFF` never fires, and that value is serviced as line 255
(`Powerpc64.handle_external_interrupts_sentinel_dead`).

The MIPS `handle_interrupts` clears the software interrupts IP0 and IP1 by writing CP0 Cause.
Each write is computed from the Cause value read at entry, so when both are pending the
second write sets IP0 again (`Mips64.cp0CauseAfter_eq`).
-/

namespace SahneKarnal.Arch.Interrupt

/-! ## The bit scan of `leading_zeros` -/

section Scan

variable {width : Nat}

/-- The zero bits of `word` from bit `count - 1` down to its highest set bit below `count`;
`count` when none of those bits is set. -/
def leadingZerosBelow (word : BitVec width) : Nat → Nat
  | 0 => 0
  | count + 1 => if word.getLsbD count then 0 else leadingZerosBelow word count + 1

/-- Rust's `leading_zeros` on a `width`-bit integer. -/
def leadingZeros (word : BitVec width) : Nat := leadingZerosBelow word width

theorem leadingZerosBelow_le (word : BitVec width) (count : Nat) :
    leadingZerosBelow word count ≤ count := by
  induction count with
  | zero => exact Nat.le_refl 0
  | succ count ih =>
    unfold leadingZerosBelow
    split <;> omega

/-- The bits the scan passes over are clear. -/
theorem getLsbD_eq_false_of_leadingZerosBelow (word : BitVec width) {count line : Nat}
    (habove : count - leadingZerosBelow word count ≤ line) (hline : line < count) :
    word.getLsbD line = false := by
  induction count with
  | zero => omega
  | succ count ih =>
    unfold leadingZerosBelow at habove
    split at habove
    · omega
    · rename_i hbit
      by_cases htop : line = count
      · subst htop
        simpa using hbit
      · exact ih (by omega) (by omega)

/-- The scan stops at a set bit. -/
theorem getLsbD_of_leadingZerosBelow_lt (word : BitVec width) {count : Nat}
    (hstop : leadingZerosBelow word count < count) :
    word.getLsbD (count - 1 - leadingZerosBelow word count) = true := by
  induction count with
  | zero => omega
  | succ count ih =>
    unfold leadingZerosBelow at hstop ⊢
    split
    · simpa using ‹word.getLsbD count = true›
    · rename_i hbit
      rw [if_neg hbit] at hstop
      rw [show count + 1 - 1 - (leadingZerosBelow word count + 1) =
        count - 1 - leadingZerosBelow word count by omega]
      exact ih (by omega)

/-- A word other than zero has a set bit within its width. -/
theorem exists_getLsbD_of_ne_zero {word : BitVec width} (hword : word ≠ 0) :
    ∃ line < width, word.getLsbD line = true := by
  by_contra hnone
  exact hword (BitVec.eq_of_getLsbD_eq fun line => by
    simpa using fun hset => hnone ⟨line, line.isLt, hset⟩)

/-- `leading_zeros` of a word other than zero is below the width. -/
theorem leadingZeros_lt {word : BitVec width} (hword : word ≠ 0) : leadingZeros word < width := by
  obtain ⟨line, hline, hset⟩ := exists_getLsbD_of_ne_zero hword
  refine Nat.lt_of_le_of_ne (leadingZerosBelow_le word width) fun hall => ?_
  have habove : width - leadingZerosBelow word width ≤ line := by
    rw [show leadingZerosBelow word width = width from hall]
    omega
  rw [getLsbD_eq_false_of_leadingZerosBelow word habove hline] at hset
  exact Bool.false_ne_true hset

end Scan

/-! ## Controllers with a pending word -/

section PendingWord

variable {width : Nat}

/-- The line `get_irq` reports for the pending word: `0` for an empty word, and otherwise
`(width - 1) - pending.leading_zeros()`. -/
def irqOfPending (pending : BitVec width) : Nat :=
  if pending = 0 then 0 else (width - 1) - leadingZeros pending

/-- For a word other than zero, the reported line is pending and no line above it is: it is
the highest pending line, and the subtraction never wraps. -/
theorem irqOfPending_highest {pending : BitVec width} (hpending : pending ≠ 0) :
    pending.getLsbD (irqOfPending pending) = true ∧
      ∀ line, irqOfPending pending < line → pending.getLsbD line = false := by
  have hlt := leadingZeros_lt hpending
  rw [irqOfPending, if_neg hpending]
  refine ⟨getLsbD_of_leadingZerosBelow_lt pending hlt, fun line hline => ?_⟩
  by_cases hwidth : line < width
  · exact getLsbD_eq_false_of_leadingZerosBelow pending (by unfold leadingZeros at hline; omega)
      hwidth
  · exact BitVec.getLsbD_ge pending line (by omega)

/-- What the model records of a call: a call of the driver's `handle_irq`, or a write to a
controller register. -/
inductive Action (width : Nat) where
  | handleIrq (irqLine : Nat)
  | write (address : Nat) (value : BitVec width)
  deriving DecidableEq

/-- The body of `handle_external_interrupts` after `get_irq` returned `irqLine`: if the line is
above `0`, call `driver::handle_irq` on it and then send its EOI. `sendEoi` gives the register
write of the controller's `send_eoi`, `none` where that panics. -/
def handlePendingLine (irqLine : Nat) (sendEoi : Nat → Option (Nat × BitVec width)) :
    Option (List (Action width)) :=
  if irqLine > 0 then
    (sendEoi irqLine).map fun eoi => [.handleIrq irqLine, .write eoi.1 eoi.2]
  else some []

/-- The handler does nothing exactly when `get_irq` reported line `0`. -/
theorem handlePendingLine_eq_nil_iff_zero (irqLine : Nat)
    (sendEoi : Nat → Option (Nat × BitVec width)) :
    handlePendingLine irqLine sendEoi = some [] ↔ irqLine = 0 := by
  unfold handlePendingLine
  split_ifs with hline
  · cases sendEoi irqLine <;> simp <;> omega
  · simp only [true_iff]
    omega

/-- The reported line is `0` exactly when no line above `0` is pending. -/
theorem irqOfPending_eq_zero_iff (pending : BitVec width) :
    irqOfPending pending = 0 ↔ ∀ line, 0 < line → pending.getLsbD line = false := by
  by_cases hpending : pending = 0
  · simp [irqOfPending, hpending]
  obtain ⟨hhigh, habove⟩ := irqOfPending_highest hpending
  refine ⟨fun hzero line hline => habove line (by omega), fun hclear => ?_⟩
  by_contra hpos
  rw [hclear _ (Nat.pos_of_ne_zero hpos)] at hhigh
  exact Bool.false_ne_true hhigh

/-- The handler does nothing exactly when no line above `0` is pending: a word with only
line `0` pending is treated as an empty one. -/
theorem handlePendingLine_eq_nil_iff (pending : BitVec width)
    (sendEoi : Nat → Option (Nat × BitVec width)) :
    handlePendingLine (irqOfPending pending) sendEoi = some [] ↔
      ∀ line, 0 < line → pending.getLsbD line = false :=
  (handlePendingLine_eq_nil_iff_zero _ sendEoi).trans (irqOfPending_eq_zero_iff pending)

/-- When a line above `0` is pending, the handler services the highest pending line and no
other: one `handle_irq` call, then that line's EOI write. -/
theorem handlePendingLine_of_pending (pending : BitVec width)
    (sendEoi : Nat → Option (Nat × BitVec width)) {line : Nat} (hline : 0 < line)
    (hset : pending.getLsbD line = true) :
    line ≤ irqOfPending pending ∧ pending.getLsbD (irqOfPending pending) = true ∧
      handlePendingLine (irqOfPending pending) sendEoi =
        (sendEoi (irqOfPending pending)).map fun eoi =>
          [.handleIrq (irqOfPending pending), .write eoi.1 eoi.2] := by
  have hpending : pending ≠ 0 := fun h => by simp [h] at hset
  obtain ⟨hhigh, habove⟩ := irqOfPending_highest hpending
  have hle : line ≤ irqOfPending pending := by
    by_contra hlt
    rw [habove line (by omega)] at hset
    exact Bool.false_ne_true hset
  exact ⟨hle, hhigh, if_pos (by omega)⟩

end PendingWord

namespace Loongarch64

/-- `HT_PIC_ISR`: the status register `get_irq` reads. -/
def htPicIsr : Nat := 0x4

/-- `HT_PIC_EOI`. -/
def htPicEoi : Nat := 0x8

/-- `get_irq`: the line of the highest set bit of `HT_PIC_ISR`. -/
def getIrq (registers : Registers 32) : Nat := irqOfPending (registers (htPicBase + htPicIsr))

/-- `send_eoi`: write the line number to `HT_PIC_EOI`. -/
def sendEoi (irqLine : Nat) : Option (Nat × BitVec 32) :=
  some (htPicBase + htPicEoi, BitVec.ofNat 32 irqLine)

/-- `handle_external_interrupts`. -/
def handleExternalInterrupts (registers : Registers 32) : Option (List (Action 32)) :=
  handlePendingLine (getIrq registers) sendEoi

end Loongarch64

namespace Openrisc64

/-- `PIC_PENDING`. -/
def picPending : Nat := 0x4

/-- `PIC_EOI`. -/
def picEoi : Nat := 0x8

/-- `get_irq`: the line of the highest set bit of `PIC_PENDING`. -/
def getIrq (registers : Registers 32) : Nat := irqOfPending (registers (picBase + picPending))

/-- `send_eoi`: write the line number to `PIC_EOI`. -/
def sendEoi (irqLine : Nat) : Option (Nat × BitVec 32) :=
  some (picBase + picEoi, BitVec.ofNat 32 irqLine)

/-- `handle_external_interrupts`. -/
def handleExternalInterrupts (registers : Registers 32) : Option (List (Action 32)) :=
  handlePendingLine (getIrq registers) sendEoi

end Openrisc64

namespace Sparcv9

/-- `INTR_PENDING`. -/
def intrPending : Nat := 0x8

/-- `INTR_CLEAR`: the clear (EOI) register. -/
def intrClear : Nat := 0x18

/-- `get_irq`: the line of the highest set bit of the 64-bit `INTR_PENDING`. -/
def getIrq (registers : Registers 64) : Nat :=
  irqOfPending (registers (intrControllerBase + intrPending))

/-- `send_eoi`: write `1 << irq_line` to `INTR_CLEAR`. -/
def sendEoi (irqLine : Nat) : Option (Nat × BitVec 64) :=
  (shlOne 64 irqLine).map fun mask => (intrControllerBase + intrClear, mask)

/-- `handle_external_interrupts`. -/
def handleExternalInterrupts (registers : Registers 64) : Option (List (Action 64)) :=
  handlePendingLine (getIrq registers) sendEoi

end Sparcv9

/-- Only line `0` pending (the word `1`): no controller services anything. Lines `0` and `1`
pending (the word `3`): each services line `1`, the highest, and leaves line `0` pending. -/
theorem line_zero_dropped_and_highest_line_served :
    Loongarch64.handleExternalInterrupts (fun _ => 1) = some [] ∧
      Openrisc64.handleExternalInterrupts (fun _ => 1) = some [] ∧
      Sparcv9.handleExternalInterrupts (fun _ => 1) = some [] ∧
      Loongarch64.handleExternalInterrupts (fun _ => 3) =
        some [.handleIrq 1, .write 0x10000008 1] ∧
      Openrisc64.handleExternalInterrupts (fun _ => 3) =
        some [.handleIrq 1, .write 0x90001008 1] ∧
      Sparcv9.handleExternalInterrupts (fun _ => 3) =
        some [.handleIrq 1, .write 0xF0000018 2] := by
  decide

/-! ## Controllers with an acknowledge register -/

namespace Powerpc64

/-- `MPIC_BASE`. -/
def mpicBase : Nat := 0x80000000

/-- `MPIC_IACK`: reading it acknowledges the interrupt it reports. -/
def mpicIack : Nat := 0x1040

/-- `MPIC_EOI`. -/
def mpicEoi : Nat := 0x1050

/-- `get_irq`: the low byte of `MPIC_IACK`. -/
def getIrq (registers : Registers 32) : BitVec 32 := registers (mpicBase + mpicIack) &&& 0xFF

/-- `send_eoi`: write `0` to `MPIC_EOI`; the line is ignored. -/
def sendEoi : Nat × BitVec 32 := (mpicBase + mpicEoi, 0)

/-- `handle_external_interrupts`: for `irq_id != 0 && irq_id != 0xFFFFFFFF`, call
`driver::handle_irq` and then `send_eoi`. -/
def handleExternalInterrupts (registers : Registers 32) : List (Action 32) :=
  if getIrq registers ≠ 0 ∧ getIrq registers ≠ 0xFFFFFFFF then
    [.handleIrq (getIrq registers).toNat, .write sendEoi.1 sendEoi.2]
  else []

theorem getIrq_toNat_lt (registers : Registers 32) : (getIrq registers).toNat < 256 := by
  rw [getIrq, BitVec.toNat_and]
  exact Nat.lt_of_le_of_lt (Nat.and_le_right) (by decide)

/-- `get_irq` masks the acknowledge word to its low byte, so the test against the MPIC's
"nothing pending" value `0xFFFFFFFF` never fires: the handler services the low byte whenever it
is not `0`, and an acknowledge word of `0xFFFFFFFF` is serviced as line 255. -/
theorem handle_external_interrupts_sentinel_dead :
    (∀ registers, handleExternalInterrupts registers =
      if registers (mpicBase + mpicIack) &&& 0xFF = 0 then []
      else [.handleIrq (registers (mpicBase + mpicIack) &&& 0xFF).toNat,
        .write (mpicBase + mpicEoi) 0]) ∧
    ∀ registers, registers (mpicBase + mpicIack) = 0xFFFFFFFF →
      handleExternalInterrupts registers = [.handleIrq 255, .write (mpicBase + mpicEoi) 0] := by
  have hlive : ∀ registers, handleExternalInterrupts registers =
      if getIrq registers = 0 then [] else [.handleIrq (getIrq registers).toNat,
        .write (mpicBase + mpicEoi) 0] := by
    intro registers
    have hsentinel : getIrq registers ≠ 0xFFFFFFFF := fun h => by
      have := getIrq_toNat_lt registers
      rw [h] at this
      exact absurd this (by decide)
    by_cases hzero : getIrq registers = 0
    · rw [handleExternalInterrupts, if_neg (fun h => h.1 hzero), if_pos hzero]
    · rw [handleExternalInterrupts, if_pos ⟨hzero, hsentinel⟩, if_neg hzero]
      rfl
  refine ⟨hlive, fun registers hiack => ?_⟩
  rw [hlive, getIrq, hiack]
  rfl

end Powerpc64

namespace Rv64i

/-- `PLIC_CLAIM`: the S-mode claim/complete register. -/
def plicClaim : Nat := 0x200004

/-- `Plic::claim_irq`: read the claim register. -/
def claimIrq (memory : Registers 32) : BitVec 32 := memory (plicBase + plicClaim)

/-- `Plic::complete_irq`: write the id back to the claim register. -/
def completeIrq (irqId : BitVec 32) : Nat × BitVec 32 := (plicBase + plicClaim, irqId)

/-- `handle_external_interrupts`: claim, and for `0 < irq_id < 1024` complete the id. The call of
the driver is commented out in the source. -/
def handleExternalInterrupts (memory : Registers 32) : List (Action 32) :=
  if 0 < (claimIrq memory).toNat ∧ (claimIrq memory).toNat < 1024 then
    [.write (completeIrq (claimIrq memory)).1 (completeIrq (claimIrq memory)).2]
  else []

/-- `CLINT_BASE`. -/
def clintBase : Nat := 0x2000000

/-- `MTIMECMP`. -/
def mtimecmp : Nat := 0x4000

/-- `MTIME`. -/
def mtime : Nat := 0xBFF8

/-- `Clint::set_next_timer_interrupt`: write `MTIME + interval` to `MTIMECMP`. The `u64` sum
panics on overflow. -/
def Clint.setNextTimerInterrupt (clint : Registers 64) (interval : BitVec 64) :
    Option (Registers 64) :=
  if (clint (clintBase + mtime)).toNat + interval.toNat < 2 ^ 64 then
    some (Function.update clint (clintBase + mtimecmp) (clint (clintBase + mtime) + interval))
  else none

/-- `handle_timer_interrupt`: set the next timer interrupt 10 000 000 ticks ahead. -/
def handleTimerInterrupt (clint : Registers 64) : Option (Registers 64) :=
  Clint.setNextTimerInterrupt clint 10000000

end Rv64i

/-! ## MIPS: clearing the software interrupts in CP0 Cause -/

namespace Mips64

/-- `CAUSE_IP_BASE`: the pending bits IP0 .. IP7 of Cause. -/
def causeIpBase : BitVec 64 := 0xFF00

/-- `STATUS_IM_BASE`: the mask bits IM0 .. IM7 of Status. -/
def statusImBase : BitVec 64 := 0xFF00

/-- `pending_interrupts`: the lines pending in Cause and enabled in Status. -/
def pendingInterrupts (cause status : BitVec 64) : BitVec 64 :=
  (cause &&& causeIpBase) &&& (status &&& statusImBase)

/-- `irq_bit = 1 << (irq_line + 8)`, the Cause bit of line `irq_line`. -/
def irqBit (irqLine : Nat) : BitVec 64 := BitVec.ofNat 64 1 <<< (irqLine + 8)

/-- The Cause writes of one pass of the loop over `irq_line`: for a pending software interrupt
(line 0 or 1), `mtc0` of `cause & !(irq_bit)`. The branch for line 7 is empty. -/
def clearWrites (cause pending : BitVec 64) (irqLine : Nat) : List (BitVec 64) :=
  if pending &&& irqBit irqLine ≠ 0 ∧ (irqLine = 0 ∨ irqLine = 1) then
    [cause &&& ~~~irqBit irqLine]
  else []

/-- `handle_interrupts`, for the Cause and Status values it reads: the values it writes to
CP0 Cause, in order. -/
def handleInterrupts (cause status : BitVec 64) : List (BitVec 64) :=
  let pending := pendingInterrupts cause status
  if pending = 0 then [] else (List.range 8).flatMap (clearWrites cause pending)

/-- CP0 Cause after the call: the last value written, or the value read when nothing was. -/
def cp0CauseAfter (cause status : BitVec 64) : BitVec 64 :=
  (handleInterrupts cause status).getLastD cause

theorem getLsbD_irqBit (irqLine index : Nat) :
    (irqBit irqLine).getLsbD index = decide (index = irqLine + 8 ∧ index < 64) := by
  simp only [irqBit, BitVec.getLsbD_shiftLeft, BitVec.getLsbD_ofNat]
  by_cases hindex : index = irqLine + 8 <;> simp [hindex]
  intro _ _ _
  rw [show index - (irqLine + 8) = (index - (irqLine + 8) - 1) + 1 by omega]
  simp [Nat.testBit_succ]

/-- The loop unrolled: only lines 0 and 1 can write, each from the Cause value read at
entry. -/
theorem handleInterrupts_eq (cause status : BitVec 64) :
    handleInterrupts cause status =
      (if pendingInterrupts cause status &&& irqBit 0 ≠ 0 then [cause &&& ~~~irqBit 0] else []) ++
        (if pendingInterrupts cause status &&& irqBit 1 ≠ 0 then [cause &&& ~~~irqBit 1]
          else []) := by
  unfold handleInterrupts
  by_cases hzero : pendingInterrupts cause status = 0
  · simp [hzero]
  · rw [if_neg hzero]
    simp [List.range, List.range.loop, clearWrites]

/-- The Cause value the call leaves: IP1 cleared if it was pending, else IP0 cleared if it
was pending. When both were, the write for IP1 sets IP0 again. -/
theorem cp0CauseAfter_eq (cause status : BitVec 64) :
    cp0CauseAfter cause status =
      if pendingInterrupts cause status &&& irqBit 1 ≠ 0 then cause &&& ~~~irqBit 1
      else if pendingInterrupts cause status &&& irqBit 0 ≠ 0 then cause &&& ~~~irqBit 0
      else cause := by
  rw [cp0CauseAfter, handleInterrupts_eq]
  split_ifs <;> rfl

/-- A line's bit of a word is set exactly when masking the word with its `irq_bit` leaves
something. -/
theorem and_irqBit_ne_zero_iff (word : BitVec 64) {irqLine : Nat} (hline : irqLine < 56) :
    word &&& irqBit irqLine ≠ 0 ↔ word.getLsbD (irqLine + 8) = true := by
  constructor
  · intro hmasked
    by_contra hclear
    refine hmasked (BitVec.eq_of_getLsbD_eq fun index => ?_)
    by_cases hindex : index.val = irqLine + 8
    · simp [hindex, hclear]
    · simp [getLsbD_irqBit, hindex]
  · intro hset hzero
    have hbit := congrArg (BitVec.getLsbD · (irqLine + 8)) hzero
    simp [getLsbD_irqBit, hset, hline] at hbit
    omega

/-- The law "Cause ends as read, with exactly the pending-and-enabled IP0 and IP1 cleared"
holds exactly when IP0 and IP1 are not both pending and enabled. -/
theorem cp0CauseAfter_eq_cleared_iff (cause status : BitVec 64) :
    cp0CauseAfter cause status =
        cause &&& ~~~(pendingInterrupts cause status &&& (irqBit 0 ||| irqBit 1)) ↔
      ¬ (pendingInterrupts cause status &&& irqBit 0 ≠ 0 ∧
        pendingInterrupts cause status &&& irqBit 1 ≠ 0) := by
  have hcause : (pendingInterrupts cause status).getLsbD 8 = true → cause.getLsbD 8 = true := by
    simp only [pendingInterrupts, BitVec.getLsbD_and, Bool.and_eq_true]
    exact fun hpending => hpending.1.1
  simp only [cp0CauseAfter_eq, and_irqBit_ne_zero_iff _ (by decide : 0 < 56),
    and_irqBit_ne_zero_iff _ (by decide : 1 < 56), Nat.reduceAdd]
  cases hzero : (pendingInterrupts cause status).getLsbD 8 <;>
    cases hone : (pendingInterrupts cause status).getLsbD 9
  case true.true =>
    -- both pending: the write for IP1 leaves IP0 set
    simp only [if_true, and_self, not_true_eq_false, iff_false]
    intro heq
    have hbit := congrArg (BitVec.getLsbD · 8) heq
    simp [getLsbD_irqBit, hcause hzero, hzero] at hbit
  all_goals
    simp only [Bool.false_eq_true, if_true, if_false, and_false, false_and, not_false_eq_true,
      iff_true]
    refine BitVec.eq_of_getLsbD_eq fun index => ?_
    by_cases h8 : index.val = 8 <;> by_cases h9 : index.val = 9 <;>
      simp [getLsbD_irqBit, h8, h9, hzero, hone]

/-- With IP0 and IP1 both pending and enabled (Cause = Status = `0x300`), the call writes
`0x200` and then `0x100`: the second write sets IP0 again, and Cause ends as `0x100` where the
law asks for `0`. -/
theorem ip0_clear_lost_to_ip1_clear :
    handleInterrupts 0x300 0x300 = [0x200, 0x100] ∧ cp0CauseAfter 0x300 0x300 = 0x100 ∧
      (0x300 : BitVec 64) &&& ~~~(pendingInterrupts 0x300 0x300 &&& (irqBit 0 ||| irqBit 1)) =
        0 := by
  decide

end Mips64

end SahneKarnal.Arch.Interrupt
