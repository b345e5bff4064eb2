import Mathlib.Algebra.Group.Nat.Basic
import SahneKarnal.Arch.Interrupt.Dispatch

/-!
# Bringing up the interrupt controllers

Before a driver enables a single line, each backend's `init_pic` / `init` writes a few
controller registers. These are those writes, from an arbitrary prior register state, and what
each leaves enabled.

* The LoongArch HT-PIC, the OpenRISC PIC and the SPARC controller write their one enable (mask)
  word to the value that disables all their lines (`init_disables_every_line`).
* The RISC-V `Plic::init` is commented "disable all S-mode interrupts", but it clears only the
  first of the 32 enable words. Sources 32 to 1023 stay as they were. Its priority loop writes
  `PLIC_BASE + PLIC_PRIORITY_BASE + irq * 4` for `irq` in `1..256`. `PLIC_PRIORITY_BASE` is
  already the register of source 1, so the loop sets the priority of sources 2 to 256 and never
  that of source 1 (`Plic.init_disables_low_sources_and_shifts_priorities`).
* The AArch64 `GicDistributor::init` writes all ones to `GICD_ICENABLER1` .. `GICD_ICENABLER7`
  between clearing and setting `GICD_CTLR`. It disables exactly the ids 32 to 255
  (`GicDistributor.init_disables_ids_32_to_255`).
* The MIPS `init_interrupts` clears IE and IM2 .. IM7 and sets IM0 and IM1 in CP0 Status. The
  MIPS `mask_irq` / `unmask_irq` switch IM bits by a read-modify-write, and for a line above 7
  return without a write (`Mips64.mask_unmask_exact`).
-/

namespace SahneKarnal.Arch.Interrupt

/-- The word a `for` loop of stores leaves at `target`: the stored value if some iteration
wrote there, and the old word otherwise. -/
theorem foldl_update_apply {width : Nat} (indices : List Nat) (address : Nat → Nat)
    (value : BitVec width) (registers : Registers width) (target : Nat) :
    indices.foldl
        (fun (registers : Registers width) index => Function.update registers (address index) value)
        registers target =
      if ∃ index ∈ indices, address index = target then value else registers target := by
  induction indices generalizing registers with
  | nil => simp
  | cons index rest ih =>
    rw [List.foldl_cons, ih, Function.update_apply]
    by_cases hrest : ∃ other ∈ rest, address other = target
    · simp [hrest]
    · by_cases hhead : address index = target
      · subst hhead
        simp [hrest]
      · simp [hrest, hhead, Ne.symm hhead]

theorem getLsbD_allOnes_of_lt {bit : Nat} (hbit : bit < 32) :
    (0xFFFFFFFF : BitVec 32).getLsbD bit = true := by
  rw [show (0xFFFFFFFF : BitVec 32) = BitVec.allOnes 32 by decide, BitVec.getLsbD_allOnes]
  exact decide_eq_true hbit

/-- A bank whose lines all live in one register reads its lines from that register alone. -/
theorem Bank.enabled_update_of_single {width : Nat} (bank : Bank width) {address : Nat}
    (hsingle : ∀ line < bank.lines, (bank.locate line).1 = address) (registers : Registers width)
    (word : BitVec width) (line : Nat) :
    bank.enabled (Function.update registers address word) line =
      (decide (line < bank.lines) && (word.getLsbD (bank.locate line).2 == bank.activeHigh)) := by
  unfold Bank.enabled
  by_cases hline : line < bank.lines
  · rw [hsingle line hline, Function.update_same]
  · simp [hline]

/-- A contract carries over to operations that agree with the contracted ones on every line
it covers. -/
theorem LineControl.of_agree {State : Type} {lines : Nat} {enabled : State → Nat → Bool}
    {frame : State → State → Prop} {enable disable enable' disable' : State → Nat → Option State}
    (hcontrol : LineControl lines enabled frame enable disable)
    (henable : ∀ line < lines, ∀ state, enable' state line = enable state line)
    (hdisable : ∀ line < lines, ∀ state, disable' state line = disable state line) :
    LineControl lines enabled frame enable' disable' where
  enable_exact line hline state := by
    simpa only [henable line hline] using hcontrol.enable_exact line hline state
  disable_exact line hline state := by
    simpa only [hdisable line hline] using hcontrol.disable_exact line hline state
  commute first hfirst second hsecond hne firstLevel secondLevel state := by
    have hcommute := hcontrol.commute first hfirst second hsecond hne firstLevel secondLevel state
    cases firstLevel <;> cases secondLevel <;>
      simpa only [Bool.false_eq_true, if_false, if_true, henable first hfirst,
        henable second hsecond, hdisable first hfirst, hdisable second hsecond] using hcommute

/-! ## Controllers with one enable word -/

namespace Loongarch64

/-- `init_pic`: write all ones to `HT_PIC_ENABLE`, masking every line. -/
def initPic (registers : Registers 32) : Registers 32 :=
  Function.update registers (htPicBase + htPicEnable) 0xFFFFFFFF

end Loongarch64

namespace Openrisc64

/-- `init_pic`: write `0` to `PIC_ENABLE`. -/
def initPic (registers : Registers 32) : Registers 32 :=
  Function.update registers (picBase + picEnable) 0

end Openrisc64

namespace Sparcv9

/-- `init_controller`: write `0` to the 64-bit `INTR_ENABLE`. -/
def initController (registers : Registers 64) : Registers 64 :=
  Function.update registers (intrControllerBase + intrEnable) 0

end Sparcv9

/-! ## The RISC-V PLIC -/

namespace Rv64i

/-- `PLIC_PRIORITY_BASE`: the offset the priority loop starts from. -/
def plicPriorityBase : Nat := 0x000004

/-- `PLIC_THRESHOLD`: the S-mode priority threshold. -/
def plicThreshold : Nat := 0x200000

/-- `Plic::init`: clear the enable word at `PLIC_BASE + PLIC_ENABLE_BASE`, set the threshold to
`0`, then `for irq in 1..256` write priority `1` at `PLIC_BASE + PLIC_PRIORITY_BASE + irq * 4`. -/
def Plic.init (memory : Registers 32) : Registers 32 :=
  let memory := Function.update memory (plicBase + plicEnableBase) 0
  let memory := Function.update memory (plicBase + plicThreshold) 0
  (List.range' 1 255).foldl
    (fun (memory : Registers 32) irq => Function.update memory (plicBase + plicPriorityBase + irq * 4) 1)
    memory

/-- The PLIC's priority register of source `source`: the word at `PLIC_BASE + 4 * source`. -/
def priority (memory : Registers 32) (source : Nat) : BitVec 32 := memory (plicBase + 4 * source)

open Classical in
/-- Every word `Plic.init` leaves: priority `1` where the loop wrote, `0` for the threshold and
the first enable word, and the old word elsewhere. -/
theorem Plic.init_apply (memory : Registers 32) (address : Nat) :
    Plic.init memory address =
      if ∃ source, 2 ≤ source ∧ source ≤ 256 ∧ address = plicBase + 4 * source then 1
      else if address = plicBase + plicThreshold ∨ address = plicBase + plicEnableBase then 0
      else memory address := by
  have hwindow : (∃ irq ∈ List.range' 1 255, plicBase + plicPriorityBase + irq * 4 = address) ↔
      ∃ source, 2 ≤ source ∧ source ≤ 256 ∧ address = plicBase + 4 * source := by
    simp only [List.mem_range'_1, plicPriorityBase]
    constructor
    · rintro ⟨irq, hirq, rfl⟩
      exact ⟨irq + 1, by omega, by omega, by omega⟩
    · rintro ⟨source, hlow, hhigh, rfl⟩
      exact ⟨source - 1, by omega, by omega⟩
  rw [Plic.init, foldl_update_apply, if_congr hwindow rfl rfl]
  split_ifs with hloop hthreshold
  · rfl
  · rcases hthreshold with rfl | rfl
    · exact Function.update_same _ _ _
    · rw [Function.update_noteq (by simp only [plicThreshold, plicEnableBase]; omega),
        Function.update_same]
  · rw [not_or] at hthreshold
    rw [Function.update_noteq hthreshold.1, Function.update_noteq hthreshold.2]

/-- From any register state, `Plic.init` disables sources 0 to 31 and leaves the enable bits of
sources 32 to 1023 as they were; it sets the threshold to `0`, the priority of sources 2 to 256
to `1`, and leaves the priority of source 1 as it was. -/
theorem Plic.init_disables_low_sources_and_shifts_priorities (memory : Registers 32) :
    (∀ source, bank.enabled (Plic.init memory) source =
      (decide (32 ≤ source) && bank.enabled memory source)) ∧
    Plic.init memory (plicBase + plicThreshold) = 0 ∧
    (∀ source, 2 ≤ source → source ≤ 256 → priority (Plic.init memory) source = 1) ∧
    priority (Plic.init memory) 1 = priority memory 1 := by
  refine ⟨fun source => ?_, ?_, fun source hlow hhigh => ?_, ?_⟩
  · by_cases hsource : source < 1024
    · simp only [Bank.enabled, bank, hsource, decide_True, Bool.true_and, Plic.init_apply,
        plicBase, plicEnableBase, plicThreshold]
      by_cases hlow : 32 ≤ source
      · rw [if_neg (by omega), if_neg (by omega)]
        simp [hlow]
      · rw [if_neg (by omega), if_pos (by omega)]
        simp [hlow]
    · simp [Bank.enabled, bank, hsource]
  · rw [Plic.init_apply, if_neg (by simp only [plicBase, plicThreshold]; omega), if_pos (by simp)]
  · rw [priority, Plic.init_apply, if_pos ⟨source, hlow, hhigh, rfl⟩]
  · rw [priority, priority, Plic.init_apply, if_neg (by omega),
      if_neg (by simp only [plicBase, plicThreshold, plicEnableBase]; omega)]

end Rv64i

/-! ## The GICv3 distributor -/

namespace Armv9

/-- `GicDistributor::CTLR`. -/
def ctlr : Nat := 0x000

/-- `GicDistributor::init`: clear `GICD_CTLR`, write all ones to `ICENABLER + i / 8` for `i` in
`(32..256).step_by(32)` (the seven values `32, 64, .., 224`), then set `GICD_CTLR` to `1`. -/
def GicDistributor.init (gic : GicDistributor) : GicDistributor :=
  let gic := writeReg gic ctlr 0
  let gic := (List.range' 32 7 32).foldl (fun gic i => writeReg gic (icenabler + i / 8) 0xFFFFFFFF) gic
  writeReg gic ctlr 1

theorem writeReg_ctlr (gic : GicDistributor) (value : BitVec 32) :
    writeReg gic ctlr value = { gic with registers := Function.update gic.registers ctlr value } := by
  simp [writeReg, ctlr, isenabler, icenabler]

/-- All ones written to a clear-enable register disables every id of that register. -/
theorem writeReg_icenabler_allOnes (gic : GicDistributor) {offset : Nat}
    (hoffset : icenabler ≤ offset ∧ offset < icenabler + 0x80) :
    writeReg gic offset 0xFFFFFFFF =
      { gic with enabled := fun id => gic.enabled id && !(id / 32 == (offset - icenabler) / 4) } := by
  have hnot : ¬ (isenabler ≤ offset ∧ offset < icenabler) := by
    simp only [isenabler, icenabler] at hoffset ⊢; omega
  simp only [writeReg, if_neg hnot, if_pos hoffset, GicDistributor.mk.injEq, and_true]
  funext id
  rw [getLsbD_allOnes_of_lt (Nat.mod_lt id (by decide)), Bool.and_true]

/-- The clear-enable loop of `init` keeps the plain registers and disables, for each loop
value `i`, the ids of register `i / 32`. -/
theorem foldl_icenabler (offsets : List Nat) (hoffsets : ∀ i ∈ offsets, i / 8 < 0x80)
    (gic : GicDistributor) :
    (offsets.foldl (fun gic i => writeReg gic (icenabler + i / 8) 0xFFFFFFFF) gic) =
      { gic with enabled := fun id => gic.enabled id && !(offsets.any fun i => id / 32 == i / 32) } := by
  induction offsets generalizing gic with
  | nil => simp
  | cons i rest ih =>
    rw [List.foldl_cons, writeReg_icenabler_allOnes gic (by have := hoffsets i (by simp); omega),
      ih (fun j hj => hoffsets j (List.mem_cons_of_mem i hj))]
    simp only [Nat.add_sub_cancel_left, Nat.div_div_eq_div_mul, List.any_cons,
      GicDistributor.mk.injEq, and_true]
    funext id
    rw [Bool.not_or, Bool.and_assoc]

/-- The loop values `32, 64, .., 224` reach exactly the registers of the ids 32 to 255. -/
theorem any_range_step_by (id : Nat) :
    ((List.range' 32 7 32).any fun i => id / 32 == i / 32) = decide (32 ≤ id ∧ id < 256) := by
  rw [Bool.eq_iff_iff, List.any_eq_true, decide_eq_true_iff]
  simp only [List.mem_range', beq_iff_eq]
  constructor
  · rintro ⟨i, ⟨step, hstep, rfl⟩, hword⟩
    omega
  · intro hid
    exact ⟨32 + 32 * (id / 32 - 1), ⟨id / 32 - 1, by omega, rfl⟩, by omega⟩

/-- From any distributor state, `init` disables exactly the ids 32 to 255, leaves the ids
below 32 and from 256 on as they were, and sets `GICD_CTLR` to `1` without touching any other
register. -/
theorem GicDistributor.init_disables_ids_32_to_255 (gic : GicDistributor) :
    (GicDistributor.init gic).registers = Function.update gic.registers ctlr 1 ∧
      ∀ id, (GicDistributor.init gic).enabled id = (gic.enabled id && !(32 ≤ id && id < 256)) := by
  have hoffsets : ∀ i ∈ List.range' 32 7 32, i / 8 < 0x80 := by
    intro i hi
    simp only [List.mem_range'] at hi
    omega
  simp only [GicDistributor.init, writeReg_ctlr, foldl_icenabler _ hoffsets, any_range_step_by,
    Function.update_idem, true_and]
  intro id
  simp [Bool.and_comm]

end Armv9

/-! ## The MPIC -/

namespace Powerpc64

/-- `MPIC_GLOBAL_ENABLE`. -/
def mpicGlobalEnable : Nat := 0x1000

/-- `init_pic`: the mask loop over `0..32` has an empty body; the only write sets the global
enable register to `1`. -/
def initPic (registers : Registers 32) : Registers 32 :=
  Function.update registers (mpicBase + mpicGlobalEnable) 1

end Powerpc64

/-! ## MIPS: the interrupt bits of CP0 Status -/

namespace Mips64

/-- `CP0_STATUS`. -/
def cp0Status : Nat := 12

/-- `STATUS_IE`: the global interrupt enable bit. -/
def statusIe : BitVec 64 := 0x1

/-- `init_interrupts`: clear IE and IM0 .. IM7, then set IM0 and IM1. -/
def initInterrupts (cp0 : Registers 64) : Registers 64 :=
  Function.update cp0 cp0Status
    (((cp0 cp0Status &&& ~~~statusIe) &&& ~~~statusImBase) ||| ((1 <<< 8) ||| (1 <<< 9)))

/-- `unmask_irq`: set bit `irq_line + 8` of Status; a line above 7 returns without a write. -/
def unmaskIrq (cp0 : Registers 64) (irqLine : Nat) : Option (Registers 64) :=
  if irqLine > 7 then some cp0 else modifyBit cp0 cp0Status (irqLine + 8) true

/-- `mask_irq`: clear bit `irq_line + 8` of Status; a line above 7 returns without a write. -/
def maskIrq (cp0 : Registers 64) (irqLine : Nat) : Option (Registers 64) :=
  if irqLine > 7 then some cp0 else modifyBit cp0 cp0Status (irqLine + 8) false

/-- The eight lines of the CPU, enabled when their IM bit of Status is set. -/
def bank : Bank 64 where
  lines := 8
  locate line := (cp0Status, line + 8)
  activeHigh := true
  bit_lt line h := by show line + 8 < 64; omega
  locate_injective _ _ _ _ h := by simpa using h

theorem unmaskIrq_of_lt {irqLine : Nat} (hline : irqLine < 8) (cp0 : Registers 64) :
    unmaskIrq cp0 irqLine = bank.switch cp0 irqLine true := by
  simp [unmaskIrq, Bank.switch, bank, Nat.not_lt.2 (Nat.le_of_lt_succ hline)]

theorem maskIrq_of_lt {irqLine : Nat} (hline : irqLine < 8) (cp0 : Registers 64) :
    maskIrq cp0 irqLine = bank.switch cp0 irqLine false := by
  simp [maskIrq, Bank.switch, bank, Nat.not_lt.2 (Nat.le_of_lt_succ hline)]

/-- The Status bits `init_interrupts` computes, bit by bit, for each value of the bit read. -/
theorem initInterrupts_bits :
    ∀ bit : Fin 64, ∀ read : Bool,
      ((read && !statusIe.getLsbD bit && !statusImBase.getLsbD bit) ||
          ((1 : BitVec 64) <<< 8 ||| (1 : BitVec 64) <<< 9).getLsbD bit) =
        (read && !decide (bit.val = 0 ∨ 8 ≤ bit.val ∧ bit.val < 16) ||
          decide (bit.val = 8 ∨ bit.val = 9)) := by
  decide

/-- `init_interrupts` clears IE and IM0 .. IM7, sets IM0 and IM1, and keeps every other bit. -/
theorem getLsbD_initInterrupts (cp0 : Registers 64) (bit : Nat) :
    (initInterrupts cp0 cp0Status).getLsbD bit =
      ((cp0 cp0Status).getLsbD bit && !decide (bit = 0 ∨ 8 ≤ bit ∧ bit < 16) ||
        decide (bit = 8 ∨ bit = 9)) := by
  rw [initInterrupts, Function.update_same]
  by_cases hbit : bit < 64
  · have hbits := initInterrupts_bits ⟨bit, hbit⟩ ((cp0 cp0Status).getLsbD bit)
    simp only [BitVec.getLsbD_or, BitVec.getLsbD_and, BitVec.getLsbD_not, hbit, decide_True,
      Bool.true_and] at hbits ⊢
    exact hbits
  · simp [BitVec.getLsbD_ge _ _ (Nat.le_of_not_lt hbit)]
    omega

/-- The MIPS line operations: below line 8, unmasking and masking switch exactly their IM bit
and commute; above 7 they return without writing. -/
theorem mask_unmask_exact :
    LineControl 8 bank.enabled bank.Frame unmaskIrq maskIrq ∧
      ∀ cp0 irqLine, 7 < irqLine → unmaskIrq cp0 irqLine = some cp0 ∧ maskIrq cp0 irqLine = some cp0 :=
  ⟨bank.lineControl.of_agree (fun _ hline cp0 => unmaskIrq_of_lt hline cp0)
      (fun _ hline cp0 => maskIrq_of_lt hline cp0),
    fun _ _ hline => ⟨if_pos hline, if_pos hline⟩⟩

end Mips64

/-- After its init routine, from any register state, no line of the HT-PIC, the OpenRISC PIC or
the SPARC controller is enabled, and of the MIPS lines exactly the software lines 0 and 1 are
unmasked, with the global enable IE cleared. -/
theorem init_disables_every_line (htPic openriscPic : Registers 32) (sparcRegisters cp0 : Registers 64) :
    (∀ line, Loongarch64.bank.enabled (Loongarch64.initPic htPic) line = false) ∧
      (∀ line, Openrisc64.bank.enabled (Openrisc64.initPic openriscPic) line = false) ∧
      (∀ line, Sparcv9.bank.enabled (Sparcv9.initController sparcRegisters) line = false) ∧
      (∀ line, Mips64.bank.enabled (Mips64.initInterrupts cp0) line = decide (line < 2)) ∧
      (Mips64.initInterrupts cp0 Mips64.cp0Status).getLsbD 0 = false := by
  refine ⟨fun line => ?_, fun line => ?_, fun line => ?_, fun line => ?_, ?_⟩
  · rw [Loongarch64.initPic, Bank.enabled_update_of_single _ (fun _ _ => rfl)]
    show (decide (line < 32) && ((0xFFFFFFFF : BitVec 32).getLsbD line == false)) = false
    by_cases hline : line < 32
    · rw [getLsbD_allOnes_of_lt hline]
      simp
    · simp [hline]
  · rw [Openrisc64.initPic, Bank.enabled_update_of_single _ (fun _ _ => rfl)]
    simp [Openrisc64.bank]
  · rw [Sparcv9.initController, Bank.enabled_update_of_single _ (fun _ _ => rfl)]
    simp [Sparcv9.bank]
  · simp only [Bank.enabled, Mips64.bank, Mips64.getLsbD_initInterrupts]
    by_cases hline : line < 8
    · have hmask : decide (line + 8 = 0 ∨ 8 ≤ line + 8 ∧ line + 8 < 16) = true :=
        decide_eq_true (by omega)
      have hsoft : decide (line + 8 = 8 ∨ line + 8 = 9) = decide (line < 2) :=
        decide_eq_decide.2 (by omega)
      rw [hmask, hsoft]
      simp [hline]
    · simp only [hline, decide_False, Bool.false_and]
      exact (decide_eq_false (by omega)).symm
  · rw [Mips64.getLsbD_initInterrupts]
    simp

end SahneKarnal.Arch.Interrupt
