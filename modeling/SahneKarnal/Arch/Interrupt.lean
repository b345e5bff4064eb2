import Mathlib.Logic.Function.Basic

/-!
# Enabling and masking interrupt lines

Every backend's interrupt driver turns single lines on and off. Five of them do it by a
read-modify-write of one bit of a device register: the LoongArch HT-PIC, the OpenRISC PIC
and the SPARC controller keep one enable (or mask) word, the RISC-V PLIC keeps 32 enable
words, and the x86-64 8259 pair keeps one mask byte per chip. The AArch64 GICv3
distributor is written instead through `GICD_ISENABLERn` and `GICD_ICENABLERn`, the
write-one-to-set and write-one-to-clear views of one enabled set.

The bit drivers share `modifyBit`; a `Bank` says where each line's bit lives and which
polarity means enabled, and `Bank.lineControl` proves once that switching a line of a bank
changes exactly that line and that switches of distinct lines commute. No driver checks its
line id: `1 << bit` beyond the word width is Rust's shift overflow, a panic in the model,
and a GIC id from 1024 on lands in `GICD_ICENABLERn`, so that enabling it disables a line.
-/

namespace SahneKarnal.Arch.Interrupt

/-- A bank of device registers: the `width`-bit word at each address. -/
abbrev Registers (width : Nat) := Nat → BitVec width

/-- Rust's `1 << bit` on a `width`-bit integer; `none` is the shift-overflow panic. -/
def shlOne (width bit : Nat) : Option (BitVec width) :=
  if bit < width then some (BitVec.ofNat width 1 <<< bit) else none

/-- The read-modify-write shared by the mask drivers: read the word at `address`, set its bit
`bit` (`register | (1 << bit)`) or clear it (`register & !(1 << bit)`), write it back. -/
def modifyBit {width : Nat} (registers : Registers width) (address bit : Nat) (set : Bool) :
    Option (Registers width) :=
  (shlOne width bit).map fun mask =>
    Function.update registers address
      (if set then registers address ||| mask else registers address &&& ~~~mask)

/-! ## Bit algebra -/

section Bits

variable {width : Nat}

theorem getLsbD_or_shiftLeft_one (word : BitVec width) {bit : Nat} (hbit : bit < width)
    (j : Nat) : (word ||| BitVec.ofNat width 1 <<< bit).getLsbD j = (word.getLsbD j || decide (j = bit)) := by
  by_cases h : j = bit
  · subst h; simp [hbit, show 0 < width by omega]
  · simp [h]
    intro _ _ h'; omega

theorem getLsbD_and_not_shiftLeft_one (word : BitVec width) {bit : Nat} (hbit : bit < width)
    (j : Nat) :
    (word &&& ~~~(BitVec.ofNat width 1 <<< bit)).getLsbD j = (word.getLsbD j && !decide (j = bit)) := by
  by_cases h : j = bit
  · subst h; simp [hbit, show 0 < width by omega]
  · simp [h]
    intro hw
    exact ⟨BitVec.lt_of_getLsbD hw, by omega⟩

/-- Within the word width, `modifyBit` succeeds, puts `set` into bit `bit` of the word at
`address`, and changes no other bit of any register. -/
theorem modifyBit_spec (registers : Registers width) (address : Nat) {bit : Nat}
    (hbit : bit < width) (set : Bool) :
    ∃ next, modifyBit registers address bit set = some next ∧
      ∀ other j, (next other).getLsbD j =
        if other = address ∧ j = bit then set else (registers other).getLsbD j := by
  refine ⟨_, by simp [modifyBit, shlOne, hbit]; rfl, fun other j => ?_⟩
  by_cases haddr : other = address
  · subst haddr
    cases set <;> by_cases hj : j = bit <;>
      simp [hj, getLsbD_or_shiftLeft_one _ hbit, getLsbD_and_not_shiftLeft_one _ hbit]
  · simp [Function.update_noteq haddr, haddr]

/-- `modifyBit` changes only the register it writes. -/
theorem modifyBit_frame {registers next : Registers width} {address bit : Nat} {set : Bool}
    (h : modifyBit registers address bit set = some next) {other : Nat} (hother : other ≠ address) :
    next other = registers other := by
  simp only [modifyBit, Option.map_eq_some'] at h
  obtain ⟨_, -, rfl⟩ := h
  exact Function.update_noteq hother _ _

/-- Two bit updates at distinct positions commute. -/
theorem modifyBit_comm (registers : Registers width) {firstAddress firstBit secondAddress
    secondBit : Nat} (hfirst : firstBit < width) (hsecond : secondBit < width)
    (hne : (firstAddress, firstBit) ≠ (secondAddress, secondBit)) (firstSet secondSet : Bool) :
    (modifyBit registers firstAddress firstBit firstSet >>= fun r =>
      modifyBit r secondAddress secondBit secondSet) =
    (modifyBit registers secondAddress secondBit secondSet >>= fun r =>
      modifyBit r firstAddress firstBit firstSet) := by
  obtain ⟨r1, hr1, hs1⟩ := modifyBit_spec registers firstAddress hfirst firstSet
  obtain ⟨r12, hr12, hs12⟩ := modifyBit_spec r1 secondAddress hsecond secondSet
  obtain ⟨r2, hr2, hs2⟩ := modifyBit_spec registers secondAddress hsecond secondSet
  obtain ⟨r21, hr21, hs21⟩ := modifyBit_spec r2 firstAddress hfirst firstSet
  simp only [hr1, hr2, Option.bind_eq_bind, Option.some_bind, hr12, hr21, Option.some.injEq]
  funext address
  ext j
  rw [hs12, hs1, hs21, hs2]
  by_cases e1 : address = firstAddress ∧ j.val = firstBit <;>
    by_cases e2 : address = secondAddress ∧ j.val = secondBit
  · exact absurd (by rw [← e1.1, ← e1.2, ← e2.1, ← e2.2]) hne
  · simp only [if_pos e1, if_neg e2]
  · simp only [if_neg e1, if_pos e2]
  · simp only [if_neg e1, if_neg e2]

end Bits

/-! ## The contract of an enable and a disable operation -/

section Contract

variable {State : Type}

/-- `operation` does not panic, turns line `line` to `level`, leaves the enable state of every
other line as it was, and keeps `frame`. -/
def SwitchesExactly (enabled : State → Nat → Bool) (frame : State → State → Prop)
    (operation : State → Option State) (line : Nat) (level : Bool) : Prop :=
  ∀ state, ∃ next, operation state = some next ∧
    (∀ other, enabled next other = if other = line then level else enabled state other) ∧
    frame state next

/-- The contract of a controller's enable and disable operations on its lines `0 .. lines`:
each switches exactly its line, and switches of distinct lines commute. -/
structure LineControl (lines : Nat) (enabled : State → Nat → Bool)
    (frame : State → State → Prop) (enable disable : State → Nat → Option State) : Prop where
  enable_exact : ∀ line < lines, SwitchesExactly enabled frame (enable · line) line true
  disable_exact : ∀ line < lines, SwitchesExactly enabled frame (disable · line) line false
  commute : ∀ first < lines, ∀ second < lines, first ≠ second → ∀ (firstLevel secondLevel : Bool) state,
    ((if firstLevel then enable else disable) state first >>= fun s =>
        (if secondLevel then enable else disable) s second) =
      ((if secondLevel then enable else disable) state second >>= fun s =>
        (if firstLevel then enable else disable) s first)

variable {lines : Nat} {enabled : State → Nat → Bool} {frame : State → State → Prop}
  {enable disable : State → Nat → Option State}

/-- `enable(i); disable(i)` sets and then clears line `i` rather than toggling it: neither call
panics, line `i` ends disabled whatever its state before, and every other line is as it was. -/
def EnableThenDisableClears (lines : Nat) (enabled : State → Nat → Bool)
    (enable disable : State → Nat → Option State) : Prop :=
  ∀ line < lines, ∀ state, ∃ middle next, enable state line = some middle ∧
    disable middle line = some next ∧ enabled next line = false ∧
    ∀ other ≠ line, enabled next other = enabled state other

theorem LineControl.enableThenDisableClears
    (hcontrol : LineControl lines enabled frame enable disable) :
    EnableThenDisableClears lines enabled enable disable := fun line hline state => by
  obtain ⟨middle, hmiddle, hon, -⟩ := hcontrol.enable_exact line hline state
  obtain ⟨next, hnext, hoff, -⟩ := hcontrol.disable_exact line hline middle
  refine ⟨middle, next, hmiddle, hnext, by simp [hoff], fun other hother => ?_⟩
  rw [hoff, if_neg hother, hon, if_neg hother]

/-- The contract together with its enable-then-disable consequence. -/
theorem LineControl.and_enableThenDisableClears
    (hcontrol : LineControl lines enabled frame enable disable) :
    LineControl lines enabled frame enable disable ∧
      EnableThenDisableClears lines enabled enable disable :=
  ⟨hcontrol, hcontrol.enableThenDisableClears⟩

end Contract

/-! ## Banks of line bits -/

/-- Where a bit-driven controller keeps its lines: line `line < lines` is bit
`(locate line).2` of the register at `(locate line).1`, and is enabled when that bit equals
`activeHigh`. -/
structure Bank (width : Nat) where
  lines : Nat
  locate : Nat → Nat × Nat
  activeHigh : Bool
  bit_lt : ∀ line < lines, (locate line).2 < width
  locate_injective : ∀ first < lines, ∀ second < lines, locate first = locate second →
    first = second

namespace Bank

variable {width : Nat} (bank : Bank width)

/-- Whether line `line` is enabled. -/
def enabled (registers : Registers width) (line : Nat) : Bool :=
  decide (line < bank.lines) &&
    ((registers (bank.locate line).1).getLsbD (bank.locate line).2 == bank.activeHigh)

/-- The registers of the enable/mask block. -/
def block (address : Nat) : Prop := ∃ line < bank.lines, (bank.locate line).1 = address

/-- Every register outside the enable/mask block is as it was. -/
def Frame (registers next : Registers width) : Prop :=
  ∀ address, ¬ bank.block address → next address = registers address

/-- Turn line `line` to `level` by one read-modify-write of its bit. -/
def switch (registers : Registers width) (line : Nat) (level : Bool) : Option (Registers width) :=
  modifyBit registers (bank.locate line).1 (bank.locate line).2 (level == bank.activeHigh)

theorem switch_exact {line : Nat} (hline : line < bank.lines) (level : Bool) :
    SwitchesExactly bank.enabled bank.Frame (bank.switch · line level) line level := by
  intro registers
  obtain ⟨next, hnext, hbits⟩ := modifyBit_spec registers (bank.locate line).1
    (bank.bit_lt line hline) (level == bank.activeHigh)
  refine ⟨next, hnext, fun other => ?_, fun address haddress => modifyBit_frame hnext
    fun h => haddress ⟨line, hline, h.symm⟩⟩
  by_cases hother : other = line
  · subst hother
    cases level <;> cases bank.activeHigh <;> simp [enabled, hline, hbits]
  · have hloc : other < bank.lines → bank.locate other ≠ bank.locate line :=
      fun hlt heq => hother (bank.locate_injective other hlt line hline heq)
    by_cases hlt : other < bank.lines
    · have hpos : ¬ ((bank.locate other).1 = (bank.locate line).1 ∧
          (bank.locate other).2 = (bank.locate line).2) :=
        fun h => hloc hlt (Prod.ext h.1 h.2)
      simp [enabled, hother, hbits, hpos]
    · simp [enabled, hother, hlt]

/-- Every bank meets the contract, with the registers outside its block as the frame. -/
theorem lineControl :
    LineControl bank.lines bank.enabled bank.Frame (bank.switch · · true) (bank.switch · · false) where
  enable_exact _ hline := bank.switch_exact hline true
  disable_exact _ hline := bank.switch_exact hline false
  commute first hfirst second hsecond hne firstLevel secondLevel registers := by
    have hloc : bank.locate first ≠ bank.locate second :=
      fun h => hne (bank.locate_injective first hfirst second hsecond h)
    cases firstLevel <;> cases secondLevel <;>
      exact modifyBit_comm registers (bank.bit_lt first hfirst) (bank.bit_lt second hsecond)
        hloc _ _

end Bank

/-! ## The bit drivers -/

namespace Loongarch64

/-- `HT_PIC_BASE`. -/
def htPicBase : Nat := 0x10000000

/-- `HT_PIC_ENABLE`: the mask register, where a set bit masks its line. -/
def htPicEnable : Nat := 0x0

/-- `mask_irq`: `enable_reg | (1 << irq_line)`. -/
def maskIrq (registers : Registers 32) (irqLine : Nat) : Option (Registers 32) :=
  modifyBit registers (htPicBase + htPicEnable) irqLine true

/-- `unmask_irq`: `enable_reg & !(1 << irq_line)`. -/
def unmaskIrq (registers : Registers 32) (irqLine : Nat) : Option (Registers 32) :=
  modifyBit registers (htPicBase + htPicEnable) irqLine false

/-- The 32 lines of the HT-PIC, enabled when their mask bit is clear. -/
def bank : Bank 32 where
  lines := 32
  locate line := (htPicBase + htPicEnable, line)
  activeHigh := false
  bit_lt _ h := h
  locate_injective _ _ _ _ h := (Prod.mk.inj h).2

theorem unmaskIrq_eq : unmaskIrq = (bank.switch · · true) := rfl

theorem maskIrq_eq : maskIrq = (bank.switch · · false) := rfl

end Loongarch64

namespace Openrisc64

/-- `PIC_BASE`. -/
def picBase : Nat := 0x90001000

/-- `PIC_ENABLE`: the enable register, where a set bit enables its line. -/
def picEnable : Nat := 0x0

/-- `mask_irq`: `enable_reg & !(1 << irq_line)`. -/
def maskIrq (registers : Registers 32) (irqLine : Nat) : Option (Registers 32) :=
  modifyBit registers (picBase + picEnable) irqLine false

/-- `unmask_irq`: `enable_reg | (1 << irq_line)`. -/
def unmaskIrq (registers : Registers 32) (irqLine : Nat) : Option (Registers 32) :=
  modifyBit registers (picBase + picEnable) irqLine true

/-- The 32 lines of the OpenRISC PIC, enabled when their bit is set. -/
def bank : Bank 32 where
  lines := 32
  locate line := (picBase + picEnable, line)
  activeHigh := true
  bit_lt _ h := h
  locate_injective _ _ _ _ h := (Prod.mk.inj h).2

theorem unmaskIrq_eq : unmaskIrq = (bank.switch · · true) := rfl

theorem maskIrq_eq : maskIrq = (bank.switch · · false) := rfl

end Openrisc64

namespace Sparcv9

/-- `INTR_CONTROLLER_BASE`. -/
def intrControllerBase : Nat := 0xF0000000

/-- `INTR_ENABLE`: the 64-bit enable register, where a set bit enables its line. -/
def intrEnable : Nat := 0x0

/-- `mask_irq`: `enable_reg & !(1 << irq_line)` on a `u64`. -/
def maskIrq (registers : Registers 64) (irqLine : Nat) : Option (Registers 64) :=
  modifyBit registers (intrControllerBase + intrEnable) irqLine false

/-- `unmask_irq`: `enable_reg | (1 << irq_line)` on a `u64`. -/
def unmaskIrq (registers : Registers 64) (irqLine : Nat) : Option (Registers 64) :=
  modifyBit registers (intrControllerBase + intrEnable) irqLine true

/-- The 64 lines of the SPARC controller, enabled when their bit is set. -/
def bank : Bank 64 where
  lines := 64
  locate line := (intrControllerBase + intrEnable, line)
  activeHigh := true
  bit_lt _ h := h
  locate_injective _ _ _ _ h := (Prod.mk.inj h).2

theorem unmaskIrq_eq : unmaskIrq = (bank.switch · · true) := rfl

theorem maskIrq_eq : maskIrq = (bank.switch · · false) := rfl

end Sparcv9

namespace Rv64i

/-- `PLIC_BASE`. -/
def plicBase : Nat := 0xC000000

/-- `PLIC_ENABLE_BASE`: the first S-mode enable word. -/
def plicEnableBase : Nat := 0x2000

/-- `Plic::enable_irq`: set bit `irq_id % 32` of enable word `irq_id / 32`. -/
def enableIrq (memory : Registers 32) (irqId : Nat) : Option (Registers 32) :=
  modifyBit memory (plicBase + plicEnableBase + (irqId / 32) * 4) (irqId % 32) true

/-- `Plic::disable_irq`: clear bit `irq_id % 32` of enable word `irq_id / 32`. -/
def disableIrq (memory : Registers 32) (irqId : Nat) : Option (Registers 32) :=
  modifyBit memory (plicBase + plicEnableBase + (irqId / 32) * 4) (irqId % 32) false

/-- The 1024 sources of the PLIC, one bit each in 32 enable words. -/
def bank : Bank 32 where
  lines := 1024
  locate line := (plicBase + plicEnableBase + (line / 32) * 4, line % 32)
  activeHigh := true
  bit_lt _ _ := Nat.mod_lt _ (by decide)
  locate_injective first _ second _ h := by
    obtain ⟨haddress, hbit⟩ := Prod.mk.inj h
    have hword : first / 32 = second / 32 := by omega
    rw [← Nat.div_add_mod first 32, ← Nat.div_add_mod second 32, hword, hbit]

theorem enableIrq_eq : enableIrq = (bank.switch · · true) := rfl

theorem disableIrq_eq : disableIrq = (bank.switch · · false) := rfl

end Rv64i

namespace Amd64

/-- `PIC1_DATA`: the master 8259's mask port. -/
def pic1Data : Nat := 0x21

/-- `PIC2_DATA`: the slave 8259's mask port. -/
def pic2Data : Nat := 0xA1

/-- `mask_irq`: set the line's bit in the master (lines 0-7) or slave (8-15) mask byte. -/
def maskIrq (ports : Registers 8) (irqLine : Nat) : Option (Registers 8) :=
  if irqLine < 8 then modifyBit ports pic1Data irqLine true
  else modifyBit ports pic2Data (irqLine - 8) true

/-- `unmask_irq`: clear the line's bit in the master or slave mask byte. -/
def unmaskIrq (ports : Registers 8) (irqLine : Nat) : Option (Registers 8) :=
  if irqLine < 8 then modifyBit ports pic1Data irqLine false
  else modifyBit ports pic2Data (irqLine - 8) false

/-- The 16 lines of the cascaded 8259 pair, enabled when their mask bit is clear. -/
def bank : Bank 8 where
  lines := 16
  locate line := if line < 8 then (pic1Data, line) else (pic2Data, line - 8)
  activeHigh := false
  bit_lt line hline := by dsimp only; split <;> omega
  locate_injective first _ second _ h := by
    dsimp only at h
    split at h <;> split at h <;> simp only [Prod.mk.injEq, pic1Data, pic2Data] at h <;> omega

theorem unmaskIrq_eq : unmaskIrq = (bank.switch · · true) := by
  funext ports irqLine
  simp only [unmaskIrq, Bank.switch, bank]
  split <;> rfl

theorem maskIrq_eq : maskIrq = (bank.switch · · false) := by
  funext ports irqLine
  simp only [maskIrq, Bank.switch, bank]
  split <;> rfl

end Amd64

/-! ## The GICv3 distributor -/

namespace Armv9

/-- `GicDistributor::ISENABLER`: the first set-enable register. -/
def isenabler : Nat := 0x100

/-- `GicDistributor::ICENABLER`: the first clear-enable register. -/
def icenabler : Nat := 0x180

/-- The distributor as the driver sees it, by offset from `GICD_BASE`: one enabled set of
interrupt ids, of which `GICD_ISENABLERn` and `GICD_ICENABLERn` are views, and every other
register as a plain word. -/
structure GicDistributor where
  enabled : Nat → Bool
  registers : Nat → BitVec 32

/-- `GicDistributor::write_reg`. A write to `GICD_ISENABLERn` (offsets `0x100 .. 0x180`)
enables, and one to `GICD_ICENABLERn` (offsets `0x180 .. 0x200`) disables, the ids
`32 n + k` for the set bits `k` of the value; other offsets store the value. -/
def writeReg (gic : GicDistributor) (offset : Nat) (value : BitVec 32) : GicDistributor :=
  if isenabler ≤ offset ∧ offset < icenabler then
    { gic with enabled := fun id =>
        gic.enabled id || (id / 32 == (offset - isenabler) / 4 && value.getLsbD (id % 32)) }
  else if icenabler ≤ offset ∧ offset < icenabler + 0x80 then
    { gic with enabled := fun id =>
        gic.enabled id && !(id / 32 == (offset - icenabler) / 4 && value.getLsbD (id % 32)) }
  else { gic with registers := Function.update gic.registers offset value }

/-- `GicDistributor::enable_irq`: write `1 << (irq_id % 32)` to `ISENABLER + (irq_id / 32) * 4`. -/
def enableIrq (gic : GicDistributor) (irqId : Nat) : Option GicDistributor :=
  (shlOne 32 (irqId % 32)).map (writeReg gic (isenabler + (irqId / 32) * 4))

/-- `GicDistributor::disable_irq`: write `1 << (irq_id % 32)` to `ICENABLER + (irq_id / 32) * 4`. -/
def disableIrq (gic : GicDistributor) (irqId : Nat) : Option GicDistributor :=
  (shlOne 32 (irqId % 32)).map (writeReg gic (icenabler + (irqId / 32) * 4))

/-- Whether id `id` is enabled; the 32 enable registers cover the ids below 1024. -/
def lineEnabled (gic : GicDistributor) (id : Nat) : Bool := decide (id < 1024) && gic.enabled id

theorem getLsbD_one_shiftLeft {bit : Nat} (hbit : bit < 32) (j : Nat) :
    (1#32 <<< bit).getLsbD j = decide (j = bit) := by
  simpa using getLsbD_or_shiftLeft_one 0#32 hbit j

/-- Among the ids of one 32-bit register, bit `id % 32` picks out `id` alone. -/
theorem register_bit_iff {id other : Nat} :
    (other / 32 = id / 32 ∧ other % 32 = id % 32) ↔ other = id :=
  ⟨fun ⟨hword, hbit⟩ => by rw [← Nat.div_add_mod other 32, hword, hbit, Nat.div_add_mod],
    fun h => h ▸ ⟨rfl, rfl⟩⟩

theorem enableIrq_of_lt (gic : GicDistributor) {irqId : Nat} (h : irqId < 1024) :
    enableIrq gic irqId = some { gic with enabled := Function.update gic.enabled irqId true } := by
  have hbit : irqId % 32 < 32 := Nat.mod_lt _ (by decide)
  have hrange : isenabler ≤ isenabler + irqId / 32 * 4 ∧ isenabler + irqId / 32 * 4 < icenabler := by
    simp only [isenabler, icenabler]; omega
  simp only [enableIrq, shlOne, hbit, if_true, Option.map_some', writeReg, if_pos hrange,
    Nat.add_sub_cancel_left, Nat.mul_div_cancel _ (by decide : 0 < 4), Option.some.injEq,
    GicDistributor.mk.injEq, and_true]
  funext other
  by_cases hother : other = irqId
  · subst hother; simp [getLsbD_one_shiftLeft hbit]
  · simp only [Function.update_noteq hother, getLsbD_one_shiftLeft hbit]
    by_cases hword : other / 32 = irqId / 32
    · have hbit' : other % 32 ≠ irqId % 32 := fun hb => hother (register_bit_iff.1 ⟨hword, hb⟩)
      simp [hword, hbit']
    · simp [hword]

theorem disableIrq_of_lt (gic : GicDistributor) {irqId : Nat} (h : irqId < 1024) :
    disableIrq gic irqId =
      some { gic with enabled := Function.update gic.enabled irqId false } := by
  have hbit : irqId % 32 < 32 := Nat.mod_lt _ (by decide)
  have hnot : ¬ (isenabler ≤ icenabler + irqId / 32 * 4 ∧
      icenabler + irqId / 32 * 4 < icenabler) := by omega
  have hrange : icenabler ≤ icenabler + irqId / 32 * 4 ∧
      icenabler + irqId / 32 * 4 < icenabler + 0x80 := by simp only [icenabler]; omega
  simp only [disableIrq, shlOne, hbit, if_true, Option.map_some', writeReg, if_neg hnot,
    if_pos hrange, Nat.add_sub_cancel_left, Nat.mul_div_cancel _ (by decide : 0 < 4),
    Option.some.injEq, GicDistributor.mk.injEq, and_true]
  funext other
  by_cases hother : other = irqId
  · subst hother; simp [getLsbD_one_shiftLeft hbit]
  · simp only [Function.update_noteq hother, getLsbD_one_shiftLeft hbit]
    by_cases hword : other / 32 = irqId / 32
    · have hbit' : other % 32 ≠ irqId % 32 := fun hb => hother (register_bit_iff.1 ⟨hword, hb⟩)
      simp [hword, hbit']
    · simp [hword]

/-- The GIC distributor meets the contract on ids below 1024, touching no register outside
its enable views. -/
theorem lineControl :
    LineControl 1024 lineEnabled (fun gic next => next.registers = gic.registers)
      enableIrq disableIrq where
  enable_exact line hline gic := ⟨_, enableIrq_of_lt gic hline, fun other => by
    rcases eq_or_ne other line with rfl | h <;> simp [lineEnabled, hline, *], rfl⟩
  disable_exact line hline gic := ⟨_, disableIrq_of_lt gic hline, fun other => by
    rcases eq_or_ne other line with rfl | h <;> simp [lineEnabled, *], rfl⟩
  commute first hfirst second hsecond hne firstLevel secondLevel gic := by
    cases firstLevel <;> cases secondLevel <;>
      simp [enableIrq_of_lt _ hfirst, enableIrq_of_lt _ hsecond, disableIrq_of_lt _ hfirst,
        disableIrq_of_lt _ hsecond, Function.update_comm hne]

/-- `enable_irq(1024)` writes bit 0 of `GICD_ICENABLER0`: it disables line 0 instead of
leaving the distributor alone. And `enable_irq(0); disable_irq(0)` on a PLIC whose line 0
was enabled leaves it disabled. -/
theorem gic_1024_disables_line_0_and_plic_toggle_clears :
    lineEnabled ⟨fun _ => true, fun _ => 0⟩ 0 = true ∧
      (enableIrq ⟨fun _ => true, fun _ => 0⟩ 1024).map (lineEnabled · 0) = some false ∧
      Rv64i.bank.enabled (fun _ => 1) 0 = true ∧
      (Rv64i.enableIrq (fun _ => 1) 0 >>= fun memory =>
        Rv64i.disableIrq memory 0).map (Rv64i.bank.enabled · 0) = some false :=
  ⟨rfl, rfl, rfl, rfl⟩

end Armv9

/-- Every interrupt driver switches exactly the line it is given, for each line the
controller has: the GIC distributor and the PLIC for ids below 1024, the HT-PIC and the
OpenRISC PIC below 32, the SPARC controller below 64, and the 8259 pair below 16. Enabling
(unmasking) adds exactly that line to the enabled set and disabling (masking) removes
exactly it, neither panics, no other line and no register outside the enable/mask block
changes, and operations on distinct lines commute. So an enable followed by a disable of the
same line leaves it disabled and every other line as it was. -/
theorem irq_enable_disable_exact :
    (LineControl 1024 Armv9.lineEnabled (fun gic next => next.registers = gic.registers)
        Armv9.enableIrq Armv9.disableIrq ∧
      EnableThenDisableClears 1024 Armv9.lineEnabled Armv9.enableIrq Armv9.disableIrq) ∧
    (LineControl 1024 Rv64i.bank.enabled Rv64i.bank.Frame Rv64i.enableIrq Rv64i.disableIrq ∧
      EnableThenDisableClears 1024 Rv64i.bank.enabled Rv64i.enableIrq Rv64i.disableIrq) ∧
    (LineControl 32 Loongarch64.bank.enabled Loongarch64.bank.Frame
        Loongarch64.unmaskIrq Loongarch64.maskIrq ∧
      EnableThenDisableClears 32 Loongarch64.bank.enabled
        Loongarch64.unmaskIrq Loongarch64.maskIrq) ∧
    (LineControl 32 Openrisc64.bank.enabled Openrisc64.bank.Frame
        Openrisc64.unmaskIrq Openrisc64.maskIrq ∧
      EnableThenDisableClears 32 Openrisc64.bank.enabled
        Openrisc64.unmaskIrq Openrisc64.maskIrq) ∧
    (LineControl 64 Sparcv9.bank.enabled Sparcv9.bank.Frame Sparcv9.unmaskIrq Sparcv9.maskIrq ∧
      EnableThenDisableClears 64 Sparcv9.bank.enabled Sparcv9.unmaskIrq Sparcv9.maskIrq) ∧
    (LineControl 16 Amd64.bank.enabled Amd64.bank.Frame Amd64.unmaskIrq Amd64.maskIrq ∧
      EnableThenDisableClears 16 Amd64.bank.enabled Amd64.unmaskIrq Amd64.maskIrq) := by
  refine ⟨Armv9.lineControl.and_enableThenDisableClears, ?_, ?_, ?_, ?_, ?_⟩
  · rw [Rv64i.enableIrq_eq, Rv64i.disableIrq_eq]
    exact Rv64i.bank.lineControl.and_enableThenDisableClears
  · rw [Loongarch64.unmaskIrq_eq, Loongarch64.maskIrq_eq]
    exact Loongarch64.bank.lineControl.and_enableThenDisableClears
  · rw [Openrisc64.unmaskIrq_eq, Openrisc64.maskIrq_eq]
    exact Openrisc64.bank.lineControl.and_enableThenDisableClears
  · rw [Sparcv9.unmaskIrq_eq, Sparcv9.maskIrq_eq]
    exact Sparcv9.bank.lineControl.and_enableThenDisableClears
  · rw [Amd64.unmaskIrq_eq, Amd64.maskIrq_eq]
    exact Amd64.bank.lineControl.and_enableThenDisableClears

end SahneKarnal.Arch.Interrupt
