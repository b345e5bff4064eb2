import SahneKarnal.Arch.Interrupt

/-!
# The x86-64 driver against the cascaded 8259A pair

The x86-64 backend drives two 8259A controllers through port I/O. `init_pic` sends each chip the
initialization sequence ICW1 .. ICW4 and then its mask. `mask_irq` / `unmask_irq` read and
rewrite a mask byte. `send_eoi` sends the non-specific EOI command to the slave and then to the
master. The `LineControl` results of `Interrupt.lean` (`Bank.lineControl` for `Amd64.bank`)
read the data ports as plain registers. This module gives the chips their own semantics instead,
and checks the driver against them.

The device follows the 8259A data sheet.
* A write to the command port with bit 4 set is ICW1. It starts the initialization sequence,
  clears the mask, resets the priorities, selects the IRR for status reads and ends special
  mask mode.
* Data-port writes are then taken as ICW2 (the vector base), ICW3 in cascade mode, and ICW4
  when ICW1 asked for it. Once the chip is ready, a data-port write is OCW1, the mask.
* A command-port write with bits 4 and 3 clear is OCW2 (EOI and priority commands); with bit 3
  set it is OCW3.
* In 8086 mode an acknowledged level is answered with the vector `ICW2 & 0xF8 | level`.
* On the PC board the slave's request line is the master's IR2.

Main results:
* `init_pic_configures_pair`: from any state of the pair, `init_pic` leaves both chips ready,
  with vector bases 32 and 40, the slave on IR2 with id 2, 8086 mode, normal EOI and fixed
  priorities. All lines are masked except the cascade input. The masks it reads first are
  never used.
* `mask_ops_refine_enabled_set`: after `init_pic`, any sequence of `mask_irq` / `unmask_irq`
  calls on lines other than the cascade input leaves the pair delivering exactly the lines
  last unmasked, line `n` as vector `32 + n`.
* `send_eoi_after_acknowledge`: when line `n` is acknowledged while nothing of its priority or
  above is in service, `send_eoi(32 + n)` returns both chips to the state before the
  acknowledge.
* `mask_cascade_cuts_slave`: `mask_irq(2)` masks the master's IR2, which silences the eight
  slave lines as well.
-/

namespace SahneKarnal.Arch.Interrupt.Amd64

/-! ## One 8259A -/

/-- The word the chip takes its next data-port write as. -/
inductive Expect where
  | icw2
  | icw3
  | icw4
  | ready
  deriving DecidableEq, Repr

/-- The state of one 8259A: where the initialization sequence stands, the initialization words
received, the mask (IMR) and in-service (ISR) registers, the level of highest priority, and the
modes OCW2 and OCW3 select. -/
structure Pic8259 where
  expect : Expect
  icw1 : BitVec 8
  icw2 : BitVec 8
  icw3 : BitVec 8
  icw4 : BitVec 8
  imr : BitVec 8
  isr : BitVec 8
  priorityAdd : Fin 8
  readIsr : Bool
  specialMask : Bool
  rotateOnAutoEoi : Bool
  deriving DecidableEq

namespace Pic8259

/-- The first in-service level among `count` levels from `level` on, in falling priority. -/
def firstInService (isr : BitVec 8) (level : Fin 8) : Nat → Option (Fin 8)
  | 0 => none
  | count + 1 => if isr.getLsbD level then some level else firstInService isr (level + 1) count

/-- The in-service level of highest priority. -/
def highestInService (chip : Pic8259) : Option (Fin 8) :=
  firstInService chip.isr chip.priorityAdd 8

/-- Take level `level` out of service. -/
def clearInService (chip : Pic8259) (level : Fin 8) : Pic8259 :=
  { chip with isr := chip.isr &&& ~~~(BitVec.ofNat 8 1 <<< level.val) }

/-- The non-specific EOI: take the in-service level of highest priority out of service; with
`rotate`, make it the level of lowest priority. -/
def nonSpecificEoi (chip : Pic8259) (rotate : Bool) : Pic8259 :=
  match chip.highestInService with
  | none => chip
  | some level =>
      if rotate then { chip.clearInService level with priorityAdd := level + 1 }
      else chip.clearInService level

/-- OCW2: the command in bits 7 .. 5 on the level in bits 2 .. 0. -/
def writeOcw2 (chip : Pic8259) (value : BitVec 8) : Pic8259 :=
  let level : Fin 8 := ⟨(value &&& 7).toNat % 8, Nat.mod_lt _ (by decide)⟩
  match (value >>> 5).toNat with
  | 0 => { chip with rotateOnAutoEoi := false }
  | 1 => chip.nonSpecificEoi false
  | 3 => chip.clearInService level
  | 4 => { chip with rotateOnAutoEoi := true }
  | 5 => chip.nonSpecificEoi true
  | 6 => { chip with priorityAdd := level + 1 }
  | 7 => { chip.clearInService level with priorityAdd := level + 1 }
  | _ => chip

/-- OCW3: bit 1 enables the register select of bit 0 (ISR or IRR), bit 6 enables the special
mask mode setting of bit 5. The poll command is not modelled. -/
def writeOcw3 (chip : Pic8259) (value : BitVec 8) : Pic8259 :=
  { chip with
    readIsr := if value.getLsbD 1 then value.getLsbD 0 else chip.readIsr
    specialMask := if value.getLsbD 6 then value.getLsbD 5 else chip.specialMask }

/-- A write to the command port (A0 = 0): ICW1 when bit 4 is set, else OCW3 when bit 3 is set,
else OCW2. ICW1 clears the mask, gives IR0 the highest priority, selects the IRR, ends special
mask mode, and without IC4 (bit 0) clears the ICW4 functions. -/
def writeCommand (chip : Pic8259) (value : BitVec 8) : Pic8259 :=
  if value.getLsbD 4 then
    { chip with
      expect := .icw2, icw1 := value, imr := 0, priorityAdd := 0, readIsr := false,
      specialMask := false, icw4 := if value.getLsbD 0 then chip.icw4 else 0 }
  else if value.getLsbD 3 then chip.writeOcw3 value
  else chip.writeOcw2 value

/-- A write to the data port (A0 = 1): the next initialization word (ICW3 only in cascade mode,
ICW1 bit 1 clear; ICW4 only when ICW1 bit 0 asked for it), or OCW1, the mask, once ready. -/
def writeData (chip : Pic8259) (value : BitVec 8) : Pic8259 :=
  match chip.expect with
  | .icw2 =>
      { chip with
        icw2 := value
        expect := if !chip.icw1.getLsbD 1 then .icw3 else if chip.icw1.getLsbD 0 then .icw4
          else .ready }
  | .icw3 => { chip with icw3 := value, expect := if chip.icw1.getLsbD 0 then .icw4 else .ready }
  | .icw4 => { chip with icw4 := value, expect := .ready }
  | .ready => { chip with imr := value }

/-- The second INTA cycle for level `level`: the level goes into service, except in automatic
EOI mode (ICW4 bit 1), where with rotation it becomes the level of lowest priority. -/
def acknowledge (chip : Pic8259) (level : Fin 8) : Pic8259 :=
  if chip.icw4.getLsbD 1 then
    if chip.rotateOnAutoEoi then { chip with priorityAdd := level + 1 } else chip
  else { chip with isr := chip.isr ||| BitVec.ofNat 8 1 <<< level.val }

/-- The vector the chip answers level `level` with: `ICW2 & 0xF8 | level` in 8086 mode (ICW4
bit 0); in MCS-80/85 mode it sends a CALL instruction instead. -/
def vectorOf (chip : Pic8259) (level : Fin 8) : Option (BitVec 8) :=
  if chip.icw4.getLsbD 0 then some ((chip.icw2 &&& 0xF8) ||| BitVec.ofNat 8 level.val) else none

end Pic8259

/-! ## The cascaded pair on the PC board -/

/-- `PIC1_COMMAND`. -/
def pic1Command : Nat := 0x20

/-- `PIC2_COMMAND`. -/
def pic2Command : Nat := 0xA0

/-- The port `io_wait` writes to. -/
def ioWaitPort : Nat := 0x80

/-- The master input the slave's request line is wired to. -/
def slaveInput : Fin 8 := 2

/-- The master and the slave 8259A. -/
structure PicPair where
  master : Pic8259
  slave : Pic8259
  deriving DecidableEq

namespace PicPair

/-- `port_out(port, data)`: the master decodes ports 0x20 / 0x21, the slave 0xA0 / 0xA1; no
other port, such as `io_wait`'s 0x80, reaches either. -/
def writePort (pair : PicPair) (port : Nat) (value : BitVec 8) : PicPair :=
  if port = pic1Command then { pair with master := pair.master.writeCommand value }
  else if port = pic1Data then { pair with master := pair.master.writeData value }
  else if port = pic2Command then { pair with slave := pair.slave.writeCommand value }
  else if port = pic2Data then { pair with slave := pair.slave.writeData value }
  else pair

/-- A sequence of `port_out` calls. -/
def run (pair : PicPair) (writes : List (Nat × BitVec 8)) : PicPair :=
  writes.foldl (fun pair write => pair.writePort write.1 write.2) pair

/-- What `port_in` reads from the data ports: each chip's mask. -/
def dataPorts (pair : PicPair) : Registers 8 :=
  fun port => if port = pic1Data then pair.master.imr else if port = pic2Data then pair.slave.imr
    else 0

/-- Whether a request on line `line` reaches the CPU's interrupt input: its mask bit is clear,
and for a slave line the master's cascade input IR2 is unmasked too. -/
def unmasked (pair : PicPair) (line : Nat) : Bool :=
  bank.enabled pair.dataPorts line && (decide (line < 8) || bank.enabled pair.dataPorts slaveInput)

/-- The vector of line `line`. A master input marked in the master's ICW3 carries a slave and
has no vector of its own; a slave line is answered by the slave when the master has a slave on
IR2 and the slave's id (ICW3 bits 2 .. 0) is 2. -/
def vector (pair : PicPair) (line : Nat) : Option (BitVec 8) :=
  if hline : line < 8 then
    if pair.master.icw3.getLsbD line then none else pair.master.vectorOf ⟨line, hline⟩
  else if line < 16 ∧ pair.master.icw3.getLsbD slaveInput ∧
      pair.slave.icw3 &&& 7 = BitVec.ofNat 8 slaveInput.val then
    pair.slave.vectorOf ⟨line % 8, Nat.mod_lt _ (by decide)⟩
  else none

/-- What the CPU receives when line `line` raises a request: its vector if the request is not
masked, nothing otherwise. -/
def delivers (pair : PicPair) (line : Nat) : Option (BitVec 8) :=
  if pair.unmasked line then pair.vector line else none

/-- The INTA cycles for line `line`: a master line goes into service on the master; a slave
line goes into service on the slave and its cascade input IR2 on the master. -/
def acknowledge (pair : PicPair) (line : Nat) : PicPair :=
  if hline : line < 8 then { pair with master := pair.master.acknowledge ⟨line, hline⟩ }
  else
    { master := pair.master.acknowledge slaveInput
      slave := pair.slave.acknowledge ⟨line % 8, Nat.mod_lt _ (by decide)⟩ }

end PicPair

/-! ## The driver -/

/-- `ICW1_ICW4`. -/
def icw1Icw4 : BitVec 8 := 0x01

/-- `ICW1_INIT`. -/
def icw1Init : BitVec 8 := 0x10

/-- `ICW4_8086`. -/
def icw48086 : BitVec 8 := 0x01

/-- `PIC_OFFSET`. -/
def picOffset : BitVec 8 := 32

/-- `init_pic`, as its port writes in order, each `io_wait` included. The masks it reads first
are not written back. -/
def initPic : List (Nat × BitVec 8) :=
  [(pic1Command, icw1Init ||| icw1Icw4), (ioWaitPort, 0),
    (pic2Command, icw1Init ||| icw1Icw4), (ioWaitPort, 0),
    (pic1Data, picOffset), (ioWaitPort, 0),
    (pic2Data, picOffset + 8), (ioWaitPort, 0),
    (pic1Data, 0x04), (ioWaitPort, 0),
    (pic2Data, 0x02), (ioWaitPort, 0),
    (pic1Data, icw48086), (ioWaitPort, 0),
    (pic2Data, icw48086), (ioWaitPort, 0),
    (pic1Data, 0b11111011), (pic2Data, 0b11111111)]

/-- `send_eoi(interrupt_vector)`: the EOI command `0x20` to the slave for a vector from
`PIC_OFFSET + 8` on, then to the master. -/
def sendEoi (interruptVector : BitVec 8) : List (Nat × BitVec 8) :=
  (if picOffset + 8 ≤ interruptVector then [(pic2Command, 0x20)] else []) ++ [(pic1Command, 0x20)]

/-- `unmask_irq` (`level = true`) or `mask_irq` (`level = false`) on the pair: the driver reads
the masks through the data ports and `port_out`s the new mask of the line's chip. -/
def maskDriver (pair : PicPair) (irqLine : Nat) (level : Bool) : Option PicPair :=
  let port := if irqLine < 8 then pic1Data else pic2Data
  ((if level then unmaskIrq else maskIrq) pair.dataPorts irqLine).map fun ports =>
    pair.writePort port (ports port)

/-- A sequence of `mask_irq` / `unmask_irq` calls, each a line and its new level. -/
def maskOps (pair : PicPair) : List (Nat × Bool) → Option PicPair
  | [] => some pair
  | (irqLine, level) :: rest => maskDriver pair irqLine level >>= fun next => maskOps next rest

/-! ## Initialization -/

/-- The chip `init_pic` leaves, from `chip`: ready, with the given ICW2, ICW3 and mask, 8086 mode,
fixed priorities, and its in-service bits as they were. -/
def Pic8259.initialized (chip : Pic8259) (icw2 icw3 mask : BitVec 8) : Pic8259 :=
  { chip with
    expect := .ready, icw1 := 0x11, icw2 := icw2, icw3 := icw3, icw4 := 1, imr := mask,
    priorityAdd := 0, readIsr := false, specialMask := false }

theorem run_initPic (pair : PicPair) :
    pair.run initPic = ⟨pair.master.initialized 32 4 0xFB, pair.slave.initialized 40 2 0xFF⟩ := by
  simp [PicPair.run, initPic, PicPair.writePort, pic1Command, pic1Data, pic2Command, pic2Data,
    ioWaitPort, Pic8259.writeCommand, Pic8259.writeData, Pic8259.initialized, icw1Init, icw1Icw4,
    icw48086, picOffset]

/-- The configuration `init_pic` establishes, whatever the masks: both chips ready, vector bases
32 and 40, the slave on IR2 with id 2, 8086 mode with normal EOI, fixed priorities, and the
cascade input IR2 unmasked. -/
structure Configured (pair : PicPair) : Prop where
  master_ready : pair.master.expect = .ready
  slave_ready : pair.slave.expect = .ready
  master_icw2 : pair.master.icw2 = 32
  slave_icw2 : pair.slave.icw2 = 40
  master_icw3 : pair.master.icw3 = 4
  slave_icw3 : pair.slave.icw3 = 2
  master_icw4 : pair.master.icw4 = 1
  slave_icw4 : pair.slave.icw4 = 1
  master_priority : pair.master.priorityAdd = 0
  slave_priority : pair.slave.priorityAdd = 0
  cascade_enabled : bank.enabled pair.dataPorts slaveInput = true

theorem configured_initialized (master slave : Pic8259) :
    Configured ⟨master.initialized 32 4 0xFB, slave.initialized 40 2 0xFF⟩ :=
  ⟨rfl, rfl, rfl, rfl, rfl, rfl, rfl, rfl, rfl, rfl, by
    show bank.enabled (fun port => if port = pic1Data then (0xFB : BitVec 8)
      else if port = pic2Data then 0xFF else 0) slaveInput = true
    decide⟩

theorem configured_run_initPic (pair : PicPair) : Configured (pair.run initPic) := by
  rw [run_initPic]
  exact configured_initialized _ _

/-- A configured pair in which nothing is masked or in service. -/
def configuredPair : PicPair :=
  ⟨⟨.ready, 0x11, 32, 4, 1, 0, 0, 0, false, false, false⟩,
    ⟨.ready, 0x11, 40, 2, 1, 0, 0, 0, false, false, false⟩⟩

/-- The vectors of a configured pair depend on nothing but the configuration. -/
theorem vector_of_configured {pair : PicPair} (hconf : Configured pair) :
    pair.vector = configuredPair.vector := by
  funext line
  simp only [PicPair.vector, Pic8259.vectorOf, hconf.master_icw2, hconf.slave_icw2,
    hconf.master_icw3, hconf.slave_icw3, hconf.master_icw4, hconf.slave_icw4]
  rfl

theorem configuredPair_vector (line : Nat) :
    configuredPair.vector line =
      if line < 16 ∧ line ≠ 2 then some (BitVec.ofNat 8 (32 + line)) else none := by
  by_cases hline : line < 16
  · have hall : ∀ line : Fin 16, configuredPair.vector line =
        if line.val ≠ 2 then some (BitVec.ofNat 8 (32 + line.val)) else none := by decide
    simpa [hline] using hall ⟨line, hline⟩
  · have h8 : ¬ line < 8 := by omega
    simp [PicPair.vector, h8, hline]

/-- In a configured pair, line `line` is delivered as vector `32 + line` exactly when its mask
bit is clear, for every line but the cascade input. -/
theorem delivers_of_configured {pair : PicPair} (hconf : Configured pair) (line : Nat) :
    pair.delivers line =
      if bank.enabled pair.dataPorts line ∧ line ≠ 2 then some (BitVec.ofNat 8 (32 + line))
      else none := by
  have hbound : bank.enabled pair.dataPorts line = true → line < 16 := fun h => by
    simp only [Bank.enabled, Bool.and_eq_true, decide_eq_true_eq] at h
    exact h.1
  rw [PicPair.delivers, PicPair.unmasked, hconf.cascade_enabled, Bool.or_true, Bool.and_true,
    vector_of_configured hconf, configuredPair_vector]
  by_cases henabled : bank.enabled pair.dataPorts line = true
  · simp [henabled, hbound henabled]
  · simp [henabled]

/-! ## The mask drivers on the configured pair -/

theorem writePort_pic1Data {pair : PicPair} (hready : pair.master.expect = .ready)
    (value : BitVec 8) :
    pair.writePort pic1Data value = { pair with master := { pair.master with imr := value } } := by
  simp [PicPair.writePort, pic1Command, pic1Data, Pic8259.writeData, hready]

theorem writePort_pic2Data {pair : PicPair} (hready : pair.slave.expect = .ready)
    (value : BitVec 8) :
    pair.writePort pic2Data value = { pair with slave := { pair.slave with imr := value } } := by
  simp [PicPair.writePort, pic1Command, pic1Data, pic2Command, pic2Data, Pic8259.writeData, hready]

/-- Once both chips are ready, their data ports behave as the two mask registers the port model
of the drivers reads and writes. -/
theorem dataPorts_writePort {pair : PicPair} (hmaster : pair.master.expect = .ready)
    (hslave : pair.slave.expect = .ready) {port : Nat} (hport : port = pic1Data ∨ port = pic2Data)
    (value : BitVec 8) :
    (pair.writePort port value).dataPorts = Function.update pair.dataPorts port value := by
  funext address
  rcases hport with rfl | rfl
  · rw [writePort_pic1Data hmaster]
    by_cases haddress : address = pic1Data
    · subst haddress; simp [PicPair.dataPorts]
    · simp [PicPair.dataPorts, haddress]
  · rw [writePort_pic2Data hslave]
    by_cases haddress : address = pic2Data
    · subst haddress; simp [PicPair.dataPorts, pic1Data, pic2Data]
    · simp [PicPair.dataPorts, haddress]

/-- A successful `modifyBit` is one write of the word it computes. -/
theorem modifyBit_eq_update {width : Nat} {registers next : Registers width} {address bit : Nat}
    {set : Bool} (h : modifyBit registers address bit set = some next) :
    next = Function.update registers address (next address) := by
  simp only [modifyBit, Option.map_eq_some'] at h
  obtain ⟨_, -, rfl⟩ := h
  simp

theorem maskDriver_eq (pair : PicPair) (irqLine : Nat) (level : Bool) :
    maskDriver pair irqLine level =
      (bank.switch pair.dataPorts irqLine level).map fun ports =>
        pair.writePort (bank.locate irqLine).1 (ports (bank.locate irqLine).1) := by
  cases level <;> simp only [maskDriver, Bool.false_eq_true, if_true, if_false, maskIrq_eq,
    unmaskIrq_eq] <;> by_cases hline : irqLine < 8 <;> simp [bank, hline]

/-- One `mask_irq` / `unmask_irq` on a pair whose chips are ready, for a line below 16: it does
not panic, switches exactly that line's mask bit, and changes nothing but the masks. -/
theorem maskDriver_exact {pair : PicPair} (hmaster : pair.master.expect = .ready)
    (hslave : pair.slave.expect = .ready) {irqLine : Nat} (hline : irqLine < 16) (level : Bool) :
    ∃ next, maskDriver pair irqLine level = some next ∧
      (∀ other, bank.enabled next.dataPorts other =
        if other = irqLine then level else bank.enabled pair.dataPorts other) ∧
      next = ⟨{ pair.master with imr := next.master.imr }, { pair.slave with imr := next.slave.imr }⟩ := by
  obtain ⟨ports, hports, henabled, -⟩ := bank.switch_exact hline level pair.dataPorts
  replace hports : bank.switch pair.dataPorts irqLine level = some ports := hports
  have hport : (bank.locate irqLine).1 = pic1Data ∨ (bank.locate irqLine).1 = pic2Data := by
    simp only [bank]; split <;> simp
  have hdata : (pair.writePort (bank.locate irqLine).1 (ports (bank.locate irqLine).1)).dataPorts =
      ports := by
    rw [dataPorts_writePort hmaster hslave hport]
    exact (modifyBit_eq_update hports).symm
  refine ⟨_, by rw [maskDriver_eq, hports]; rfl, fun other => by rw [hdata, henabled other], ?_⟩
  dsimp only
  rcases hport with hport | hport <;> rw [hport]
  · rw [writePort_pic1Data hmaster]
  · rw [writePort_pic2Data hslave]

/-- A pair that differs from a configured one only in its masks is configured when its cascade
input is unmasked. -/
theorem Configured.of_masks {pair next : PicPair} (hconf : Configured pair)
    (hmasks : next =
      ⟨{ pair.master with imr := next.master.imr }, { pair.slave with imr := next.slave.imr }⟩)
    (hcascade : bank.enabled next.dataPorts slaveInput = true) : Configured next := by
  rw [hmasks] at hcascade ⊢
  exact ⟨hconf.master_ready, hconf.slave_ready, hconf.master_icw2, hconf.slave_icw2,
    hconf.master_icw3, hconf.slave_icw3, hconf.master_icw4, hconf.slave_icw4,
    hconf.master_priority, hconf.slave_priority, hcascade⟩

/-- On a configured pair, a call for a line other than the cascade input keeps the
configuration. -/
theorem maskDriver_step {pair : PicPair} (hconf : Configured pair) {irqLine : Nat}
    (hline : irqLine < 16) (hcascade : irqLine ≠ 2) (level : Bool) :
    ∃ next, maskDriver pair irqLine level = some next ∧ Configured next ∧
      ∀ other, bank.enabled next.dataPorts other =
        if other = irqLine then level else bank.enabled pair.dataPorts other := by
  obtain ⟨next, hnext, henabled, hmasks⟩ :=
    maskDriver_exact hconf.master_ready hconf.slave_ready hline level
  refine ⟨next, hnext, hconf.of_masks hmasks ?_, henabled⟩
  rw [henabled, if_neg (by simp [slaveInput]; omega), hconf.cascade_enabled]

/-- The abstract state of the mask drivers: the set of enabled lines, one update per call. -/
def enabledAfter (enabled : Nat → Bool) (ops : List (Nat × Bool)) : Nat → Bool :=
  ops.foldl (fun enabled op => Function.update enabled op.1 op.2) enabled

/-- Along any sequence of calls on lines other than the cascade input, a configured pair stays
configured and its mask bits follow the abstract set of enabled lines. -/
theorem maskOps_simulates (ops : List (Nat × Bool)) (hops : ∀ op ∈ ops, op.1 < 16 ∧ op.1 ≠ 2)
    {pair : PicPair} (hconf : Configured pair) (enabled : Nat → Bool)
    (hagree : ∀ line, line ≠ 2 → bank.enabled pair.dataPorts line = enabled line) :
    ∃ final, maskOps pair ops = some final ∧ Configured final ∧
      ∀ line, line ≠ 2 → bank.enabled final.dataPorts line = enabledAfter enabled ops line := by
  induction ops generalizing pair enabled with
  | nil => exact ⟨pair, rfl, hconf, hagree⟩
  | cons op rest ih =>
    obtain ⟨hline, hcascade⟩ := hops op (List.mem_cons_self op rest)
    obtain ⟨next, hnext, hconf', hswitch⟩ := maskDriver_step hconf hline hcascade op.2
    obtain ⟨final, hfinal, hconf'', hagree''⟩ :=
      ih (fun other hother => hops other (List.mem_cons_of_mem op hother)) hconf'
        (Function.update enabled op.1 op.2) fun line hline2 => by
          rw [hswitch, Function.update_apply, hagree line hline2]
    refine ⟨final, ?_, hconf'', hagree''⟩
    rw [maskOps, hnext]
    exact hfinal

theorem dataPorts_run_initPic (pair : PicPair) :
    (pair.run initPic).dataPorts =
      fun port => if port = pic1Data then 0xFB else if port = pic2Data then 0xFF else 0 := by
  rw [run_initPic]
  rfl

/-- `init_pic` masks every line but the cascade input. -/
theorem enabled_run_initPic (pair : PicPair) {line : Nat} (hline : line ≠ 2) :
    bank.enabled (pair.run initPic).dataPorts line = false := by
  rw [dataPorts_run_initPic]
  by_cases hbound : line < 16
  · have hall : ∀ line : Fin 16, line.val ≠ 2 → bank.enabled (fun port =>
        if port = pic1Data then (0xFB : BitVec 8) else if port = pic2Data then 0xFF else 0)
        line = false := by decide
    exact hall ⟨line, hbound⟩ hline
  · simp [Bank.enabled, bank, hbound]

/-- From any state of the pair, `init_pic` leaves both chips initialized: ready, vector bases 32
and 40, the slave on IR2 with id 2, 8086 mode with normal EOI, fixed priorities, masks `0xFB`
and `0xFF`, and the in-service bits as they were. No line then reaches the CPU. -/
theorem init_pic_configures_pair (pair : PicPair) :
    pair.run initPic = ⟨pair.master.initialized 32 4 0xFB, pair.slave.initialized 40 2 0xFF⟩ ∧
      Configured (pair.run initPic) ∧ ∀ line, (pair.run initPic).delivers line = none := by
  refine ⟨run_initPic pair, configured_run_initPic pair, fun line => ?_⟩
  rw [delivers_of_configured (configured_run_initPic pair)]
  by_cases hcascade : line = 2
  · simp [hcascade]
  · simp [enabled_run_initPic pair hcascade]

/-- `mask_irq(2)` on a configured pair masks the cascade input: no slave line reaches the CPU
any more, although the slave's own mask bits, which the port model of the drivers reads, are
unchanged. -/
theorem mask_cascade_cuts_slave (pair : PicPair) (hconf : Configured pair) :
    ∃ next, maskDriver pair 2 false = some next ∧ (∀ line, 8 ≤ line → next.delivers line = none) ∧
      ∀ line, line ≠ 2 → bank.enabled next.dataPorts line = bank.enabled pair.dataPorts line := by
  obtain ⟨next, hnext, henabled, -⟩ :=
    maskDriver_exact hconf.master_ready hconf.slave_ready (by decide : 2 < 16) false
  refine ⟨next, hnext, fun line hline => ?_, fun line hline => by rw [henabled, if_neg hline]⟩
  have hcut : bank.enabled next.dataPorts slaveInput = false := by
    rw [henabled]; rfl
  simp [PicPair.delivers, PicPair.unmasked, hcut, show ¬ line < 8 by omega]

/-- After `init_pic`, masking the cascade input silences the slave lines. -/
theorem mask_cascade_cuts_slave_after_init :
    Configured (configuredPair.run initPic) ∧
      ∃ next, maskDriver (configuredPair.run initPic) 2 false = some next ∧
        (∀ line, 8 ≤ line → next.delivers line = none) ∧
        ∀ line, line ≠ 2 →
          bank.enabled next.dataPorts line = bank.enabled (configuredPair.run initPic).dataPorts line :=
  ⟨configured_run_initPic configuredPair,
    mask_cascade_cuts_slave _ (configured_run_initPic configuredPair)⟩

/-! ## End of interrupt -/

theorem firstInService_eq {isr : BitVec 8} {level : Nat} (hlevel : level < 8)
    (hclear : ∀ k < level, isr.getLsbD k = false) (hset : isr.getLsbD level = true) :
    ∀ count start (hstart : start < 8), start ≤ level → level < start + count →
      Pic8259.firstInService isr ⟨start, hstart⟩ count = some ⟨level, hlevel⟩
  | 0, _, _, hle, hlt => absurd hlt (by omega)
  | count + 1, start, hstart, hle, hlt => by
    rw [Pic8259.firstInService]
    by_cases hlevel' : start = level
    · subst hlevel'
      rw [if_pos hset]
    · rw [if_neg (by rw [hclear start (by omega)]; decide)]
      have hnext : (⟨start, hstart⟩ + 1 : Fin 8) = ⟨start + 1, by omega⟩ :=
        Fin.ext (by simp only [Fin.val_add]; show (start + 1) % 8 = start + 1; omega)
      rw [hnext]
      exact firstInService_eq hlevel hclear hset count (start + 1) _ (by omega) (by omega)

/-- The EOI command `0x20` is the non-specific EOI without rotation. -/
theorem writeCommand_eoi (chip : Pic8259) : chip.writeCommand 0x20 = chip.nonSpecificEoi false :=
  rfl

/-- With fixed priorities and normal EOI, acknowledging a level while nothing of its priority or
above is in service and then sending the EOI command restores the chip. -/
theorem eoi_after_acknowledge (chip : Pic8259) (hpriority : chip.priorityAdd = 0)
    (hnormal : chip.icw4.getLsbD 1 = false) (level : Fin 8)
    (hclear : ∀ k ≤ level.val, chip.isr.getLsbD k = false) :
    (chip.acknowledge level).writeCommand 0x20 = chip := by
  have hacked : chip.acknowledge level =
      { chip with isr := chip.isr ||| BitVec.ofNat 8 1 <<< level.val } := by
    rw [Pic8259.acknowledge, if_neg (by rw [hnormal]; decide)]
  have hbits : ∀ k, (chip.isr ||| BitVec.ofNat 8 1 <<< level.val).getLsbD k =
      (chip.isr.getLsbD k || decide (k = level.val)) :=
    getLsbD_or_shiftLeft_one chip.isr level.isLt
  have hhighest : (chip.acknowledge level).highestInService = some level := by
    rw [hacked, Pic8259.highestInService]
    simp only [hpriority]
    exact firstInService_eq level.isLt
      (fun k hk => by rw [hbits, hclear k (by omega)]; simp; omega)
      (by rw [hbits]; simp) 8 0 (by decide) (Nat.zero_le _) (by omega)
  rw [writeCommand_eoi, Pic8259.nonSpecificEoi, hhighest]
  simp only [Bool.false_eq_true, if_false, Pic8259.clearInService, hacked]
  congr 1
  refine BitVec.eq_of_getLsbD_eq fun k => ?_
  rw [getLsbD_and_not_shiftLeft_one _ level.isLt, hbits]
  by_cases hk : k.val = level.val
  · rw [hk, hclear _ (Nat.le_refl _)]; simp
  · simp [hk]

theorem sendEoi_eq {line : Nat} (hline : line < 16) :
    sendEoi (BitVec.ofNat 8 (32 + line)) =
      if 8 ≤ line then [(pic2Command, 0x20), (pic1Command, 0x20)] else [(pic1Command, 0x20)] := by
  have hle : picOffset + 8 ≤ BitVec.ofNat 8 (32 + line) ↔ 8 ≤ line := by
    rw [BitVec.le_def, BitVec.toNat_ofNat]
    show 40 ≤ (32 + line) % 256 ↔ 8 ≤ line
    omega
  by_cases h8 : 8 ≤ line
  · rw [sendEoi, if_pos (hle.2 h8), if_pos h8]; rfl
  · rw [sendEoi, if_neg (fun h => h8 (hle.1 h)), if_neg h8]; rfl

/-- On a configured pair, acknowledging line `n` while no level of its priority or above is in
service on the chips it involves, and then calling `send_eoi(32 + n)`, returns the pair to its
state before the acknowledge: the EOI reaches exactly the chips that put the line in service and
takes exactly that line out of service. -/
theorem send_eoi_after_acknowledge (pair : PicPair) (hconf : Configured pair) (line : Nat)
    (hline : line < 16)
    (hmaster : ∀ level ≤ (if line < 8 then line else slaveInput.val),
      pair.master.isr.getLsbD level = false)
    (hslave : 8 ≤ line → ∀ level ≤ line % 8, pair.slave.isr.getLsbD level = false) :
    (pair.acknowledge line).run (sendEoi (BitVec.ofNat 8 (32 + line))) = pair := by
  have hnormal : ∀ chip : Pic8259, chip.icw4 = 1 → chip.icw4.getLsbD 1 = false :=
    fun chip h => by rw [h]; decide
  rw [sendEoi_eq hline]
  by_cases h8 : line < 8
  · rw [if_neg (by omega), PicPair.acknowledge, dif_pos h8]
    show PicPair.writePort _ pic1Command 0x20 = pair
    simp only [PicPair.writePort, if_true]
    rw [eoi_after_acknowledge _ hconf.master_priority (hnormal _ hconf.master_icw4) _
      (fun k hk => hmaster k (by rw [if_pos h8]; exact hk))]
  · rw [if_pos (by omega), PicPair.acknowledge, dif_neg h8]
    show PicPair.writePort (PicPair.writePort _ pic2Command 0x20) pic1Command 0x20 = pair
    simp only [PicPair.writePort, if_true, show pic2Command ≠ pic1Command by decide,
      show pic2Command ≠ pic1Data by decide, if_false]
    rw [eoi_after_acknowledge _ hconf.slave_priority (hnormal _ hconf.slave_icw4) _
        (hslave (by omega)),
      eoi_after_acknowledge _ hconf.master_priority (hnormal _ hconf.master_icw4) _
        (fun k hk => hmaster k (by rw [if_neg h8]; exact hk))]

/-- With the master's line 3 in service, the slave's line 12 (vector 44) is acknowledged and
then ended: the pair returns to having only line 3 in service. -/
theorem send_eoi_after_acknowledge_nested :
    Configured (configuredPair.acknowledge 3) ∧ 12 < 16 ∧
      (∀ level ≤ (if 12 < 8 then 12 else slaveInput.val),
        (configuredPair.acknowledge 3).master.isr.getLsbD level = false) ∧
      (8 ≤ 12 → ∀ level ≤ 12 % 8, (configuredPair.acknowledge 3).slave.isr.getLsbD level = false) ∧
      ((configuredPair.acknowledge 3).acknowledge 12).run (sendEoi (BitVec.ofNat 8 (32 + 12))) =
        configuredPair.acknowledge 3 :=
  have hconf : Configured (configuredPair.acknowledge 3) :=
    ⟨rfl, rfl, rfl, rfl, rfl, rfl, rfl, rfl, rfl, rfl, by decide⟩
  ⟨hconf, by decide, by decide, by decide,
    send_eoi_after_acknowledge _ hconf 12 (by decide) (by decide) (by decide)⟩

end SahneKarnal.Arch.Interrupt.Amd64
