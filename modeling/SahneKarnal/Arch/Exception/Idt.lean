import SahneKarnal.Arch.Interrupt.Pic8259

/-!
# The x86-64 interrupt descriptor table

`init_exceptions` fills the static `IDT` with `Idt::init` and loads it with `lidt`
(`load_idt`). `Idt::init` gives seven vectors a gate, each through `IdtEntry::set_handler`:
the divide error (0), invalid opcode (6), double fault (8), general protection (13) and page
fault (14) exceptions, and the timer (32) and keyboard (33) interrupts. `set_handler` splits
the handler address over three offset fields. It also writes the code selector and the
gate's type byte.

The processor side follows the Intel SDM, volume 3A, sections 6.10 to 6.15, in 64-bit mode.
* The gate of vector `v` is bytes `16 v .. 16 v + 15` of the table. One past the IDTR limit
  raises #GP.
* A gate whose type is not a 64-bit interrupt or trap gate (0xE, 0xF) raises #GP; this is
  checked before the present flag. A gate that is not present raises #NP.
* A fault raised while an interrupt is delivered is itself delivered, with an error code that
  names the IDT entry. Its EXT flag tells an external interrupt from an `int n`; at CPL 0 the
  gate's DPL check of `int n` cannot fail. #GP and #NP are both contributory, so a fault raised while one
  of them is delivered is a double fault. A fault while the double fault is delivered shuts
  the processor down.
The gate's code selector is not checked against the GDT, which is set up outside this
repository.

Main results:
* `init_exceptions_gates`: for any handler addresses and any address of the table, after
  `init_exceptions` the processor reads each of the seven vectors as a gate to exactly its
  handler. Every other vector reads as a #GP: `IdtEntry::new` leaves type 0.
* `unmasked_lines_reach_handlers`: after `init_pic` and any sequence of the mask drivers,
  every line the 8259 pair delivers ends in a handler. Lines 0 and 1 reach the timer and
  keyboard entry points. Every other unmasked line reaches the general-protection handler, with
  the error code of its vector's empty gate.
-/

namespace SahneKarnal.Arch.Exception.Amd64

open SahneKarnal.Arch.Interrupt
open SahneKarnal.Arch.Interrupt.Amd64

/-! ## The table the kernel builds -/

/-- `IdtEntry`: one packed 16-byte gate descriptor. -/
structure IdtEntry where
  offsetLow : BitVec 16
  segmentSelector : BitVec 16
  ist : BitVec 8
  attributes : BitVec 8
  offsetMiddle : BitVec 16
  offsetHigh : BitVec 32
  reserved : BitVec 32
  deriving DecidableEq, Repr

/-- `KERNEL_CODE_SEGMENT`. -/
def kernelCodeSegment : BitVec 16 := 0x8

/-- `INTERRUPT_GATE_ATTR`: present, DPL 0, 64-bit interrupt gate. -/
def interruptGateAttr : BitVec 8 := 0x8E

namespace IdtEntry

/-- `IdtEntry::new`: every field zero. -/
def new : IdtEntry := ⟨0, 0, 0, 0, 0, 0, 0⟩

/-- `set_handler(handler, segment_selector, attributes)`: `handler as u16`,
`(handler >> 16) as u16` and `(handler >> 32) as u32` go to the three offset fields; IST and
the reserved word are cleared. -/
def setHandler (entry : IdtEntry) (handler : BitVec 64) (segmentSelector : BitVec 16)
    (attributes : BitVec 8) : IdtEntry :=
  { entry with
    offsetLow := handler.setWidth 16
    segmentSelector := segmentSelector
    ist := 0
    attributes := attributes
    offsetMiddle := (handler >>> 16).setWidth 16
    offsetHigh := (handler >>> 32).setWidth 32
    reserved := 0 }

/-- The handler address the processor reads from a gate: offset bits 63 .. 32, 31 .. 16 and
15 .. 0. -/
def offset (entry : IdtEntry) : BitVec 64 :=
  entry.offsetHigh ++ entry.offsetMiddle ++ entry.offsetLow

/-- The P flag, bit 7 of the type byte. -/
def present (entry : IdtEntry) : Bool := entry.attributes.getLsbD 7

/-- The gate type, bits 3 .. 0 of the type byte. -/
def gateType (entry : IdtEntry) : BitVec 4 := entry.attributes.setWidth 4

/-- The processor reads back the address `set_handler` split up. -/
theorem offset_setHandler (entry : IdtEntry) (handler : BitVec 64) (segmentSelector : BitVec 16)
    (attributes : BitVec 8) : (entry.setHandler handler segmentSelector attributes).offset =
      handler := by
  ext index
  have hindex := index.isLt
  simp only [offset, setHandler, BitVec.getLsbD_append, BitVec.getLsbD_setWidth,
    BitVec.getLsbD_ushiftRight]
  by_cases hlow : index.val < 16
  · simp [hlow]
  · by_cases hmiddle : index.val - 16 < 16
    · simp [hlow, hmiddle, show 16 + (index.val - 16) = index.val by omega]
    · simp [hlow, hmiddle, show index.val - 16 - 16 < 32 by omega,
        show 32 + (index.val - 16 - 16) = index.val by omega]

@[simp]
theorem gateType_setHandler (entry : IdtEntry) (handler : BitVec 64)
    (segmentSelector : BitVec 16) :
    (entry.setHandler handler segmentSelector interruptGateAttr).gateType = 0xE := by
  show (0x8E : BitVec 8).setWidth 4 = 0xE
  decide

@[simp]
theorem present_setHandler (entry : IdtEntry) (handler : BitVec 64)
    (segmentSelector : BitVec 16) :
    (entry.setHandler handler segmentSelector interruptGateAttr).present := by
  show (0x8E : BitVec 8).getLsbD 7 = true
  decide

end IdtEntry

/-- `Idt`: the 256 gates, indexed by the 8-bit vector. -/
structure Idt where
  entries : BitVec 8 → IdtEntry

namespace Idt

/-- `Idt::new`, the initial value of the static `IDT`. -/
def new : Idt := ⟨fun _ => IdtEntry.new⟩

/-- `self.entries[vector].set_handler(handler, segment_selector, attributes)`. -/
def setHandler (idt : Idt) (vector : BitVec 8) (handler : BitVec 64) (segmentSelector : BitVec 16)
    (attributes : BitVec 8) : Idt :=
  ⟨Function.update idt.entries vector
    ((idt.entries vector).setHandler handler segmentSelector attributes)⟩

end Idt

/-- The addresses of the assembly entry points `Idt::init` installs. -/
structure Handlers where
  exceptionHandlerDivideByZero : BitVec 64
  exceptionHandlerInvalidOpcode : BitVec 64
  exceptionHandlerDoubleFault : BitVec 64
  exceptionHandlerGeneralProtectionFault : BitVec 64
  exceptionHandlerPageFault : BitVec 64
  interruptHandlerTimer : BitVec 64
  interruptHandlerKeyboard : BitVec 64

/-- `Idt::init`. The double fault's line spells the type byte `0x8E` itself. -/
def Idt.init (idt : Idt) (handlers : Handlers) : Idt :=
  idt.setHandler 0 handlers.exceptionHandlerDivideByZero kernelCodeSegment interruptGateAttr
    |>.setHandler 6 handlers.exceptionHandlerInvalidOpcode kernelCodeSegment interruptGateAttr
    |>.setHandler 8 handlers.exceptionHandlerDoubleFault kernelCodeSegment 0x8E
    |>.setHandler 13 handlers.exceptionHandlerGeneralProtectionFault kernelCodeSegment
      interruptGateAttr
    |>.setHandler 14 handlers.exceptionHandlerPageFault kernelCodeSegment interruptGateAttr
    |>.setHandler 32 handlers.interruptHandlerTimer kernelCodeSegment interruptGateAttr
    |>.setHandler 33 handlers.interruptHandlerKeyboard kernelCodeSegment interruptGateAttr

/-- `IdtPointer`: the operand of `lidt`. -/
structure IdtPointer where
  limit : BitVec 16
  base : BitVec 64

/-- `size_of::<IdtEntry>()`: the packed fields, without padding. -/
def idtEntrySize : Nat := 2 + 2 + 1 + 1 + 2 + 4 + 4

/-- `load_idt(idt)`: the limit `size_of::<Idt>() - 1` as `u16`, and the table's address. -/
def loadIdt (base : BitVec 64) : IdtPointer := ⟨BitVec.ofNat 16 (256 * idtEntrySize - 1), base⟩

/-- The vector each handler is meant for, as `Idt::init` lists them. -/
def Handlers.table (handlers : Handlers) (vector : BitVec 8) : Option (BitVec 64) :=
  if vector = 0 then some handlers.exceptionHandlerDivideByZero
  else if vector = 6 then some handlers.exceptionHandlerInvalidOpcode
  else if vector = 8 then some handlers.exceptionHandlerDoubleFault
  else if vector = 13 then some handlers.exceptionHandlerGeneralProtectionFault
  else if vector = 14 then some handlers.exceptionHandlerPageFault
  else if vector = 32 then some handlers.interruptHandlerTimer
  else if vector = 33 then some handlers.interruptHandlerKeyboard
  else none

/-! ## How the processor reads it -/

namespace IdtPointer

/-- The gate of `vector` (SDM 6.14.1): the handler address, or the vector of the fault the
lookup raises. That is #GP (13) past the limit or on a gate that is not a 64-bit interrupt or
trap gate, and #NP (11) on a gate that is not present. -/
def gate (idtr : IdtPointer) (idt : Idt) (vector : BitVec 8) : Except (BitVec 8) (BitVec 64) :=
  if idtr.limit.toNat < 16 * vector.toNat + 15 then .error 13
  else
    if (idt.entries vector).gateType ≠ 0xE ∧ (idt.entries vector).gateType ≠ 0xF then .error 13
    else if (idt.entries vector).present then .ok (idt.entries vector).offset
    else .error 11

end IdtPointer

/-- Where delivering an event leaves the processor: in a handler, entered through `vector` with
the error code pushed, if any; or in shutdown. -/
inductive Delivery where
  | handler (vector : BitVec 8) (address : BitVec 64) (errorCode : Option (BitVec 64))
  | shutdown
  deriving DecidableEq, Repr

/-- The error code of a fault raised by the gate of `vector` while an external event is
delivered: the entry's index, the IDT flag (bit 1) and the EXT flag (bit 0). -/
def gateErrorCode (vector : BitVec 8) : BitVec 64 := (vector.setWidth 64 <<< 3) ||| 3

namespace IdtPointer

/-- Delivering a double fault; a fault on its gate shuts the processor down. -/
def deliverDoubleFault (idtr : IdtPointer) (idt : Idt) : Delivery :=
  match idtr.gate idt 8 with
  | .ok address => .handler 8 address (some 0)
  | .error _ => .shutdown

/-- Delivering the #GP or #NP a gate lookup raised for an external interrupt. Both are
contributory, so a second fault on the way is a double fault. -/
def deliverFault (idtr : IdtPointer) (idt : Idt) (fault : BitVec 8) (errorCode : BitVec 64) :
    Delivery :=
  match idtr.gate idt fault with
  | .ok address => .handler fault address (some errorCode)
  | .error _ => idtr.deliverDoubleFault idt

/-- Delivering an interrupt through the gate of `vector`; `errorCode` is pushed with the fault
its gate raises, if it raises one. -/
def deliverEvent (idtr : IdtPointer) (idt : Idt) (vector : BitVec 8) (errorCode : BitVec 64) :
    Delivery :=
  match idtr.gate idt vector with
  | .ok address => .handler vector address none
  | .error fault => idtr.deliverFault idt fault errorCode

/-- Delivering the external interrupt `vector` raised on the INTR pin. -/
def deliverInterrupt (idtr : IdtPointer) (idt : Idt) (vector : BitVec 8) : Delivery :=
  idtr.deliverEvent idt vector (gateErrorCode vector)

/-- Delivering `int vector` at CPL 0, where the gate's DPL check cannot fail. A fault on its
gate has the EXT flag clear. -/
def deliverSoftwareInterrupt (idtr : IdtPointer) (idt : Idt) (vector : BitVec 8) : Delivery :=
  idtr.deliverEvent idt vector (gateErrorCode vector &&& ~~~1)

end IdtPointer

/-! ## The gates `init_exceptions` leaves -/

/-- Every one of the 256 gates lies within the limit `load_idt` sets. -/
theorem loadIdt_within_limit (base : BitVec 64) (vector : BitVec 8) :
    ¬ (loadIdt base).limit.toNat < 16 * vector.toNat + 15 := by
  have hvector := vector.isLt
  simp only [loadIdt, idtEntrySize, BitVec.toNat_ofNat]
  omega

/-- A gate written with the kernel's type byte reads as its handler; the other gates are as
they were. -/
theorem gate_setHandler (base : BitVec 64) (idt : Idt) (target : BitVec 8) (handler : BitVec 64)
    (vector : BitVec 8) :
    (loadIdt base).gate (idt.setHandler target handler kernelCodeSegment interruptGateAttr)
        vector =
      if vector = target then .ok handler else (loadIdt base).gate idt vector := by
  by_cases htarget : vector = target
  · subst htarget
    rw [if_pos rfl, IdtPointer.gate, if_neg (loadIdt_within_limit base vector), Idt.setHandler]
    dsimp only
    rw [Function.update_same, IdtEntry.gateType_setHandler, IdtEntry.present_setHandler,
      IdtEntry.offset_setHandler, if_neg (by decide), if_pos rfl]
  · rw [if_neg htarget, IdtPointer.gate, IdtPointer.gate, Idt.setHandler]
    dsimp only
    rw [Function.update_noteq htarget]

/-- `IdtEntry::new` has type 0, which is no gate: every vector of `Idt::new` raises #GP. -/
theorem gate_new (base : BitVec 64) (vector : BitVec 8) :
    (loadIdt base).gate Idt.new vector = .error 13 := by
  simp only [IdtPointer.gate, loadIdt_within_limit, if_false]
  rfl

/-- The gates of `init_exceptions`: the vectors of `Idt::init`'s table, and #GP elsewhere. -/
theorem gate_init (handlers : Handlers) (base : BitVec 64) (vector : BitVec 8) :
    (loadIdt base).gate (Idt.new.init handlers) vector =
      match handlers.table vector with
      | some address => .ok address
      | none => .error 13 := by
  have hdouble : (0x8E : BitVec 8) = interruptGateAttr := rfl
  rw [Idt.init, hdouble]
  simp only [gate_setHandler, gate_new, Handlers.table]
  by_cases h0 : vector = 0
  · subst h0; rfl
  by_cases h6 : vector = 6
  · subst h6; rfl
  by_cases h8 : vector = 8
  · subst h8; rfl
  by_cases h13 : vector = 13
  · subst h13; rfl
  by_cases h14 : vector = 14
  · subst h14; rfl
  by_cases h32 : vector = 32
  · subst h32; rfl
  by_cases h33 : vector = 33
  · subst h33; rfl
  simp only [h0, h6, h8, h13, h14, h32, h33, if_false]

/-- After `init_exceptions`, for any handler addresses and any address of the table, each of
the seven vectors `Idt::init` lists reads as a gate to exactly its handler. Every other vector
raises #GP, since `IdtEntry::new` leaves it with type 0. -/
theorem init_exceptions_gates (handlers : Handlers) (base : BitVec 64) (vector : BitVec 8) :
    (loadIdt base).gate (Idt.new.init handlers) vector =
      match handlers.table vector with
      | some address => .ok address
      | none => .error 13 :=
  gate_init handlers base vector

/-! ## Lines of the 8259 pair against the table -/

/-- Once configured, the pair delivers only lines below 16 other than the cascade input, line
`n` as vector `32 + n`. -/
theorem delivers_eq_some {pair : PicPair} (hconf : Configured pair) {line : Nat}
    {vector : BitVec 8} (hdelivers : pair.delivers line = some vector) :
    line < 16 ∧ line ≠ 2 ∧ vector = BitVec.ofNat 8 (32 + line) := by
  rw [delivers_of_configured hconf] at hdelivers
  split_ifs at hdelivers with henabled
  · obtain ⟨henabled, hcascade⟩ := henabled
    simp only [Bank.enabled, bank, Bool.and_eq_true, decide_eq_true_eq] at henabled
    exact ⟨henabled.1, hcascade, (Option.some.inj hdelivers).symm⟩

/-- Of the vectors `32 + n` of the pair's lines, the table holds only the timer's and the
keyboard's. -/
theorem table_line (handlers : Handlers) {line : Nat} (hline : line < 16) :
    handlers.table (BitVec.ofNat 8 (32 + line)) =
      if line = 0 then some handlers.interruptHandlerTimer
      else if line = 1 then some handlers.interruptHandlerKeyboard else none := by
  by_cases h0 : line = 0
  · subst h0; rfl
  by_cases h1 : line = 1
  · subst h1; rfl
  have hne : ∀ target : BitVec 8, target.toNat ≤ 33 → BitVec.ofNat 8 (32 + line) ≠ target :=
    fun target htarget heq => by
      rw [← heq, BitVec.toNat_ofNat] at htarget
      omega
  rw [if_neg h0, if_neg h1, Handlers.table, if_neg (hne 0 (by decide)), if_neg (hne 6 (by decide)),
    if_neg (hne 8 (by decide)), if_neg (hne 13 (by decide)), if_neg (hne 14 (by decide)),
    if_neg (hne 32 (by decide)), if_neg (hne 33 (by decide))]

/-- After `init_pic` and any sequence of `mask_irq` / `unmask_irq` calls on lines below 16
other than the cascade input, every line the pair delivers ends in a handler. Lines 0 and 1
reach the timer and keyboard entry points. Any other line the drivers unmask finds an empty
gate and ends in the general-protection handler, with that gate's error code. -/
theorem unmasked_lines_reach_handlers (handlers : Handlers) (base : BitVec 64) (pair : PicPair)
    (ops : List (Nat × Bool)) (hops : ∀ op ∈ ops, op.1 < 16 ∧ op.1 ≠ 2) :
    ∃ final, maskOps (pair.run initPic) ops = some final ∧
      ∀ line vector, final.delivers line = some vector →
        (loadIdt base).deliverInterrupt (Idt.new.init handlers) vector =
          if line = 0 then .handler 32 handlers.interruptHandlerTimer none
          else if line = 1 then .handler 33 handlers.interruptHandlerKeyboard none
          else .handler 13 handlers.exceptionHandlerGeneralProtectionFault
            (some (gateErrorCode vector)) := by
  obtain ⟨final, hfinal, hconf, -⟩ := maskOps_simulates ops hops
    (configured_run_initPic pair) (fun _ => false) fun _ hline => enabled_run_initPic pair hline
  refine ⟨final, hfinal, fun line vector hdelivers => ?_⟩
  obtain ⟨hline, -, rfl⟩ := delivers_eq_some hconf hdelivers
  rw [IdtPointer.deliverInterrupt, IdtPointer.deliverEvent, gate_init, table_line handlers hline]
  by_cases h0 : line = 0
  · subst h0; rfl
  by_cases h1 : line = 1
  · subst h1; rfl
  rw [if_neg h0, if_neg h1, if_neg h0, if_neg h1]
  dsimp only
  rw [IdtPointer.deliverFault, gate_init]
  rfl

/-- Unmasking the keyboard (line 1) and COM2 (line 3) after `init_pic`: the keyboard reaches
its entry point, and COM2's vector 35 ends in the general-protection handler. -/
theorem unmasked_lines_reach_handlers_keyboard_com2 :
    (∀ op ∈ [((1 : Nat), true), (3, true)], op.1 < 16 ∧ op.1 ≠ 2) ∧
      ∃ final, maskOps (configuredPair.run initPic) [(1, true), (3, true)] = some final ∧
        ∀ line vector, final.delivers line = some vector →
          (loadIdt 0x10000).deliverInterrupt
              (Idt.new.init ⟨0x1000, 0x1060, 0x1080, 0x10D0, 0x10E0, 0x1200, 0x1210⟩) vector =
            if line = 0 then .handler 32 0x1200 none
            else if line = 1 then .handler 33 0x1210 none
            else .handler 13 0x10D0 (some (gateErrorCode vector)) :=
  ⟨by decide, unmasked_lines_reach_handlers ⟨0x1000, 0x1060, 0x1080, 0x10D0, 0x10E0, 0x1200, 0x1210⟩
    0x10000 configuredPair [(1, true), (3, true)] (by decide)⟩

end SahneKarnal.Arch.Exception.Amd64
