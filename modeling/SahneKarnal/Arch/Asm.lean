import Mathlib.Logic.Function.Basic

/-!
# The register machine of the context switches

Every backend's `TaskContext::switch_context` is one inline `asm!` block. Its instructions
only move 64-bit words between registers and memory and end with an indirect jump. `Instr`
holds those instructions and `run` executes a list of them, in order, on a `Machine`: a
register file, memory as the 64-bit word at each 8-byte-aligned byte address, and the program
counter the final jump sets.

Most switches have the same two halves: the save half stores a list of registers at fixed
offsets from the old context (`saveFrame`), and the restore half loads a list of registers
from the same offsets of the new context (`restoreFrame`). `switch_round_trip` and
`restore_loads_context` are the two facts about such switches, proved once for every
register list.
-/

namespace SahneKarnal.Arch.Asm

/-- The state the switch assembly reads and writes. -/
structure Machine (Reg : Type) where
  regs : Reg → BitVec 64
  memory : Nat → BitVec 64
  pc : BitVec 64

/-- The instructions of the switch assembly. -/
inductive Instr (Reg : Type) where
  /-- Store `src` at `base + offset` (`sd`, `std`, `st.d`, `str`, `mov [base + offset], src`). -/
  | store (src base : Reg) (offset : Nat)
  /-- Load `dst` from `base + offset` (`ld`, `ld.d`, `ldr`, `mov dst, [base + offset]`). -/
  | load (dst base : Reg) (offset : Nat)
  /-- `stp first, second, [base, #offset]`. -/
  | storePair (first second base : Reg) (offset : Nat)
  /-- `ldp first, second, [base, #offset]`. -/
  | loadPair (first second base : Reg) (offset : Nat)
  /-- Copy `src` into `dst` (`mov`, `mflr`, `mtlr`, `mfcr`, `mtcrf 0xff`, `mtctr`). -/
  | move (dst src : Reg)
  /-- `push src`: decrement the stack pointer by 8, store `src` there. -/
  | push (src : Reg)
  /-- `pop dst`: load `dst` from the stack pointer, increment it by 8. -/
  | pop (dst : Reg)
  /-- Jump to the address in `target` (`jmp`, `jr`, `br`, `bctr`). -/
  | jump (target : Reg)

section Semantics

variable {Reg : Type} [DecidableEq Reg] (sp : Reg)

/-- The byte address `base + offset`. -/
def Machine.address (machine : Machine Reg) (base : Reg) (offset : Nat) : Nat :=
  (machine.regs base).toNat + offset

/-- Write `value` to the register `reg`. -/
def Machine.setReg (machine : Machine Reg) (reg : Reg) (value : BitVec 64) : Machine Reg :=
  { machine with regs := Function.update machine.regs reg value }

/-- Write `value` to the word at `address`. -/
def Machine.write (machine : Machine Reg) (address : Nat) (value : BitVec 64) : Machine Reg :=
  { machine with memory := Function.update machine.memory address value }

/-- One instruction; `sp` is the stack pointer of `push` and `pop`. -/
def step (machine : Machine Reg) : Instr Reg → Machine Reg
  | .store src base offset => machine.write (machine.address base offset) (machine.regs src)
  | .load dst base offset => machine.setReg dst (machine.memory (machine.address base offset))
  | .storePair first second base offset =>
      (machine.write (machine.address base offset) (machine.regs first)).write
        (machine.address base (offset + 8)) (machine.regs second)
  | .loadPair first second base offset =>
      (machine.setReg first (machine.memory (machine.address base offset))).setReg second
        (machine.memory (machine.address base (offset + 8)))
  | .move dst src => machine.setReg dst (machine.regs src)
  | .push src =>
      (machine.setReg sp (machine.regs sp - 8)).write (machine.regs sp - 8).toNat (machine.regs src)
  | .pop dst =>
      (machine.setReg dst (machine.memory (machine.regs sp).toNat)).setReg sp (machine.regs sp + 8)
  | .jump target => { machine with pc := machine.regs target }

/-- Execute a list of instructions in order. -/
def run (machine : Machine Reg) (program : List (Instr Reg)) : Machine Reg :=
  program.foldl (step sp) machine

@[simp]
theorem run_nil (machine : Machine Reg) : run sp machine [] = machine := rfl

@[simp]
theorem run_cons (machine : Machine Reg) (instr : Instr Reg) (program : List (Instr Reg)) :
    run sp machine (instr :: program) = run sp (step sp machine instr) program := rfl

theorem run_append (machine : Machine Reg) (first second : List (Instr Reg)) :
    run sp machine (first ++ second) = run sp (run sp machine first) second :=
  List.foldl_append _ _ _ _

/-- The registers an instruction writes. -/
def Instr.writes : Instr Reg → List Reg
  | .store .. | .storePair .. | .jump _ => []
  | .load dst .. | .move dst _ => [dst]
  | .loadPair first second .. => [first, second]
  | .push _ => [sp]
  | .pop dst => [dst, sp]

theorem step_regs_of_not_mem (machine : Machine Reg) {instr : Instr Reg} {reg : Reg}
    (hreg : reg ∉ instr.writes sp) : (step sp machine instr).regs reg = machine.regs reg := by
  cases instr <;>
    simp_all [Instr.writes, step, Machine.setReg, Machine.write, Function.update_noteq]

/-- A program leaves alone every register none of its instructions writes. -/
theorem run_regs_of_not_mem (machine : Machine Reg) {program : List (Instr Reg)} {reg : Reg}
    (hreg : ∀ instr ∈ program, reg ∉ instr.writes sp) :
    (run sp machine program).regs reg = machine.regs reg := by
  induction program generalizing machine with
  | nil => rfl
  | cons instr rest ih =>
    rw [run_cons, ih _ fun other hother => hreg other (List.mem_cons_of_mem _ hother),
      step_regs_of_not_mem sp _ (hreg instr (List.mem_cons_self _ _))]

end Semantics

/-! ## Save and restore halves -/

section Frames

variable {Reg : Type}

/-- Store each register of `frame` at its offset from `base`. -/
def saveFrame (base : Reg) (frame : List (Reg × Nat)) : List (Instr Reg) :=
  frame.map fun slot => .store slot.1 base slot.2

/-- Load each register of `frame` from its offset from `base`. -/
def restoreFrame (base : Reg) (frame : List (Reg × Nat)) : List (Instr Reg) :=
  frame.map fun slot => .load slot.1 base slot.2

@[simp]
theorem saveFrame_cons (base : Reg) (slot : Reg × Nat) (rest : List (Reg × Nat)) :
    saveFrame base (slot :: rest) = .store slot.1 base slot.2 :: saveFrame base rest := rfl

@[simp]
theorem restoreFrame_cons (base : Reg) (slot : Reg × Nat) (rest : List (Reg × Nat)) :
    restoreFrame base (slot :: rest) = .load slot.1 base slot.2 :: restoreFrame base rest := rfl

/-- A switch made of a save half into the context in `oldContext`, a restore half from the
context in `newContext`, and a jump to `link`. -/
def frameSwitch (oldContext newContext link : Reg) (saved restored : List (Reg × Nat)) :
    List (Instr Reg) :=
  saveFrame oldContext saved ++ restoreFrame newContext restored ++ [.jump link]

/-- Two context objects of `size` bytes that do not overlap. -/
def ContextsApart (first second size : Nat) : Prop := first + size ≤ second ∨ second + size ≤ first

variable [DecidableEq Reg] {sp : Reg}

/-- The save half changes no register and no program counter. -/
theorem run_saveFrame_regs (machine : Machine Reg) (base : Reg) (frame : List (Reg × Nat)) :
    (run sp machine (saveFrame base frame)).regs = machine.regs ∧
      (run sp machine (saveFrame base frame)).pc = machine.pc := by
  induction frame generalizing machine with
  | nil => exact ⟨rfl, rfl⟩
  | cons slot rest ih => exact ih _

/-- The save half leaves every word but its slots alone. -/
theorem run_saveFrame_other (machine : Machine Reg) (base : Reg) (frame : List (Reg × Nat))
    {address : Nat} (hother : ∀ slot ∈ frame, address ≠ machine.address base slot.2) :
    (run sp machine (saveFrame base frame)).memory address = machine.memory address := by
  induction frame generalizing machine with
  | nil => rfl
  | cons slot rest ih =>
    rw [saveFrame_cons, run_cons,
      ih (step sp machine (.store slot.1 base slot.2))
        fun other hother' => hother other (List.mem_cons_of_mem _ hother')]
    exact Function.update_noteq (hother slot (List.mem_cons_self _ _)) _ _

/-- With distinct offsets, each slot holds its register afterwards. -/
theorem run_saveFrame_slot (machine : Machine Reg) (base : Reg) {frame : List (Reg × Nat)}
    (hoffsets : (frame.map Prod.snd).Nodup) {slot : Reg × Nat} (hslot : slot ∈ frame) :
    (run sp machine (saveFrame base frame)).memory (machine.address base slot.2) =
      machine.regs slot.1 := by
  induction frame generalizing machine with
  | nil => cases hslot
  | cons head rest ih =>
    rw [List.map_cons, List.nodup_cons] at hoffsets
    rw [saveFrame_cons, run_cons]
    rcases List.mem_cons.1 hslot with rfl | hrest
    · rw [run_saveFrame_other]
      · exact Function.update_same _ _ _
      · intro other hother heq
        exact hoffsets.1 (List.mem_map.2 ⟨other, hother,
          Nat.add_left_cancel (heq.symm.trans rfl)⟩)
    · exact ih (step sp machine (.store head.1 base head.2)) hoffsets.2 hrest

/-- The restore half writes no memory and no program counter. -/
theorem run_restoreFrame_memory (machine : Machine Reg) (base : Reg) (frame : List (Reg × Nat)) :
    (run sp machine (restoreFrame base frame)).memory = machine.memory ∧
      (run sp machine (restoreFrame base frame)).pc = machine.pc := by
  induction frame generalizing machine with
  | nil => exact ⟨rfl, rfl⟩
  | cons slot rest ih => exact ih _

/-- The restore half leaves every register it does not load alone. -/
theorem run_restoreFrame_other (machine : Machine Reg) (base : Reg) (frame : List (Reg × Nat))
    {reg : Reg} (hreg : reg ∉ frame.map Prod.fst) :
    (run sp machine (restoreFrame base frame)).regs reg = machine.regs reg := by
  induction frame generalizing machine with
  | nil => rfl
  | cons slot rest ih =>
    rw [List.map_cons, List.mem_cons, not_or] at hreg
    rw [restoreFrame_cons, run_cons, ih _ hreg.2]
    exact Function.update_noteq hreg.1 _ _

/-- With distinct registers and a base register it does not load, the restore half loads each
register from its slot. -/
theorem run_restoreFrame_slot (machine : Machine Reg) {base : Reg} {frame : List (Reg × Nat)}
    (hbase : base ∉ frame.map Prod.fst) (hregs : (frame.map Prod.fst).Nodup)
    {slot : Reg × Nat} (hslot : slot ∈ frame) :
    (run sp machine (restoreFrame base frame)).regs slot.1 =
      machine.memory (machine.address base slot.2) := by
  induction frame generalizing machine with
  | nil => cases hslot
  | cons head rest ih =>
    rw [List.map_cons, List.nodup_cons] at hregs
    rw [List.map_cons, List.mem_cons, not_or] at hbase
    rw [restoreFrame_cons, run_cons]
    rcases List.mem_cons.1 hslot with rfl | hrest
    · rw [run_restoreFrame_other _ _ _ hregs.1]
      exact Function.update_same _ _ _
    · rw [ih _ hbase.2 hregs.2 hrest]
      simp only [step, Machine.setReg, Machine.address, Function.update_noteq hbase.1]

/-- A register the restore half loads does not depend on what it held before: a scratch
register written just before the restore half is overwritten by it. -/
theorem run_restoreFrame_setReg (machine : Machine Reg) {base reg : Reg} (hbase : base ≠ reg)
    (value : BitVec 64) {frame : List (Reg × Nat)} (hreg : reg ∈ frame.map Prod.fst) :
    run sp (machine.setReg reg value) (restoreFrame base frame) =
      run sp machine (restoreFrame base frame) := by
  induction frame generalizing machine with
  | nil => cases hreg
  | cons slot rest ih =>
    rw [restoreFrame_cons, run_cons, run_cons]
    by_cases hslot : slot.1 = reg
    · simp only [step, Machine.setReg, Machine.address, hslot, Function.update_idem,
        Function.update_noteq hbase]
    · rw [List.map_cons, List.mem_cons] at hreg
      have hstep : step sp (machine.setReg reg value) (.load slot.1 base slot.2) =
          (step sp machine (.load slot.1 base slot.2)).setReg reg value := by
        simp only [step, Machine.setReg, Machine.address, Function.update_noteq hbase,
          Function.update_comm hslot]
      rw [hstep, ih _ (hreg.resolve_left (Ne.symm hslot))]

end Frames

/-! ## Round trip and first switch -/

section Switch

variable {Reg : Type} [DecidableEq Reg] {sp : Reg} {oldContext newContext link : Reg}
  {saved restored : List (Reg × Nat)}

/-- A frame switch runs its save half, its restore half, and jumps to the loaded `link`. -/
theorem run_frameSwitch (machine : Machine Reg) :
    run sp machine (frameSwitch oldContext newContext link saved restored) =
      { run sp (run sp machine (saveFrame oldContext saved)) (restoreFrame newContext restored) with
        pc := (run sp (run sp machine (saveFrame oldContext saved))
          (restoreFrame newContext restored)).regs link } := by
  rw [frameSwitch, run_append, run_append]
  rfl

/-- After a frame switch, the old context holds the registers of the save half. -/
theorem frameSwitch_saves (hoffsets : (saved.map Prod.snd).Nodup) (machine : Machine Reg)
    {slot : Reg × Nat} (hslot : slot ∈ saved) :
    (run sp machine (frameSwitch oldContext newContext link saved restored)).memory
      (machine.address oldContext slot.2) = machine.regs slot.1 := by
  have hmemory := (@run_restoreFrame_memory Reg _ sp
    (run sp machine (saveFrame oldContext saved)) newContext restored).1
  rw [run_frameSwitch]
  dsimp only
  rw [hmemory]
  exact run_saveFrame_slot machine oldContext hoffsets hslot

/-- The restore half of a frame switch loads each of its registers from the new context,
as the memory stood after the save half. -/
theorem frameSwitch_restores (hregs : (restored.map Prod.fst).Nodup)
    (hnew : newContext ∉ restored.map Prod.fst) (machine : Machine Reg)
    {slot : Reg × Nat} (hslot : slot ∈ restored) :
    (run sp machine (frameSwitch oldContext newContext link saved restored)).regs slot.1 =
      (run sp machine (saveFrame oldContext saved)).memory
        (machine.address newContext slot.2) := by
  rw [run_frameSwitch]
  dsimp only
  rw [run_restoreFrame_slot _ hnew hregs hslot, Machine.address, Machine.address,
    (run_saveFrame_regs machine oldContext saved).1]

/-- The round trip of a frame switch. Task A runs `switch(CA, CB)`, and later task B runs
`switch(CB, CA)` with the words of `CA` as the first switch left them. Then A resumes with
every restored register as it was at its switch, and at the address its `link` register held.
`CA` and `CB` must not overlap, and the restore half must reload only saved slots, each
register once. -/
theorem switch_round_trip {size : Nat} (hrestored : ∀ slot ∈ restored, slot ∈ saved)
    (hoffsets : (saved.map Prod.snd).Nodup) (hsize : ∀ slot ∈ saved, slot.2 < size)
    (hregs : (restored.map Prod.fst).Nodup) (hnew : newContext ∉ restored.map Prod.fst)
    {linkOffset : Nat} (hlink : (link, linkOffset) ∈ restored) (first second : Machine Reg)
    (hcontext : second.regs newContext = first.regs oldContext)
    (hapart : ContextsApart (second.regs oldContext).toNat (first.regs oldContext).toNat size)
    (hkept : ∀ offset < size, second.memory ((first.regs oldContext).toNat + offset) =
      (run sp first (frameSwitch oldContext newContext link saved restored)).memory
        ((first.regs oldContext).toNat + offset)) :
    (∀ slot ∈ restored,
      (run sp second (frameSwitch oldContext newContext link saved restored)).regs slot.1 =
        first.regs slot.1) ∧
    (run sp second (frameSwitch oldContext newContext link saved restored)).pc =
      first.regs link := by
  have hresumed : ∀ slot ∈ restored,
      (run sp second (frameSwitch oldContext newContext link saved restored)).regs slot.1 =
        first.regs slot.1 := by
    intro slot hslot
    have hsize' := hsize slot (hrestored slot hslot)
    rw [frameSwitch_restores hregs hnew second hslot, Machine.address, hcontext,
      run_saveFrame_other second oldContext saved, hkept slot.2 hsize']
    · exact frameSwitch_saves hoffsets first (hrestored slot hslot)
    · intro other hother
      have := hsize other hother
      unfold ContextsApart at hapart
      unfold Machine.address
      omega
  refine ⟨hresumed, ?_⟩
  rw [← hresumed _ hlink, run_frameSwitch]

/-- The first switch into a context: the restore half loads each of its registers from the
new context, and the jump lands at the loaded `link`. -/
theorem restore_loads_context (hregs : (restored.map Prod.fst).Nodup)
    (hnew : newContext ∉ restored.map Prod.fst) (machine : Machine Reg) :
    (∀ slot ∈ restored,
      (run sp machine (restoreFrame newContext restored ++ [.jump link])).regs slot.1 =
        machine.memory (machine.address newContext slot.2)) ∧
    (run sp machine (restoreFrame newContext restored ++ [.jump link])).pc =
      (run sp machine (restoreFrame newContext restored ++ [.jump link])).regs link := by
  rw [run_append]
  exact ⟨fun slot hslot => run_restoreFrame_slot machine hnew hregs hslot, rfl⟩

end Switch

end SahneKarnal.Arch.Asm
