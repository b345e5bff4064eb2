import SahneKarnal.Arch.Asm

/-!
# The backends' context switches

Each backend's `TaskContext` and the `asm!` block of its `TaskContext::switch_context`,
instruction by instruction. `TaskContext.read` is the `repr(C)` layout: field `i` of the
structure is the word at byte offset `8 * i`.

The RISC-V, LoongArch, MIPS and OpenRISC switches are frame switches. They save their
registers at the offsets of the matching fields and restore them from the same offsets, so the
round trip restores the task and the first switch into `TaskContext::new(st, ep)` starts it at
`ep` with `sp = st`. AArch64 gets the same two results through its pair instructions and its
scratch register `x10`.
-/

namespace SahneKarnal.Arch.Task

open SahneKarnal.Arch.Asm

/-! ## RISC-V -/

namespace Rv64i

/-- The integer registers `x0 .. x31`. -/
inductive Reg where
  | x (index : Nat)
  deriving DecidableEq

/-- `TaskContext`: `s0 .. s11`, then `ra` and `sp`. -/
structure TaskContext where
  x8S0 : BitVec 64
  x9S1 : BitVec 64
  x18S2 : BitVec 64
  x19S3 : BitVec 64
  x20S4 : BitVec 64
  x21S5 : BitVec 64
  x22S6 : BitVec 64
  x23S7 : BitVec 64
  x24S8 : BitVec 64
  x25S9 : BitVec 64
  x26S10 : BitVec 64
  x27S11 : BitVec 64
  x1Ra : BitVec 64
  x2Sp : BitVec 64
  deriving DecidableEq

/-- `TaskContext::new(stack_top, entry_point)`: zeros, with `sp = stack_top` and
`ra = entry_point`. -/
def TaskContext.new (stackTop entryPoint : BitVec 64) : TaskContext :=
  ⟨0, 0, 0, 0, 0, 0, 0, 0, 0, 0, 0, 0, entryPoint, stackTop⟩

/-- The `TaskContext` stored at `address`. -/
def TaskContext.read (memory : Nat → BitVec 64) (address : Nat) : TaskContext :=
  ⟨memory (address + 0), memory (address + 8), memory (address + 16), memory (address + 24),
    memory (address + 32), memory (address + 40), memory (address + 48), memory (address + 56),
    memory (address + 64), memory (address + 72), memory (address + 80), memory (address + 88),
    memory (address + 96), memory (address + 104)⟩

/-- The `TaskContext` the registers describe. -/
def TaskContext.ofRegs (regs : Reg → BitVec 64) : TaskContext :=
  ⟨regs (.x 8), regs (.x 9), regs (.x 18), regs (.x 19), regs (.x 20), regs (.x 21),
    regs (.x 22), regs (.x 23), regs (.x 24), regs (.x 25), regs (.x 26), regs (.x 27),
    regs (.x 1), regs (.x 2)⟩

/-- The save half of `switch_context`, into the context in `x10`. -/
def saveHalf : List (Instr Reg) :=
  [.store (.x 8) (.x 10) 0, .store (.x 9) (.x 10) 8, .store (.x 18) (.x 10) 16,
    .store (.x 19) (.x 10) 24, .store (.x 20) (.x 10) 32, .store (.x 21) (.x 10) 40,
    .store (.x 22) (.x 10) 48, .store (.x 23) (.x 10) 56, .store (.x 24) (.x 10) 64,
    .store (.x 25) (.x 10) 72, .store (.x 26) (.x 10) 80, .store (.x 27) (.x 10) 88,
    .store (.x 1) (.x 10) 96, .store (.x 2) (.x 10) 104]

/-- The restore half of `switch_context`, from the context in `x11`, ending in `jr x1`. -/
def restoreHalf : List (Instr Reg) :=
  [.load (.x 2) (.x 11) 104, .load (.x 8) (.x 11) 0, .load (.x 9) (.x 11) 8,
    .load (.x 18) (.x 11) 16, .load (.x 19) (.x 11) 24, .load (.x 20) (.x 11) 32,
    .load (.x 21) (.x 11) 40, .load (.x 22) (.x 11) 48, .load (.x 23) (.x 11) 56,
    .load (.x 24) (.x 11) 64, .load (.x 25) (.x 11) 72, .load (.x 26) (.x 11) 80,
    .load (.x 27) (.x 11) 88, .load (.x 1) (.x 11) 96, .jump (.x 1)]

/-- `TaskContext::switch_context(old_context, new_context)`. -/
def switchContext : List (Instr Reg) := saveHalf ++ restoreHalf

/-- The slots of the save half. -/
def savedSlots : List (Reg × Nat) :=
  [(.x 8, 0), (.x 9, 8), (.x 18, 16), (.x 19, 24), (.x 20, 32), (.x 21, 40), (.x 22, 48),
    (.x 23, 56), (.x 24, 64), (.x 25, 72), (.x 26, 80), (.x 27, 88), (.x 1, 96), (.x 2, 104)]

/-- The slots of the restore half, `sp` first. -/
def restoredSlots : List (Reg × Nat) :=
  [(.x 2, 104), (.x 8, 0), (.x 9, 8), (.x 18, 16), (.x 19, 24), (.x 20, 32), (.x 21, 40),
    (.x 22, 48), (.x 23, 56), (.x 24, 64), (.x 25, 72), (.x 26, 80), (.x 27, 88), (.x 1, 96)]

theorem switchContext_eq :
    switchContext = frameSwitch (.x 10) (.x 11) (.x 1) savedSlots restoredSlots := rfl

theorem restoreHalf_eq : restoreHalf = restoreFrame (.x 11) restoredSlots ++ [.jump (.x 1)] := rfl

/-- The restore half loads the context in `x11` into the registers and jumps to its `ra`. -/
theorem restoreHalf_loads (machine : Machine Reg) :
    TaskContext.ofRegs (run (.x 2) machine restoreHalf).regs =
        TaskContext.read machine.memory (machine.regs (.x 11)).toNat ∧
      (run (.x 2) machine restoreHalf).pc =
        (TaskContext.read machine.memory (machine.regs (.x 11)).toNat).x1Ra := by
  obtain ⟨hslots, hpc⟩ := @restore_loads_context Reg _ (.x 2) (.x 11) (.x 1) restoredSlots
    (by decide) (by decide) machine
  rw [← restoreHalf_eq] at hslots hpc
  simp only [restoredSlots, List.forall_mem_cons, List.not_mem_nil, false_imp_iff, imp_true_iff,
    and_true] at hslots
  simp only [TaskContext.ofRegs, TaskContext.read, Machine.address, hslots, hpc, and_self]

/-- The first switch into `TaskContext::new(st, ep)` starts the task at `ep`, with `sp = st`,
`ra = ep` and the saved registers zero. -/
theorem first_switch_starts_task (machine : Machine Reg) (stackTop entryPoint : BitVec 64)
    (hcontext : TaskContext.read machine.memory (machine.regs (.x 11)).toNat =
      TaskContext.new stackTop entryPoint) :
    TaskContext.ofRegs (run (.x 2) machine restoreHalf).regs =
        TaskContext.new stackTop entryPoint ∧
      (run (.x 2) machine restoreHalf).pc = entryPoint := by
  obtain ⟨hregs, hpc⟩ := restoreHalf_loads machine
  exact ⟨hregs.trans hcontext, hpc.trans (congrArg TaskContext.x1Ra hcontext)⟩

/-- The round trip `switch(CA, CB)` … `switch(CB, CA)`: with `CA` and `CB` apart and `CA`
untouched in between, task A resumes with `s0 .. s11`, `ra` and `sp` as they were at its
switch, at its `ra`. -/
theorem round_trip_restores_task (first second : Machine Reg)
    (hcontext : second.regs (.x 11) = first.regs (.x 10))
    (hapart : ContextsApart (second.regs (.x 10)).toNat (first.regs (.x 10)).toNat 112)
    (hkept : ∀ offset < 112, second.memory ((first.regs (.x 10)).toNat + offset) =
      (run (.x 2) first switchContext).memory ((first.regs (.x 10)).toNat + offset)) :
    TaskContext.ofRegs (run (.x 2) second switchContext).regs = TaskContext.ofRegs first.regs ∧
      (run (.x 2) second switchContext).pc = first.regs (.x 1) := by
  rw [switchContext_eq] at hkept
  obtain ⟨hregs, hpc⟩ := switch_round_trip (by decide) (by decide) (by decide) (by decide)
    (by decide) (show (Reg.x 1, 96) ∈ restoredSlots by decide) first second hcontext hapart hkept
  rw [← switchContext_eq] at hregs hpc
  simp only [restoredSlots, List.forall_mem_cons, List.not_mem_nil, false_imp_iff, imp_true_iff,
    and_true] at hregs
  simp only [TaskContext.ofRegs, hregs, hpc, and_self]

end Rv64i

/-! ## LoongArch -/

namespace Loongarch64

/-- The integer registers `r0 .. r31`. -/
inductive Reg where
  | r (index : Nat)
  deriving DecidableEq

/-- `TaskContext`: `r22 .. r31`, then `ra` (the code's `r4`) and `sp` (`r3`). -/
structure TaskContext where
  r22 : BitVec 64
  r23 : BitVec 64
  r24 : BitVec 64
  r25 : BitVec 64
  r26 : BitVec 64
  r27 : BitVec 64
  r28 : BitVec 64
  r29 : BitVec 64
  r30 : BitVec 64
  r31 : BitVec 64
  ra : BitVec 64
  sp : BitVec 64
  deriving DecidableEq

/-- `TaskContext::new(stack_top, entry_point)`: zeros, with `sp = stack_top` and
`ra = entry_point`. -/
def TaskContext.new (stackTop entryPoint : BitVec 64) : TaskContext :=
  ⟨0, 0, 0, 0, 0, 0, 0, 0, 0, 0, entryPoint, stackTop⟩

/-- The `TaskContext` stored at `address`. -/
def TaskContext.read (memory : Nat → BitVec 64) (address : Nat) : TaskContext :=
  ⟨memory (address + 0), memory (address + 8), memory (address + 16), memory (address + 24),
    memory (address + 32), memory (address + 40), memory (address + 48), memory (address + 56),
    memory (address + 64), memory (address + 72), memory (address + 80), memory (address + 88)⟩

/-- The `TaskContext` the registers describe. -/
def TaskContext.ofRegs (regs : Reg → BitVec 64) : TaskContext :=
  ⟨regs (.r 22), regs (.r 23), regs (.r 24), regs (.r 25), regs (.r 26), regs (.r 27),
    regs (.r 28), regs (.r 29), regs (.r 30), regs (.r 31), regs (.r 4), regs (.r 3)⟩

/-- The save half of `switch_context`, into the context in `r5`. -/
def saveHalf : List (Instr Reg) :=
  [.store (.r 22) (.r 5) 0, .store (.r 23) (.r 5) 8, .store (.r 24) (.r 5) 16,
    .store (.r 25) (.r 5) 24, .store (.r 26) (.r 5) 32, .store (.r 27) (.r 5) 40,
    .store (.r 28) (.r 5) 48, .store (.r 29) (.r 5) 56, .store (.r 30) (.r 5) 64,
    .store (.r 31) (.r 5) 72, .store (.r 4) (.r 5) 80, .store (.r 3) (.r 5) 88]

/-- The restore half of `switch_context`, from the context in `r6`, ending in `jr r4`. -/
def restoreHalf : List (Instr Reg) :=
  [.load (.r 3) (.r 6) 88, .load (.r 22) (.r 6) 0, .load (.r 23) (.r 6) 8,
    .load (.r 24) (.r 6) 16, .load (.r 25) (.r 6) 24, .load (.r 26) (.r 6) 32,
    .load (.r 27) (.r 6) 40, .load (.r 28) (.r 6) 48, .load (.r 29) (.r 6) 56,
    .load (.r 30) (.r 6) 64, .load (.r 31) (.r 6) 72, .load (.r 4) (.r 6) 80, .jump (.r 4)]

/-- `TaskContext::switch_context(old_context, new_context)`. -/
def switchContext : List (Instr Reg) := saveHalf ++ restoreHalf

/-- The slots of the save half. -/
def savedSlots : List (Reg × Nat) :=
  [(.r 22, 0), (.r 23, 8), (.r 24, 16), (.r 25, 24), (.r 26, 32), (.r 27, 40), (.r 28, 48),
    (.r 29, 56), (.r 30, 64), (.r 31, 72), (.r 4, 80), (.r 3, 88)]

/-- The slots of the restore half, `sp` first. -/
def restoredSlots : List (Reg × Nat) :=
  [(.r 3, 88), (.r 22, 0), (.r 23, 8), (.r 24, 16), (.r 25, 24), (.r 26, 32), (.r 27, 40),
    (.r 28, 48), (.r 29, 56), (.r 30, 64), (.r 31, 72), (.r 4, 80)]

theorem switchContext_eq :
    switchContext = frameSwitch (.r 5) (.r 6) (.r 4) savedSlots restoredSlots := rfl

theorem restoreHalf_eq : restoreHalf = restoreFrame (.r 6) restoredSlots ++ [.jump (.r 4)] := rfl

/-- The restore half loads the context in `r6` into the registers and jumps to its `ra`. -/
theorem restoreHalf_loads (machine : Machine Reg) :
    TaskContext.ofRegs (run (.r 3) machine restoreHalf).regs =
        TaskContext.read machine.memory (machine.regs (.r 6)).toNat ∧
      (run (.r 3) machine restoreHalf).pc =
        (TaskContext.read machine.memory (machine.regs (.r 6)).toNat).ra := by
  obtain ⟨hslots, hpc⟩ := @restore_loads_context Reg _ (.r 3) (.r 6) (.r 4) restoredSlots
    (by decide) (by decide) machine
  rw [← restoreHalf_eq] at hslots hpc
  simp only [restoredSlots, List.forall_mem_cons, List.not_mem_nil, false_imp_iff, imp_true_iff,
    and_true] at hslots
  simp only [TaskContext.ofRegs, TaskContext.read, Machine.address, hslots, hpc, and_self]

/-- The first switch into `TaskContext::new(st, ep)` starts the task at `ep`, with `sp = st`,
`ra = ep` and the saved registers zero. -/
theorem first_switch_starts_task (machine : Machine Reg) (stackTop entryPoint : BitVec 64)
    (hcontext : TaskContext.read machine.memory (machine.regs (.r 6)).toNat =
      TaskContext.new stackTop entryPoint) :
    TaskContext.ofRegs (run (.r 3) machine restoreHalf).regs =
        TaskContext.new stackTop entryPoint ∧
      (run (.r 3) machine restoreHalf).pc = entryPoint := by
  obtain ⟨hregs, hpc⟩ := restoreHalf_loads machine
  exact ⟨hregs.trans hcontext, hpc.trans (congrArg TaskContext.ra hcontext)⟩

/-- The round trip: task A resumes with `r22 .. r31`, `ra` and `sp` as they were at its switch,
at its `ra`. -/
theorem round_trip_restores_task (first second : Machine Reg)
    (hcontext : second.regs (.r 6) = first.regs (.r 5))
    (hapart : ContextsApart (second.regs (.r 5)).toNat (first.regs (.r 5)).toNat 96)
    (hkept : ∀ offset < 96, second.memory ((first.regs (.r 5)).toNat + offset) =
      (run (.r 3) first switchContext).memory ((first.regs (.r 5)).toNat + offset)) :
    TaskContext.ofRegs (run (.r 3) second switchContext).regs = TaskContext.ofRegs first.regs ∧
      (run (.r 3) second switchContext).pc = first.regs (.r 4) := by
  rw [switchContext_eq] at hkept
  obtain ⟨hregs, hpc⟩ := switch_round_trip (by decide) (by decide) (by decide) (by decide)
    (by decide) (show (Reg.r 4, 80) ∈ restoredSlots by decide) first second hcontext hapart hkept
  rw [← switchContext_eq] at hregs hpc
  simp only [restoredSlots, List.forall_mem_cons, List.not_mem_nil, false_imp_iff, imp_true_iff,
    and_true] at hregs
  simp only [TaskContext.ofRegs, hregs, hpc, and_self]

end Loongarch64

/-! ## MIPS -/

namespace Mips64

/-- The integer registers `r0 .. r31`. -/
inductive Reg where
  | r (index : Nat)
  deriving DecidableEq

/-- `TaskContext`: `s0 .. s7` (`r16 .. r23`), `s8` (`r30`), `ra` (`r31`) and `sp` (`r29`). -/
structure TaskContext where
  r16 : BitVec 64
  r17 : BitVec 64
  r18 : BitVec 64
  r19 : BitVec 64
  r20 : BitVec 64
  r21 : BitVec 64
  r22 : BitVec 64
  r23 : BitVec 64
  r30 : BitVec 64
  r31 : BitVec 64
  r29 : BitVec 64
  deriving DecidableEq

/-- `TaskContext::new(stack_top, entry_point)`: zeros, with `r29 = stack_top` and
`r31 = entry_point`. -/
def TaskContext.new (stackTop entryPoint : BitVec 64) : TaskContext :=
  ⟨0, 0, 0, 0, 0, 0, 0, 0, 0, entryPoint, stackTop⟩

/-- The `TaskContext` stored at `address`. -/
def TaskContext.read (memory : Nat → BitVec 64) (address : Nat) : TaskContext :=
  ⟨memory (address + 0), memory (address + 8), memory (address + 16), memory (address + 24),
    memory (address + 32), memory (address + 40), memory (address + 48), memory (address + 56),
    memory (address + 64), memory (address + 72), memory (address + 80)⟩

/-- The `TaskContext` the registers describe. -/
def TaskContext.ofRegs (regs : Reg → BitVec 64) : TaskContext :=
  ⟨regs (.r 16), regs (.r 17), regs (.r 18), regs (.r 19), regs (.r 20), regs (.r 21),
    regs (.r 22), regs (.r 23), regs (.r 30), regs (.r 31), regs (.r 29)⟩

/-- The save half of `switch_context`, into the context in `r4`. -/
def saveHalf : List (Instr Reg) :=
  [.store (.r 16) (.r 4) 0, .store (.r 17) (.r 4) 8, .store (.r 18) (.r 4) 16,
    .store (.r 19) (.r 4) 24, .store (.r 20) (.r 4) 32, .store (.r 21) (.r 4) 40,
    .store (.r 22) (.r 4) 48, .store (.r 23) (.r 4) 56, .store (.r 30) (.r 4) 64,
    .store (.r 31) (.r 4) 72, .store (.r 29) (.r 4) 80]

/-- The restore half of `switch_context`, from the context in `r5`, ending in `jr r31`. -/
def restoreHalf : List (Instr Reg) :=
  [.load (.r 29) (.r 5) 80, .load (.r 16) (.r 5) 0, .load (.r 17) (.r 5) 8,
    .load (.r 18) (.r 5) 16, .load (.r 19) (.r 5) 24, .load (.r 20) (.r 5) 32,
    .load (.r 21) (.r 5) 40, .load (.r 22) (.r 5) 48, .load (.r 23) (.r 5) 56,
    .load (.r 30) (.r 5) 64, .load (.r 31) (.r 5) 72, .jump (.r 31)]

/-- `TaskContext::switch_context(old_context, new_context)`. -/
def switchContext : List (Instr Reg) := saveHalf ++ restoreHalf

/-- The slots of the save half. -/
def savedSlots : List (Reg × Nat) :=
  [(.r 16, 0), (.r 17, 8), (.r 18, 16), (.r 19, 24), (.r 20, 32), (.r 21, 40), (.r 22, 48),
    (.r 23, 56), (.r 30, 64), (.r 31, 72), (.r 29, 80)]

/-- The slots of the restore half, `sp` first. -/
def restoredSlots : List (Reg × Nat) :=
  [(.r 29, 80), (.r 16, 0), (.r 17, 8), (.r 18, 16), (.r 19, 24), (.r 20, 32), (.r 21, 40),
    (.r 22, 48), (.r 23, 56), (.r 30, 64), (.r 31, 72)]

theorem switchContext_eq :
    switchContext = frameSwitch (.r 4) (.r 5) (.r 31) savedSlots restoredSlots := rfl

theorem restoreHalf_eq : restoreHalf = restoreFrame (.r 5) restoredSlots ++ [.jump (.r 31)] := rfl

/-- The restore half loads the context in `r5` into the registers and jumps to its `r31`. -/
theorem restoreHalf_loads (machine : Machine Reg) :
    TaskContext.ofRegs (run (.r 29) machine restoreHalf).regs =
        TaskContext.read machine.memory (machine.regs (.r 5)).toNat ∧
      (run (.r 29) machine restoreHalf).pc =
        (TaskContext.read machine.memory (machine.regs (.r 5)).toNat).r31 := by
  obtain ⟨hslots, hpc⟩ := @restore_loads_context Reg _ (.r 29) (.r 5) (.r 31) restoredSlots
    (by decide) (by decide) machine
  rw [← restoreHalf_eq] at hslots hpc
  simp only [restoredSlots, List.forall_mem_cons, List.not_mem_nil, false_imp_iff, imp_true_iff,
    and_true] at hslots
  simp only [TaskContext.ofRegs, TaskContext.read, Machine.address, hslots, hpc, and_self]

/-- The first switch into `TaskContext::new(st, ep)` starts the task at `ep`, with `r29 = st`,
`r31 = ep` and the saved registers zero. -/
theorem first_switch_starts_task (machine : Machine Reg) (stackTop entryPoint : BitVec 64)
    (hcontext : TaskContext.read machine.memory (machine.regs (.r 5)).toNat =
      TaskContext.new stackTop entryPoint) :
    TaskContext.ofRegs (run (.r 29) machine restoreHalf).regs =
        TaskContext.new stackTop entryPoint ∧
      (run (.r 29) machine restoreHalf).pc = entryPoint := by
  obtain ⟨hregs, hpc⟩ := restoreHalf_loads machine
  exact ⟨hregs.trans hcontext, hpc.trans (congrArg TaskContext.r31 hcontext)⟩

/-- The round trip: task A resumes with `s0 .. s8`, `ra` and `sp` as they were at its switch,
at its `ra`. -/
theorem round_trip_restores_task (first second : Machine Reg)
    (hcontext : second.regs (.r 5) = first.regs (.r 4))
    (hapart : ContextsApart (second.regs (.r 4)).toNat (first.regs (.r 4)).toNat 88)
    (hkept : ∀ offset < 88, second.memory ((first.regs (.r 4)).toNat + offset) =
      (run (.r 29) first switchContext).memory ((first.regs (.r 4)).toNat + offset)) :
    TaskContext.ofRegs (run (.r 29) second switchContext).regs = TaskContext.ofRegs first.regs ∧
      (run (.r 29) second switchContext).pc = first.regs (.r 31) := by
  rw [switchContext_eq] at hkept
  obtain ⟨hregs, hpc⟩ := switch_round_trip (by decide) (by decide) (by decide) (by decide)
    (by decide) (show (Reg.r 31, 72) ∈ restoredSlots by decide) first second hcontext hapart hkept
  rw [← switchContext_eq] at hregs hpc
  simp only [restoredSlots, List.forall_mem_cons, List.not_mem_nil, false_imp_iff, imp_true_iff,
    and_true] at hregs
  simp only [TaskContext.ofRegs, hregs, hpc, and_self]

end Mips64

/-! ## OpenRISC -/

namespace Openrisc64

/-- The integer registers `r0 .. r31`. -/
inductive Reg where
  | r (index : Nat)
  deriving DecidableEq

/-- `TaskContext`: `r9 .. r20`, then `r1` (the code's link register) and `r2` (its stack
pointer). -/
structure TaskContext where
  r9 : BitVec 64
  r10 : BitVec 64
  r11 : BitVec 64
  r12 : BitVec 64
  r13 : BitVec 64
  r14 : BitVec 64
  r15 : BitVec 64
  r16 : BitVec 64
  r17 : BitVec 64
  r18 : BitVec 64
  r19 : BitVec 64
  r20 : BitVec 64
  r1 : BitVec 64
  r2 : BitVec 64
  deriving DecidableEq

/-- `TaskContext::new(stack_top, entry_point)`: zeros, with `r2 = stack_top` and
`r1 = entry_point`. -/
def TaskContext.new (stackTop entryPoint : BitVec 64) : TaskContext :=
  ⟨0, 0, 0, 0, 0, 0, 0, 0, 0, 0, 0, 0, entryPoint, stackTop⟩

/-- The `TaskContext` stored at `address`. -/
def TaskContext.read (memory : Nat → BitVec 64) (address : Nat) : TaskContext :=
  ⟨memory (address + 0), memory (address + 8), memory (address + 16), memory (address + 24),
    memory (address + 32), memory (address + 40), memory (address + 48), memory (address + 56),
    memory (address + 64), memory (address + 72), memory (address + 80), memory (address + 88),
    memory (address + 96), memory (address + 104)⟩

/-- The `TaskContext` the registers describe. -/
def TaskContext.ofRegs (regs : Reg → BitVec 64) : TaskContext :=
  ⟨regs (.r 9), regs (.r 10), regs (.r 11), regs (.r 12), regs (.r 13), regs (.r 14),
    regs (.r 15), regs (.r 16), regs (.r 17), regs (.r 18), regs (.r 19), regs (.r 20),
    regs (.r 1), regs (.r 2)⟩

/-- The save half of `switch_context`, into the context in `r3`. -/
def saveHalf : List (Instr Reg) :=
  [.store (.r 9) (.r 3) 0, .store (.r 10) (.r 3) 8, .store (.r 11) (.r 3) 16,
    .store (.r 12) (.r 3) 24, .store (.r 13) (.r 3) 32, .store (.r 14) (.r 3) 40,
    .store (.r 15) (.r 3) 48, .store (.r 16) (.r 3) 56, .store (.r 17) (.r 3) 64,
    .store (.r 18) (.r 3) 72, .store (.r 19) (.r 3) 80, .store (.r 20) (.r 3) 88,
    .store (.r 1) (.r 3) 96, .store (.r 2) (.r 3) 104]

/-- The restore half of `switch_context`, from the context in `r4`, ending in `l.jr r1`. -/
def restoreHalf : List (Instr Reg) :=
  [.load (.r 2) (.r 4) 104, .load (.r 9) (.r 4) 0, .load (.r 10) (.r 4) 8,
    .load (.r 11) (.r 4) 16, .load (.r 12) (.r 4) 24, .load (.r 13) (.r 4) 32,
    .load (.r 14) (.r 4) 40, .load (.r 15) (.r 4) 48, .load (.r 16) (.r 4) 56,
    .load (.r 17) (.r 4) 64, .load (.r 18) (.r 4) 72, .load (.r 19) (.r 4) 80,
    .load (.r 20) (.r 4) 88, .load (.r 1) (.r 4) 96, .jump (.r 1)]

/-- `TaskContext::switch_context(old_context, new_context)`. -/
def switchContext : List (Instr Reg) := saveHalf ++ restoreHalf

/-- The slots of the save half. -/
def savedSlots : List (Reg × Nat) :=
  [(.r 9, 0), (.r 10, 8), (.r 11, 16), (.r 12, 24), (.r 13, 32), (.r 14, 40), (.r 15, 48),
    (.r 16, 56), (.r 17, 64), (.r 18, 72), (.r 19, 80), (.r 20, 88), (.r 1, 96), (.r 2, 104)]

/-- The slots of the restore half, `r2` first. -/
def restoredSlots : List (Reg × Nat) :=
  [(.r 2, 104), (.r 9, 0), (.r 10, 8), (.r 11, 16), (.r 12, 24), (.r 13, 32), (.r 14, 40),
    (.r 15, 48), (.r 16, 56), (.r 17, 64), (.r 18, 72), (.r 19, 80), (.r 20, 88), (.r 1, 96)]

theorem switchContext_eq :
    switchContext = frameSwitch (.r 3) (.r 4) (.r 1) savedSlots restoredSlots := rfl

theorem restoreHalf_eq : restoreHalf = restoreFrame (.r 4) restoredSlots ++ [.jump (.r 1)] := rfl

/-- The restore half loads the context in `r4` into the registers and jumps to its `r1`. -/
theorem restoreHalf_loads (machine : Machine Reg) :
    TaskContext.ofRegs (run (.r 2) machine restoreHalf).regs =
        TaskContext.read machine.memory (machine.regs (.r 4)).toNat ∧
      (run (.r 2) machine restoreHalf).pc =
        (TaskContext.read machine.memory (machine.regs (.r 4)).toNat).r1 := by
  obtain ⟨hslots, hpc⟩ := @restore_loads_context Reg _ (.r 2) (.r 4) (.r 1) restoredSlots
    (by decide) (by decide) machine
  rw [← restoreHalf_eq] at hslots hpc
  simp only [restoredSlots, List.forall_mem_cons, List.not_mem_nil, false_imp_iff, imp_true_iff,
    and_true] at hslots
  simp only [TaskContext.ofRegs, TaskContext.read, Machine.address, hslots, hpc, and_self]

/-- The first switch into `TaskContext::new(st, ep)` starts the task at `ep`, with `r2 = st`,
`r1 = ep` and the saved registers zero. -/
theorem first_switch_starts_task (machine : Machine Reg) (stackTop entryPoint : BitVec 64)
    (hcontext : TaskContext.read machine.memory (machine.regs (.r 4)).toNat =
      TaskContext.new stackTop entryPoint) :
    TaskContext.ofRegs (run (.r 2) machine restoreHalf).regs =
        TaskContext.new stackTop entryPoint ∧
      (run (.r 2) machine restoreHalf).pc = entryPoint := by
  obtain ⟨hregs, hpc⟩ := restoreHalf_loads machine
  exact ⟨hregs.trans hcontext, hpc.trans (congrArg TaskContext.r1 hcontext)⟩

/-- The round trip: task A resumes with `r9 .. r20`, `r1` and `r2` as they were at its switch,
at its `r1`. -/
theorem round_trip_restores_task (first second : Machine Reg)
    (hcontext : second.regs (.r 4) = first.regs (.r 3))
    (hapart : ContextsApart (second.regs (.r 3)).toNat (first.regs (.r 3)).toNat 112)
    (hkept : ∀ offset < 112, second.memory ((first.regs (.r 3)).toNat + offset) =
      (run (.r 2) first switchContext).memory ((first.regs (.r 3)).toNat + offset)) :
    TaskContext.ofRegs (run (.r 2) second switchContext).regs = TaskContext.ofRegs first.regs ∧
      (run (.r 2) second switchContext).pc = first.regs (.r 1) := by
  rw [switchContext_eq] at hkept
  obtain ⟨hregs, hpc⟩ := switch_round_trip (by decide) (by decide) (by decide) (by decide)
    (by decide) (show (Reg.r 1, 96) ∈ restoredSlots by decide) first second hcontext hapart hkept
  rw [← switchContext_eq] at hregs hpc
  simp only [restoredSlots, List.forall_mem_cons, List.not_mem_nil, false_imp_iff, imp_true_iff,
    and_true] at hregs
  simp only [TaskContext.ofRegs, hregs, hpc, and_self]

end Openrisc64

/-! ## AArch64 -/

namespace Armv9

/-- The integer registers `x0 .. x30` and `sp`. -/
inductive Reg where
  | x (index : Nat)
  | sp
  deriving DecidableEq

/-- `TaskContext`: `x19 .. x28`, `x29` (FP), `x30` (LR), then `sp` and `pc`. -/
structure TaskContext where
  x19 : BitVec 64
  x20 : BitVec 64
  x21 : BitVec 64
  x22 : BitVec 64
  x23 : BitVec 64
  x24 : BitVec 64
  x25 : BitVec 64
  x26 : BitVec 64
  x27 : BitVec 64
  x28 : BitVec 64
  x29 : BitVec 64
  x30 : BitVec 64
  sp : BitVec 64
  pc : BitVec 64
  deriving DecidableEq

/-- `TaskContext::new(stack_top, entry_point)`: zeros, with `sp = stack_top` and
`pc = x30 = entry_point`. -/
def TaskContext.new (stackTop entryPoint : BitVec 64) : TaskContext :=
  ⟨0, 0, 0, 0, 0, 0, 0, 0, 0, 0, 0, entryPoint, stackTop, entryPoint⟩

/-- The `TaskContext` stored at `address`. -/
def TaskContext.read (memory : Nat → BitVec 64) (address : Nat) : TaskContext :=
  ⟨memory (address + 0), memory (address + 8), memory (address + 16), memory (address + 24),
    memory (address + 32), memory (address + 40), memory (address + 48), memory (address + 56),
    memory (address + 64), memory (address + 72), memory (address + 80), memory (address + 88),
    memory (address + 96), memory (address + 104)⟩

/-- The `TaskContext` a machine state describes: its registers and its program counter. -/
def TaskContext.ofMachine (machine : Machine Reg) : TaskContext :=
  ⟨machine.regs (.x 19), machine.regs (.x 20), machine.regs (.x 21), machine.regs (.x 22),
    machine.regs (.x 23), machine.regs (.x 24), machine.regs (.x 25), machine.regs (.x 26),
    machine.regs (.x 27), machine.regs (.x 28), machine.regs (.x 29), machine.regs (.x 30),
    machine.regs .sp, machine.pc⟩

/-- The save half of `switch_context`, into the context in `x0`; `sp` and the return address
go through `x10`. -/
def saveHalf : List (Instr Reg) :=
  [.storePair (.x 19) (.x 20) (.x 0) 0, .storePair (.x 21) (.x 22) (.x 0) 16,
    .storePair (.x 23) (.x 24) (.x 0) 32, .storePair (.x 25) (.x 26) (.x 0) 48,
    .storePair (.x 27) (.x 28) (.x 0) 64, .storePair (.x 29) (.x 30) (.x 0) 80,
    .move (.x 10) .sp, .store (.x 10) (.x 0) 96, .move (.x 10) (.x 30),
    .store (.x 10) (.x 0) 104]

/-- The restore half of `switch_context`, from the context in `x1`, ending in `br x10`. -/
def restoreHalf : List (Instr Reg) :=
  [.load (.x 10) (.x 1) 96, .move .sp (.x 10), .loadPair (.x 19) (.x 20) (.x 1) 0,
    .loadPair (.x 21) (.x 22) (.x 1) 16, .loadPair (.x 23) (.x 24) (.x 1) 32,
    .loadPair (.x 25) (.x 26) (.x 1) 48, .loadPair (.x 27) (.x 28) (.x 1) 64,
    .loadPair (.x 29) (.x 30) (.x 1) 80, .load (.x 10) (.x 1) 104, .jump (.x 10)]

/-- `TaskContext::switch_context(old_context, new_context)`. -/
def switchContext : List (Instr Reg) := saveHalf ++ restoreHalf

/-- The slots of the save half, with `x10` holding the return address. -/
def savedSlots : List (Reg × Nat) :=
  [(.x 19, 0), (.x 20, 8), (.x 21, 16), (.x 22, 24), (.x 23, 32), (.x 24, 40), (.x 25, 48),
    (.x 26, 56), (.x 27, 64), (.x 28, 72), (.x 29, 80), (.x 30, 88), (.sp, 96), (.x 10, 104)]

/-- The slots of the restore half, `sp` first and the jump target `x10` last. -/
def restoredSlots : List (Reg × Nat) :=
  [(.sp, 96), (.x 19, 0), (.x 20, 8), (.x 21, 16), (.x 22, 24), (.x 23, 32), (.x 24, 40),
    (.x 25, 48), (.x 26, 56), (.x 27, 64), (.x 28, 72), (.x 29, 80), (.x 30, 88), (.x 10, 104)]

/-- The save half is a frame save made after `mov x10, x30`. -/
theorem run_saveHalf (machine : Machine Reg) :
    run .sp machine saveHalf =
      run .sp (machine.setReg (.x 10) (machine.regs (.x 30))) (saveFrame (.x 0) savedSlots) := by
  simp (disch := decide) only [saveHalf, savedSlots, saveFrame, List.map_cons, List.map_nil,
    run_cons, run_nil, step, Machine.setReg, Machine.write, Machine.address, Nat.reduceAdd,
    Function.update_same, Function.update_noteq, Function.update_idem]

/-- The restore half is a frame restore: the `x10` that carries `sp` is loaded again from the
program counter slot. -/
theorem run_restoreHalf (machine : Machine Reg) :
    run .sp machine restoreHalf =
      run .sp machine (restoreFrame (.x 1) restoredSlots ++ [.jump (.x 10)]) := by
  have hscratch : run .sp machine restoreHalf =
      run .sp (machine.setReg (.x 10) (machine.memory (machine.address (.x 1) 96)))
        (restoreFrame (.x 1) restoredSlots ++ [.jump (.x 10)]) := by
    simp (disch := decide) only [restoreHalf, restoredSlots, restoreFrame, List.map_cons,
      List.map_nil, List.cons_append, List.nil_append, run_cons, run_nil, step, Machine.setReg,
      Machine.address, Nat.reduceAdd, Function.update_same, Function.update_noteq]
  rw [hscratch, run_append, run_append,
    run_restoreFrame_setReg machine (by decide) _ (by decide)]

/-- The switch is a frame switch made after `mov x10, x30`. -/
theorem run_switchContext (machine : Machine Reg) :
    run .sp machine switchContext =
      run .sp (machine.setReg (.x 10) (machine.regs (.x 30)))
        (frameSwitch (.x 0) (.x 1) (.x 10) savedSlots restoredSlots) := by
  simp only [switchContext, frameSwitch, run_append, run_saveHalf, run_restoreHalf]

/-- The restore half loads the context in `x1` into the registers and jumps to its `pc`. -/
theorem restoreHalf_loads (machine : Machine Reg) :
    TaskContext.ofMachine (run .sp machine restoreHalf) =
      TaskContext.read machine.memory (machine.regs (.x 1)).toNat := by
  obtain ⟨hslots, hpc⟩ := @restore_loads_context Reg _ .sp (.x 1) (.x 10) restoredSlots
    (by decide) (by decide) machine
  rw [← run_restoreHalf] at hslots hpc
  simp only [restoredSlots, List.forall_mem_cons, List.not_mem_nil, false_imp_iff, imp_true_iff,
    and_true] at hslots
  simp only [TaskContext.ofMachine, TaskContext.read, Machine.address, hslots, hpc]

/-- The first switch into `TaskContext::new(st, ep)` starts the task at `ep`, with `sp = st`,
`x30 = ep` and `x19 .. x29` zero. -/
theorem first_switch_starts_task (machine : Machine Reg) (stackTop entryPoint : BitVec 64)
    (hcontext : TaskContext.read machine.memory (machine.regs (.x 1)).toNat =
      TaskContext.new stackTop entryPoint) :
    TaskContext.ofMachine (run .sp machine restoreHalf) = TaskContext.new stackTop entryPoint :=
  (restoreHalf_loads machine).trans hcontext

/-- The round trip: task A resumes with `x19 .. x30` and `sp` as they were at its switch, at
the return address its `x30` held. -/
theorem round_trip_restores_task (first second : Machine Reg)
    (hcontext : second.regs (.x 1) = first.regs (.x 0))
    (hapart : ContextsApart (second.regs (.x 0)).toNat (first.regs (.x 0)).toNat 112)
    (hkept : ∀ offset < 112, second.memory ((first.regs (.x 0)).toNat + offset) =
      (run .sp first switchContext).memory ((first.regs (.x 0)).toNat + offset)) :
    TaskContext.ofMachine (run .sp second switchContext) =
      { TaskContext.ofMachine first with pc := first.regs (.x 30) } := by
  rw [run_switchContext] at hkept
  obtain ⟨hregs, hpc⟩ := @switch_round_trip Reg _ .sp (.x 0) (.x 1) (.x 10) savedSlots
    restoredSlots 112 (by decide) (by decide) (by decide) (by decide) (by decide) 104 (by decide)
    (first.setReg (.x 10) (first.regs (.x 30))) (second.setReg (.x 10) (second.regs (.x 30)))
    hcontext hapart hkept
  rw [← run_switchContext] at hregs hpc
  simp (disch := decide) only [restoredSlots, List.forall_mem_cons, List.not_mem_nil,
    false_imp_iff, imp_true_iff, and_true, Machine.setReg, Function.update_same,
    Function.update_noteq] at hregs hpc
  simp only [TaskContext.ofMachine, hregs, hpc]

end Armv9

end SahneKarnal.Arch.Task
