import SahneKarnal.Arch.Asm

/-!
# The x86-64 and PowerPC context switches

These two switches are not frame switches. The x86-64 one pushes the callee-saved registers
on the stack instead of storing them in the `TaskContext`, and never writes `rip`. The PowerPC
one moves `LR` and `CR` through `r5`: it stores `LR` in the `cr` field and `CR` in both the `lr`
and the `pc` field, and it saves only `r14`, `r15` and `r31` of `r14 .. r31`.
-/

namespace SahneKarnal.Arch.Task

open SahneKarnal.Arch.Asm

/-! ## x86-64 -/

namespace Amd64

/-- The registers the switch names. -/
inductive Reg where
  | rax | rbx | rbp | rsp | rsi | rdi | r12 | r13 | r14 | r15
  deriving DecidableEq

/-- `TaskContext`: `r15, r14, r13, r12, rbp, rbx`, then `rsp` and `rip`. -/
structure TaskContext where
  r15 : BitVec 64
  r14 : BitVec 64
  r13 : BitVec 64
  r12 : BitVec 64
  rbp : BitVec 64
  rbx : BitVec 64
  rsp : BitVec 64
  rip : BitVec 64
  deriving DecidableEq

/-- `TaskContext::new(stack_top, entry_point)`: zeros, with `rsp = stack_top` and
`rip = entry_point`. -/
def TaskContext.new (stackTop entryPoint : BitVec 64) : TaskContext :=
  ⟨0, 0, 0, 0, 0, 0, stackTop, entryPoint⟩

/-- The `TaskContext` stored at `address`. -/
def TaskContext.read (memory : Nat → BitVec 64) (address : Nat) : TaskContext :=
  ⟨memory (address + 0), memory (address + 8), memory (address + 16), memory (address + 24),
    memory (address + 32), memory (address + 40), memory (address + 48), memory (address + 56)⟩

/-- The save half of `switch_context`: push the callee-saved registers, store `rsp` in the
context in `rdi`. -/
def saveHalf : List (Instr Reg) :=
  [.push .r15, .push .r14, .push .r13, .push .r12, .push .rbp, .push .rbx, .store .rsp .rdi 48]

/-- The restore half of `switch_context`: load `rsp` from the context in `rsi`, pop the
callee-saved registers, jump to its `rip`. -/
def restoreHalf : List (Instr Reg) :=
  [.load .rsp .rsi 48, .pop .rbx, .pop .rbp, .pop .r12, .pop .r13, .pop .r14, .pop .r15,
    .load .rax .rsi 56, .jump .rax]

/-- `TaskContext::switch_context(old_context, new_context)`. -/
def switchContext : List (Instr Reg) := saveHalf ++ restoreHalf

/-- The save half writes the six words below `rsp` and the `rsp` field of the old context, and
nothing else: in particular not its `rip` field. -/
theorem saveHalf_memory_other (machine : Machine Reg) {address : Nat}
    (hbelow : 48 ≤ (machine.regs .rsp).toNat)
    (hstack : address + 48 < (machine.regs .rsp).toNat ∨ (machine.regs .rsp).toNat ≤ address)
    (hfield : address ≠ machine.address .rdi 48) :
    (run .rsp machine saveHalf).memory address = machine.memory address := by
  simp only [Machine.address] at hfield
  simp (disch := first | decide | bv_omega) only [saveHalf, run_cons, run_nil, step,
    Machine.setReg, Machine.write, Machine.address, Function.update_same, Function.update_noteq]

/-- The restore half: `rsp` comes from the new context's `rsp` field, `rbx .. r15` are popped
from the six words there, `rsp` ends 48 bytes higher, and the jump goes to the `rip` field. -/
theorem restoreHalf_effect (machine : Machine Reg) :
    let context := TaskContext.read machine.memory (machine.regs .rsi).toNat
    let resumed := run .rsp machine restoreHalf
    resumed.regs .rbx = machine.memory context.rsp.toNat ∧
      resumed.regs .rbp = machine.memory (context.rsp + 8).toNat ∧
      resumed.regs .r12 = machine.memory (context.rsp + 16).toNat ∧
      resumed.regs .r13 = machine.memory (context.rsp + 24).toNat ∧
      resumed.regs .r14 = machine.memory (context.rsp + 32).toNat ∧
      resumed.regs .r15 = machine.memory (context.rsp + 40).toNat ∧
      resumed.regs .rsp = context.rsp + 48 ∧ resumed.pc = context.rip := by
  simp (disch := decide) only [restoreHalf, run_cons, run_nil, step, Machine.setReg,
    Machine.address, TaskContext.read, Function.update_same, Function.update_noteq,
    BitVec.add_assoc, BitVec.reduceAdd, BitVec.ofNat_eq_ofNat, and_self, true_and]

/-- The first switch into `TaskContext::new(st, ep)` jumps to `ep`, but pops `rbx .. r15` from
the six words at `st .. st + 40`, above the stack top and outside the context, and leaves
`rsp = st + 48`. -/
theorem first_switch_pops_above_stack_top (machine : Machine Reg)
    (stackTop entryPoint : BitVec 64)
    (hcontext : TaskContext.read machine.memory (machine.regs .rsi).toNat =
      TaskContext.new stackTop entryPoint) :
    let resumed := run .rsp machine restoreHalf
    resumed.regs .rbx = machine.memory stackTop.toNat ∧
      resumed.regs .rbp = machine.memory (stackTop + 8).toNat ∧
      resumed.regs .r12 = machine.memory (stackTop + 16).toNat ∧
      resumed.regs .r13 = machine.memory (stackTop + 24).toNat ∧
      resumed.regs .r14 = machine.memory (stackTop + 32).toNat ∧
      resumed.regs .r15 = machine.memory (stackTop + 40).toNat ∧
      resumed.regs .rsp = stackTop + 48 ∧ resumed.pc = entryPoint := by
  simpa only [hcontext] using restoreHalf_effect machine

end Amd64

/-! ## PowerPC -/

namespace Powerpc64

/-- The general registers `r0 .. r31` and the special registers the switch moves through
`r5`. -/
inductive Reg where
  | r (index : Nat)
  | lr
  | cr
  | ctr
  deriving DecidableEq

/-- `TaskContext`: `r14 .. r31`, then `r2` (TOC), `r13` (thread pointer), `cr`, `lr`, `r1`
(stack pointer) and `pc`. -/
structure TaskContext where
  r14 : BitVec 64
  r15 : BitVec 64
  r16 : BitVec 64
  r17 : BitVec 64
  r18 : BitVec 64
  r19 : BitVec 64
  r20 : BitVec 64
  r21 : BitVec 64
  r22 : BitVec 64
  r23 : BitVec 64
  r24 : BitVec 64
  r25 : BitVec 64
  r26 : BitVec 64
  r27 : BitVec 64
  r28 : BitVec 64
  r29 : BitVec 64
  r30 : BitVec 64
  r31 : BitVec 64
  r2Toc : BitVec 64
  r13Tp : BitVec 64
  cr : BitVec 64
  lr : BitVec 64
  r1Sp : BitVec 64
  pc : BitVec 64
  deriving DecidableEq

/-- `TaskContext::new(stack_top, entry_point, rtoc, thread_ptr)`: zeros, with `r1_sp =
stack_top`, `lr = pc = entry_point`, `r2_toc = rtoc` and `r13_tp = thread_ptr`. -/
def TaskContext.new (stackTop entryPoint rtoc threadPtr : BitVec 64) : TaskContext :=
  ⟨0, 0, 0, 0, 0, 0, 0, 0, 0, 0, 0, 0, 0, 0, 0, 0, 0, 0, rtoc, threadPtr, 0, entryPoint, stackTop,
    entryPoint⟩

/-- The `TaskContext` stored at `address`. -/
def TaskContext.read (memory : Nat → BitVec 64) (address : Nat) : TaskContext :=
  ⟨memory (address + 0), memory (address + 8), memory (address + 16), memory (address + 24),
    memory (address + 32), memory (address + 40), memory (address + 48), memory (address + 56),
    memory (address + 64), memory (address + 72), memory (address + 80), memory (address + 88),
    memory (address + 96), memory (address + 104), memory (address + 112),
    memory (address + 120), memory (address + 128), memory (address + 136),
    memory (address + 144), memory (address + 152), memory (address + 160),
    memory (address + 168), memory (address + 176), memory (address + 184)⟩

/-- The save half of `switch_context`, into the context in `r3`. -/
def saveHalf : List (Instr Reg) :=
  [.store (.r 14) (.r 3) 0, .store (.r 15) (.r 3) 8, .store (.r 31) (.r 3) 136,
    .store (.r 2) (.r 3) 144, .store (.r 13) (.r 3) 152, .move (.r 5) .lr,
    .store (.r 5) (.r 3) 160, .move (.r 5) .cr, .store (.r 5) (.r 3) 168,
    .store (.r 1) (.r 3) 176, .store (.r 5) (.r 3) 184]

/-- The restore half of `switch_context`, from the context in `r4`, ending in `bctr`. -/
def restoreHalf : List (Instr Reg) :=
  [.load (.r 1) (.r 4) 176, .load (.r 14) (.r 4) 0, .load (.r 15) (.r 4) 8,
    .load (.r 31) (.r 4) 136, .load (.r 2) (.r 4) 144, .load (.r 13) (.r 4) 152,
    .load (.r 5) (.r 4) 160, .move .lr (.r 5), .load (.r 5) (.r 4) 168, .move .cr (.r 5),
    .load (.r 5) (.r 4) 184, .move .ctr (.r 5), .jump .ctr]

/-- `TaskContext::switch_context(old_context, new_context)`. -/
def switchContext : List (Instr Reg) := saveHalf ++ restoreHalf

/-- What the save half writes into the old context: `LR` into the `cr` field, `CR` into the
`lr` and the `pc` field, and of `r14 .. r31` only `r14`, `r15` and `r31`. -/
theorem saveHalf_context (machine : Machine Reg) :
    TaskContext.read (run (.r 1) machine saveHalf).memory (machine.regs (.r 3)).toNat =
      { TaskContext.read machine.memory (machine.regs (.r 3)).toNat with
        r14 := machine.regs (.r 14), r15 := machine.regs (.r 15), r31 := machine.regs (.r 31),
        r2Toc := machine.regs (.r 2), r13Tp := machine.regs (.r 13), cr := machine.regs .lr,
        lr := machine.regs .cr, r1Sp := machine.regs (.r 1), pc := machine.regs .cr } := by
  simp (disch := first | decide | omega) only [saveHalf, run_cons, run_nil, step, Machine.setReg,
    Machine.write, Machine.address, TaskContext.read, Function.update_same, Function.update_noteq]

/-- The save half writes nothing outside the old context. -/
theorem saveHalf_memory_other (machine : Machine Reg) {address : Nat}
    (haddress : address < (machine.regs (.r 3)).toNat ∨
      (machine.regs (.r 3)).toNat + 192 ≤ address) :
    (run (.r 1) machine saveHalf).memory address = machine.memory address := by
  simp (disch := first | decide | omega) only [saveHalf, run_cons, run_nil, step, Machine.setReg,
    Machine.write, Machine.address, Function.update_same, Function.update_noteq]

/-- The save half changes no register but the scratch `r5`. -/
theorem saveHalf_regs_other (machine : Machine Reg) {reg : Reg} (hreg : reg ≠ .r 5) :
    (run (.r 1) machine saveHalf).regs reg = machine.regs reg := by
  exact run_regs_of_not_mem _ _ (by simp [saveHalf, Instr.writes, hreg])

/-- What the restore half loads from the new context: `r1`, `r14`, `r15`, `r31`, `r2` and
`r13` from their fields, `LR` from the `cr` field, `CR` from the `lr` field, and the jump target
from the `pc` field. `r16 .. r30` keep their values. -/
theorem restoreHalf_effect (machine : Machine Reg) :
    let context := TaskContext.read machine.memory (machine.regs (.r 4)).toNat
    let resumed := run (.r 1) machine restoreHalf
    (∀ index, 16 ≤ index → index ≤ 30 → resumed.regs (.r index) = machine.regs (.r index)) ∧
      resumed.regs (.r 1) = context.r1Sp ∧ resumed.regs (.r 14) = context.r14 ∧
      resumed.regs (.r 15) = context.r15 ∧ resumed.regs (.r 31) = context.r31 ∧
      resumed.regs (.r 2) = context.r2Toc ∧ resumed.regs (.r 13) = context.r13Tp ∧
      resumed.regs .lr = context.cr ∧ resumed.regs .cr = context.lr ∧
      resumed.pc = context.pc := by
  refine ⟨fun index hlow hhigh => run_regs_of_not_mem _ _ ?_, ?_⟩
  · simp only [restoreHalf, Instr.writes, List.forall_mem_cons, List.not_mem_nil,
      List.mem_singleton, Reg.r.injEq, reduceCtorEq, false_imp_iff, imp_true_iff,
      not_false_eq_true, forall_eq, true_and, and_true]
    omega
  · simp (disch := decide) only [restoreHalf, run_cons, run_nil, step, Machine.setReg,
      Machine.address, TaskContext.read, Function.update_same, Function.update_noteq, and_self]

/-- The restore half writes no memory. -/
theorem restoreHalf_memory (machine : Machine Reg) :
    (run (.r 1) machine restoreHalf).memory = machine.memory := rfl

/-- The `TaskContext` at `address` only depends on its 192 bytes. -/
theorem TaskContext.read_congr {first second : Nat → BitVec 64} {address : Nat}
    (hagree : ∀ offset < 192, first (address + offset) = second (address + offset)) :
    TaskContext.read first address = TaskContext.read second address := by
  simp (disch := omega) only [TaskContext.read, hagree]

/-- The first switch into `TaskContext::new(st, ep, rtoc, tp)` jumps to `ep` with `r1 = st`,
`r2 = rtoc` and `r13 = tp`, but `LR` gets the zero of the `cr` field and `CR` gets `ep`. -/
theorem first_switch_swaps_lr_and_cr (machine : Machine Reg)
    (stackTop entryPoint rtoc threadPtr : BitVec 64)
    (hcontext : TaskContext.read machine.memory (machine.regs (.r 4)).toNat =
      TaskContext.new stackTop entryPoint rtoc threadPtr) :
    let resumed := run (.r 1) machine restoreHalf
    resumed.regs (.r 1) = stackTop ∧ resumed.regs (.r 14) = 0 ∧ resumed.regs (.r 15) = 0 ∧
      resumed.regs (.r 31) = 0 ∧ resumed.regs (.r 2) = rtoc ∧
      resumed.regs (.r 13) = threadPtr ∧ resumed.regs .lr = 0 ∧
      resumed.regs .cr = entryPoint ∧ resumed.pc = entryPoint := by
  simpa only [hcontext] using (restoreHalf_effect machine).2

/-- The round trip `switch(CA, CB)` … `switch(CB, CA)` with `CA` and `CB` apart and `CA`
untouched in between. Task A gets back `r1`, `r14`, `r15`, `r31`, `r2`, `r13`, `LR` and `CR`,
but resumes at the `CR` it had instead of its `LR`, and `r16 .. r30` stay as task B left
them. -/
theorem round_trip_resumes_at_cr (first second : Machine Reg)
    (hcontext : second.regs (.r 4) = first.regs (.r 3))
    (hapart : ContextsApart (second.regs (.r 3)).toNat (first.regs (.r 3)).toNat 192)
    (hkept : ∀ offset < 192, second.memory ((first.regs (.r 3)).toNat + offset) =
      (run (.r 1) first switchContext).memory ((first.regs (.r 3)).toNat + offset)) :
    let resumed := run (.r 1) second switchContext
    (∀ index, 16 ≤ index → index ≤ 30 → resumed.regs (.r index) = second.regs (.r index)) ∧
      resumed.regs (.r 1) = first.regs (.r 1) ∧ resumed.regs (.r 14) = first.regs (.r 14) ∧
      resumed.regs (.r 15) = first.regs (.r 15) ∧ resumed.regs (.r 31) = first.regs (.r 31) ∧
      resumed.regs (.r 2) = first.regs (.r 2) ∧ resumed.regs (.r 13) = first.regs (.r 13) ∧
      resumed.regs .lr = first.regs .lr ∧ resumed.regs .cr = first.regs .cr ∧
      resumed.pc = first.regs .cr := by
  have hbase : (run (.r 1) second saveHalf).regs (.r 4) = first.regs (.r 3) :=
    (saveHalf_regs_other second (by decide)).trans hcontext
  have hsaved : TaskContext.read (run (.r 1) second saveHalf).memory (first.regs (.r 3)).toNat =
      TaskContext.read (run (.r 1) first saveHalf).memory (first.regs (.r 3)).toNat := by
    refine TaskContext.read_congr fun offset hoffset => ?_
    unfold ContextsApart at hapart
    rw [saveHalf_memory_other second (by omega), hkept offset hoffset, switchContext, run_append,
      restoreHalf_memory]
  have hrestore := restoreHalf_effect (run (.r 1) second saveHalf)
  simp only [hbase, hsaved, saveHalf_context] at hrestore
  refine ⟨fun index hlow hhigh => ?_, ?_⟩
  · rw [switchContext, run_append, hrestore.1 index hlow hhigh]
    exact saveHalf_regs_other second (by simp only [ne_eq, Reg.r.injEq]; omega)
  · rw [switchContext, run_append]
    exact hrestore.2

end Powerpc64

/-! ## Two switches and two first switches -/

/-- Round trips on PowerPC and x86-64. On PowerPC task A has `LR = 0x1000` and `CR = 0x2000`
at its switch and resumes at `0x2000`. On x86-64 task A's return address `0x4242` is on top of
its stack and its `rip` field still holds the entry point `0x1000` it was created with; it
resumes at `0x1000`. -/
theorem round_trips_resume_at_cr_and_stale_rip :
    (let first : Machine Powerpc64.Reg :=
      ⟨fun reg => if reg = .r 3 then 0x9000 else if reg = .r 4 then 0xA000
        else if reg = .lr then 0x1000 else if reg = .cr then 0x2000 else 0, fun _ => 0, 0⟩
    let second : Machine Powerpc64.Reg :=
      ⟨fun reg => if reg = .r 3 then 0xA000 else if reg = .r 4 then 0x9000 else 0,
        (run (.r 1) first Powerpc64.switchContext).memory, 0⟩
    first.regs .lr = 0x1000 ∧ (run (.r 1) second Powerpc64.switchContext).pc = 0x2000) ∧
    (let first : Machine Amd64.Reg :=
      ⟨fun reg => if reg = .rsp then 0x8000 else if reg = .rdi then 0x9000
        else if reg = .rsi then 0xA000 else 0,
        fun address => if address = 0x8000 then 0x4242 else if address = 0x9000 + 56 then 0x1000
          else if address = 0xA000 + 48 then 0x7000 else if address = 0xA000 + 56 then 0x3000
          else 0, 0⟩
    let second : Machine Amd64.Reg :=
      ⟨fun reg => if reg = .rsp then 0x6000 else if reg = .rdi then 0xA000
        else if reg = .rsi then 0x9000 else 0,
        (run .rsp first Amd64.switchContext).memory, 0⟩
    first.memory (first.regs .rsp).toNat = 0x4242 ∧
      (run .rsp second Amd64.switchContext).pc = 0x1000) := by
  decide

/-- First switches into fresh contexts. On x86-64, into `TaskContext::new(0x80000, 0x1000)`
with the word `0xDEAD` just above the stack top: the task starts at `0x1000` with
`rsp = 0x80030` and `rbx = 0xDEAD`. On PowerPC, into
`TaskContext::new(0x80000, 0x1000, 0x5000, 0x6000)`: it starts at `0x1000` with `r1 = 0x80000`,
but `LR = 0` and `CR = 0x1000`. -/
theorem first_switches_misplace_rsp_and_lr :
    (let machine : Machine Amd64.Reg :=
      ⟨fun reg => if reg = .rsi then 0xA000 else 0,
        fun address => if address = 0xA000 + 48 then 0x80000
          else if address = 0xA000 + 56 then 0x1000 else if address = 0x80000 then 0xDEAD
          else 0, 0⟩
    Amd64.TaskContext.read machine.memory 0xA000 = Amd64.TaskContext.new 0x80000 0x1000 ∧
      (run .rsp machine Amd64.restoreHalf).pc = 0x1000 ∧
      (run .rsp machine Amd64.restoreHalf).regs .rsp = 0x80030 ∧
      (run .rsp machine Amd64.restoreHalf).regs .rbx = 0xDEAD) ∧
    (let machine : Machine Powerpc64.Reg :=
      ⟨fun reg => if reg = .r 4 then 0xA000 else 0,
        fun address => if address = 0xA000 + 144 then 0x5000
          else if address = 0xA000 + 152 then 0x6000 else if address = 0xA000 + 168 then 0x1000
          else if address = 0xA000 + 176 then 0x80000 else if address = 0xA000 + 184 then 0x1000
          else 0, 0⟩
    Powerpc64.TaskContext.read machine.memory 0xA000 =
        Powerpc64.TaskContext.new 0x80000 0x1000 0x5000 0x6000 ∧
      (run (.r 1) machine Powerpc64.restoreHalf).pc = 0x1000 ∧
      (run (.r 1) machine Powerpc64.restoreHalf).regs (.r 1) = 0x80000 ∧
      (run (.r 1) machine Powerpc64.restoreHalf).regs .lr = 0 ∧
      (run (.r 1) machine Powerpc64.restoreHalf).regs .cr = 0x1000) := by
  decide

end SahneKarnal.Arch.Task
