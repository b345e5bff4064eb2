import Mathlib.Data.Finset.Basic
import SahneKarnal.PlatformGeneric

/-!
# Static task stacks

`memory.rs` fixes the kernel's virtual layout in `MemoryRegions` and hands out one
statically placed stack per task id through `TaskStackAllocator`, whose only state is the
occupancy array `is_allocated` of the global `GLOBAL_TASK_STACK_ALLOCATOR`. The global is
modelled by passing the allocator explicitly; `usize` values are natural numbers below
`2 ^ 64`.

The abstract model is a finite set of task ids below `MAX_TASKS`. `runOps_refines` says that
along every sequence of calls the allocator returns what the set model returns and keeps
representing it; in particular the `OutOfMemoryStatic` path of `allocate_stack`, which
would leave the flag set after failing, is never taken. The stacks of distinct ids are
disjoint and lie in the task-stack window, but task 0's stack starts at the last byte of
the inclusive range `KERNEL_TEXT_VADDR` (`task_zero_stack_meets_kernel_text`).
-/

namespace SahneKarnal

/-- `core::ops::RangeInclusive<usize>`, the range `start..=last`. -/
structure RangeInclusive where
  start : Nat
  last : Nat

/-- `RangeInclusive::contains`. -/
def RangeInclusive.contains (range : RangeInclusive) (address : Nat) : Bool :=
  range.start ≤ address && address ≤ range.last

/-- `usize::checked_add` on a 64-bit target. -/
def checkedAdd (a b : Nat) : Option Nat :=
  if a + b < 2 ^ 64 then some (a + b) else none

namespace MemoryRegions

/-- `MemoryRegions::KERNEL_TEXT_VADDR`. -/
def kernelTextVaddr : RangeInclusive := ⟨0xC0000000, 0xC1000000⟩

/-- `MemoryRegions::TASK_STACKS_VADDR_START`. -/
def taskStacksVaddrStart : Nat := 0xC1000000

/-- `MemoryRegions::TASK_STACK_SIZE`. -/
def taskStackSize : Nat := 8 * 1024

end MemoryRegions

open MemoryRegions SystemConstants

/-- `TaskStackAllocator`: one occupancy flag per task id. -/
structure TaskStackAllocator where
  isAllocated : Fin maxTasks → Bool

namespace TaskStackAllocator

/-- The initial value of `GLOBAL_TASK_STACK_ALLOCATOR`: every flag clear. -/
def init : TaskStackAllocator := ⟨fun _ => false⟩

/-- `TaskStackAllocator::get_stack_base_address`. -/
def getStackBaseAddress (taskId : Nat) : Option Nat :=
  if taskId ≥ maxTasks then none
  else checkedAdd taskStacksVaddrStart (taskId * taskStackSize)

/-- `TaskStackAllocator::allocate_stack` on the global allocator: the result and the
allocator afterwards. The flag is set before the base address is computed, so the
`OutOfMemoryStatic` error would leave it set. -/
def allocateStack (allocator : TaskStackAllocator) (taskId : Nat) :
    Except KernelError Nat × TaskStackAllocator :=
  if h : taskId ≥ maxTasks then (.error .invalidArgument, allocator)
  else
    let slot : Fin maxTasks := ⟨taskId, by omega⟩
    if allocator.isAllocated slot then (.error .resourceBusy, allocator)
    else
      let marked : TaskStackAllocator := ⟨Function.update allocator.isAllocated slot true⟩
      match getStackBaseAddress taskId with
      | none => (.error .outOfMemoryStatic, marked)
      | some base => (.ok (base + taskStackSize), marked)

/-- `TaskStackAllocator::deallocate_stack` on the global allocator. -/
def deallocateStack (allocator : TaskStackAllocator) (taskId : Nat) :
    Except KernelError Unit × TaskStackAllocator :=
  if h : taskId ≥ maxTasks then (.error .invalidArgument, allocator)
  else
    let slot : Fin maxTasks := ⟨taskId, by omega⟩
    if !allocator.isAllocated slot then (.error .notFound, allocator)
    else (.ok (), ⟨Function.update allocator.isAllocated slot false⟩)

/-- The stack top handed to task `taskId`: the end of its `TASK_STACK_SIZE` slot. -/
def stackTop (taskId : Nat) : Nat := taskStacksVaddrStart + (taskId + 1) * taskStackSize

theorem getStackBaseAddress_of_lt {taskId : Nat} (h : taskId < maxTasks) :
    getStackBaseAddress taskId = some (taskStacksVaddrStart + taskId * taskStackSize) := by
  have h64 : taskStacksVaddrStart + taskId * taskStackSize < 2 ^ 64 := by
    simp only [maxTasks] at h
    simp only [taskStacksVaddrStart, taskStackSize]
    omega
  simp only [getStackBaseAddress, checkedAdd, ge_iff_le, if_neg (Nat.not_le.2 h), if_pos h64]

/-! ## The set model -/

/-- The allocator holds exactly the ids of `allocated`, all of them below `MAX_TASKS`. -/
def Represents (allocator : TaskStackAllocator) (allocated : Finset Nat) : Prop :=
  (∀ slot, allocator.isAllocated slot = true ↔ slot.val ∈ allocated) ∧
  ∀ taskId ∈ allocated, taskId < maxTasks

/-- `allocate_stack` on the set model. -/
def Abstract.allocate (allocated : Finset Nat) (taskId : Nat) :
    Except KernelError Nat × Finset Nat :=
  if maxTasks ≤ taskId then (.error .invalidArgument, allocated)
  else if taskId ∈ allocated then (.error .resourceBusy, allocated)
  else (.ok (stackTop taskId), insert taskId allocated)

/-- `deallocate_stack` on the set model. -/
def Abstract.deallocate (allocated : Finset Nat) (taskId : Nat) :
    Except KernelError Unit × Finset Nat :=
  if maxTasks ≤ taskId then (.error .invalidArgument, allocated)
  else if taskId ∉ allocated then (.error .notFound, allocated)
  else (.ok (), allocated.erase taskId)

theorem represents_init : Represents init ∅ := by
  simp [Represents, init]

theorem represents_update {allocator : TaskStackAllocator} {allocated : Finset Nat}
    (hrep : Represents allocator allocated) (slot : Fin maxTasks) (flag : Bool) :
    Represents ⟨Function.update allocator.isAllocated slot flag⟩
      (if flag then insert slot.val allocated else allocated.erase slot.val) := by
  refine ⟨fun other => ?_, fun taskId hmem => ?_⟩
  · by_cases h : other = slot
    · subst h; cases flag <;> simp
    · have hval : other.val ≠ slot.val := fun e => h (Fin.ext e)
      cases flag <;> simp [Function.update_noteq h, hval, hrep.1 other]
  · cases flag
    · exact hrep.2 taskId (Finset.mem_of_mem_erase (by simpa using hmem))
    · rcases Finset.mem_insert.1 (by simpa using hmem) with rfl | hmem
      · exact slot.isLt
      · exact hrep.2 taskId hmem

theorem allocateStack_refines {allocator : TaskStackAllocator} {allocated : Finset Nat}
    (hrep : Represents allocator allocated) (taskId : Nat) :
    (allocateStack allocator taskId).1 = (Abstract.allocate allocated taskId).1 ∧
    Represents (allocateStack allocator taskId).2 (Abstract.allocate allocated taskId).2 := by
  by_cases hbound : maxTasks ≤ taskId
  · simp [allocateStack, Abstract.allocate, hbound, hrep]
  · have hlt : taskId < maxTasks := Nat.lt_of_not_le hbound
    have hflag := hrep.1 ⟨taskId, hlt⟩
    by_cases hmem : taskId ∈ allocated
    · simp [allocateStack, Abstract.allocate, hbound, hmem, hflag.2 hmem, hrep]
    · have hfree : allocator.isAllocated ⟨taskId, hlt⟩ = false := by simpa [hmem] using hflag
      have hupd := represents_update hrep ⟨taskId, hlt⟩ true
      simp only [if_true] at hupd
      simp [allocateStack, Abstract.allocate, hbound, hmem, hfree, getStackBaseAddress_of_lt hlt,
        stackTop, hupd, Nat.succ_mul, Nat.add_assoc]

theorem deallocateStack_refines {allocator : TaskStackAllocator} {allocated : Finset Nat}
    (hrep : Represents allocator allocated) (taskId : Nat) :
    (deallocateStack allocator taskId).1 = (Abstract.deallocate allocated taskId).1 ∧
    Represents (deallocateStack allocator taskId).2
      (Abstract.deallocate allocated taskId).2 := by
  by_cases hbound : maxTasks ≤ taskId
  · simp [deallocateStack, Abstract.deallocate, hbound, hrep]
  · have hlt : taskId < maxTasks := Nat.lt_of_not_le hbound
    have hflag := hrep.1 ⟨taskId, hlt⟩
    by_cases hmem : taskId ∈ allocated
    · have hupd := represents_update hrep ⟨taskId, hlt⟩ false
      simp only [Bool.false_eq_true, if_false] at hupd
      simp [deallocateStack, Abstract.deallocate, hbound, hmem, hflag.2 hmem, hupd]
    · have hfree : allocator.isAllocated ⟨taskId, hlt⟩ = false := by simpa [hmem] using hflag
      simp [deallocateStack, Abstract.deallocate, hbound, hmem, hfree, hrep]

/-- The allocator state is determined by the set it represents. -/
theorem represents_unique {first second : TaskStackAllocator} {allocated : Finset Nat}
    (hfirst : Represents first allocated) (hsecond : Represents second allocated) :
    first = second := by
  cases first; cases second
  congr
  funext slot
  exact Bool.eq_iff_iff.2 ((hfirst.1 slot).trans (hsecond.1 slot).symm)

/-! ## Runs of calls -/

/-- A call to the allocator. -/
inductive Op where
  | allocate (taskId : Nat)
  | deallocate (taskId : Nat)

/-- What a call returns. -/
inductive Response where
  | allocated (result : Except KernelError Nat)
  | deallocated (result : Except KernelError Unit)

/-- One call on the global allocator. -/
def apply (allocator : TaskStackAllocator) : Op → Response × TaskStackAllocator
  | .allocate taskId =>
      let (result, next) := allocateStack allocator taskId
      (.allocated result, next)
  | .deallocate taskId =>
      let (result, next) := deallocateStack allocator taskId
      (.deallocated result, next)

/-- One call on the set model. -/
def Abstract.apply (allocated : Finset Nat) : Op → Response × Finset Nat
  | .allocate taskId =>
      let (result, next) := Abstract.allocate allocated taskId
      (.allocated result, next)
  | .deallocate taskId =>
      let (result, next) := Abstract.deallocate allocated taskId
      (.deallocated result, next)

/-- The responses to a sequence of calls and the allocator afterwards. -/
def runOps (allocator : TaskStackAllocator) : List Op → List Response × TaskStackAllocator
  | [] => ([], allocator)
  | op :: rest =>
      let (response, next) := apply allocator op
      let (responses, final) := runOps next rest
      (response :: responses, final)

/-- The responses of the set model to a sequence of calls and its final set. -/
def Abstract.runOps (allocated : Finset Nat) : List Op → List Response × Finset Nat
  | [] => ([], allocated)
  | op :: rest =>
      let (response, next) := Abstract.apply allocated op
      let (responses, final) := Abstract.runOps next rest
      (response :: responses, final)

theorem apply_refines {allocator : TaskStackAllocator} {allocated : Finset Nat}
    (hrep : Represents allocator allocated) (op : Op) :
    (apply allocator op).1 = (Abstract.apply allocated op).1 ∧
    Represents (apply allocator op).2 (Abstract.apply allocated op).2 := by
  cases op with
  | allocate taskId =>
      obtain ⟨hresult, hnext⟩ := allocateStack_refines hrep taskId
      exact ⟨by simp [apply, Abstract.apply, hresult], hnext⟩
  | deallocate taskId =>
      obtain ⟨hresult, hnext⟩ := deallocateStack_refines hrep taskId
      exact ⟨by simp [apply, Abstract.apply, hresult], hnext⟩

theorem runOps_refines_from {allocator : TaskStackAllocator} {allocated : Finset Nat}
    (hrep : Represents allocator allocated) (ops : List Op) :
    (runOps allocator ops).1 = (Abstract.runOps allocated ops).1 ∧
    Represents (runOps allocator ops).2 (Abstract.runOps allocated ops).2 := by
  induction ops generalizing allocator allocated with
  | nil => exact ⟨rfl, hrep⟩
  | cons op rest ih =>
      obtain ⟨hresponse, hnext⟩ := apply_refines hrep op
      obtain ⟨hresponses, hfinal⟩ := ih hnext
      exact ⟨by simp [runOps, Abstract.runOps, hresponse, hresponses], hfinal⟩

/-- `TaskStackAllocator` refines the set model: from the all-clear state, every sequence of
`allocate_stack` and `deallocate_stack` calls with any ids returns what the set model
returns, and the final flags are those of the final set. -/
theorem runOps_refines (ops : List Op) :
    (runOps init ops).1 = (Abstract.runOps ∅ ops).1 ∧
    Represents (runOps init ops).2 (Abstract.runOps ∅ ops).2 :=
  runOps_refines_from represents_init ops

/-- A failing call leaves every flag as it was. -/
theorem allocateStack_error_unchanged {allocator : TaskStackAllocator}
    {allocated : Finset Nat} (hrep : Represents allocator allocated) {taskId : Nat}
    {error : KernelError} (herror : (allocateStack allocator taskId).1 = .error error) :
    (allocateStack allocator taskId).2 = allocator ∧ error ≠ .outOfMemoryStatic := by
  obtain ⟨hresult, hnext⟩ := allocateStack_refines hrep taskId
  rw [hresult] at herror
  unfold Abstract.allocate at herror hnext
  split_ifs at herror hnext <;> cases herror <;>
    exact ⟨represents_unique hnext hrep, by decide⟩

theorem deallocateStack_error_unchanged {allocator : TaskStackAllocator}
    {allocated : Finset Nat} (hrep : Represents allocator allocated) {taskId : Nat}
    {error : KernelError} (herror : (deallocateStack allocator taskId).1 = .error error) :
    (deallocateStack allocator taskId).2 = allocator := by
  obtain ⟨hresult, hnext⟩ := deallocateStack_refines hrep taskId
  rw [hresult] at herror
  unfold Abstract.deallocate at herror hnext
  split_ifs at herror hnext <;> cases herror <;> exact represents_unique hnext hrep

/-! ## Stack placement -/

/-- The stacks `[top - TASK_STACK_SIZE, top)` of distinct task ids share no address. -/
theorem stack_ranges_disjoint {first second address : Nat} (hne : first ≠ second) :
    ¬ ((stackTop first - taskStackSize ≤ address ∧ address < stackTop first) ∧
      (stackTop second - taskStackSize ≤ address ∧ address < stackTop second)) := by
  simp only [stackTop, taskStacksVaddrStart, taskStackSize]
  intro h
  rcases Nat.lt_or_gt_of_ne hne with hlt | hlt
  · have : (first + 1) * 8192 ≤ second * 8192 := Nat.mul_le_mul_right _ hlt
    omega
  · have : (second + 1) * 8192 ≤ first * 8192 := Nat.mul_le_mul_right _ hlt
    omega

/-- Every stack lies in the task-stack window `[TASK_STACKS_VADDR_START,
TASK_STACKS_VADDR_START + MAX_TASKS * TASK_STACK_SIZE)`. -/
theorem stack_range_in_window {taskId : Nat} (h : taskId < maxTasks) :
    taskStacksVaddrStart ≤ stackTop taskId - taskStackSize ∧
    stackTop taskId ≤ taskStacksVaddrStart + maxTasks * taskStackSize := by
  simp only [stackTop, maxTasks] at *
  constructor
  · simp only [Nat.succ_mul]; omega
  · exact Nat.add_le_add_left (Nat.mul_le_mul_right _ h) _

/-- Task 0's stack `[0xC100_0000, 0xC100_2000)` starts at `0xC100_0000`, which the inclusive
range `KERNEL_TEXT_VADDR = 0xC000_0000..=0xC100_0000` contains. -/
theorem task_zero_stack_meets_kernel_text :
    (allocateStack init 0).1 = .ok 0xC1002000 ∧
    kernelTextVaddr.contains (0xC1002000 - taskStackSize) = true :=
  ⟨rfl, rfl⟩

end TaskStackAllocator

end SahneKarnal
