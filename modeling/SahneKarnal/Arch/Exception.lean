import Mathlib.Logic.Function.Basic
import Mathlib.Algebra.Group.Nat.Basic

/-!
# Trap handlers

Every backend's assembly entry saves the interrupted state into its `ExceptionContext`, calls
one Rust handler with a pointer to it, and restores the state from it when the handler
returns. A handler is modelled as a function from the saved frame (and the vector or trap
number, where the entry passes one) to the frame it leaves behind, `none` standing for a
panic. What the handlers print on the serial line is not modelled.

The contract is `Obeys`: a cause decodes to one of three `TrapClass`es; a system call resumes
after the trapping instruction, an interrupt resumes with the frame as it was, and everything
else panics. Rust's `+` and `*` on `u64` are overflow-checked here, as the interrupt drivers'
shifts are, so `pc += 4` panics on the last word of the address space.

Each backend gets three lemmas: its decoder agrees with the architecture's cause encoding, its
handler follows the decoded class, and so it obeys the contract. The RISC-V, MIPS, OpenRISC and
PowerPC handlers obey it with a system-call return that advances the saved program counter by
4. The LoongArch handler obeys it only with a return that leaves `ERA` alone, and the SPARC
handler never reaches its system-call arm.
-/

namespace SahneKarnal.Arch.Exception

/-- Rust's `a + b` on `u64` with overflow checks; `none` is the overflow panic. -/
def addU64 (a b : BitVec 64) : Option (BitVec 64) :=
  if a.toNat + b.toNat < 2 ^ 64 then some (a + b) else none

/-- Rust's `a * b` on `u64` with overflow checks. -/
def mulU64 (a b : BitVec 64) : Option (BitVec 64) :=
  if a.toNat * b.toNat < 2 ^ 64 then some (a * b) else none

/-- Masking with `2 ^ n - 1` keeps the low `n` bits. -/
theorem toNat_and_low (word : BitVec 64) {n : Nat} (hn : n ≤ 64) :
    (word &&& BitVec.ofNat 64 (2 ^ n - 1)).toNat = word.toNat % 2 ^ n := by
  have hpow : 2 ^ n ≤ 2 ^ 64 := Nat.pow_le_pow_right (by decide) hn
  rw [BitVec.toNat_and, BitVec.toNat_ofNat, Nat.mod_eq_of_lt (by omega),
    Nat.and_pow_two_sub_one_eq_mod]

/-- The field `(word >> shift) & (2 ^ n - 1)` of a cause word. -/
theorem toNat_field (word : BitVec 64) (shift : Nat) {n : Nat} (hn : n ≤ 64) :
    ((word >>> shift) &&& BitVec.ofNat 64 (2 ^ n - 1)).toNat = word.toNat / 2 ^ shift % 2 ^ n := by
  rw [toNat_and_low _ hn, BitVec.toNat_ushiftRight, Nat.shiftRight_eq_div_pow]

/-! ## The contract -/

/-- The three ways a trap may end. -/
inductive TrapClass where
  /-- Resume after the trapping instruction. -/
  | systemCall
  /-- Resume where the interrupted code stopped. -/
  | interrupt
  /-- Page faults, illegal instructions and unknown causes: panic. -/
  | fatal
  deriving DecidableEq, Repr

variable {Context : Type}

/-- What the contract asks of a handler on a trap of class `trapClass`: a system call resumes
with the frame `resume` builds, an interrupt with the frame as it was, anything else panics. -/
def TrapClass.outcome (trapClass : TrapClass) (resume : Context → Option Context)
    (context : Context) : Option Context :=
  match trapClass with
  | .systemCall => resume context
  | .interrupt => some context
  | .fatal => none

/-- `handler` obeys the trap contract for the cause classification `trapClass` and the
system-call return `resume`, on every saved frame. -/
def Obeys (trapClass : Context → TrapClass) (resume : Context → Option Context)
    (handler : Context → Option Context) : Prop :=
  ∀ context, handler context = (trapClass context).outcome resume context

/-- The system-call return of the RISC backends: the saved program counter `pc` advanced past
the 4-byte trapping instruction by Rust's checked `+= 4`, every other field as it was. -/
def advancePc (pc : Context → BitVec 64) (setPc : Context → BitVec 64 → Context)
    (context : Context) : Option Context :=
  (addU64 (pc context) 4).map (setPc context)

/-- The return succeeds exactly below the last word, and then the counter is 4 further on. -/
theorem advancePc_eq_some_iff {pc : Context → BitVec 64} {setPc : Context → BitVec 64 → Context}
    {context next : Context} :
    advancePc pc setPc context = some next ↔
      (pc context).toNat + 4 < 2 ^ 64 ∧ next = setPc context (pc context + 4) := by
  have hfour : (4 : BitVec 64).toNat = 4 := rfl
  unfold advancePc addU64
  rw [hfour]
  by_cases hfit : (pc context).toNat + 4 < 2 ^ 64
  · rw [if_pos hfit, Option.map_some', Option.some_inj]
    exact ⟨fun hnext => ⟨hfit, hnext.symm⟩, fun hnext => hnext.2.symm⟩
  · rw [if_neg hfit, Option.map_none']
    exact ⟨Option.noConfusion, fun hnext => absurd hnext.1 hfit⟩

/-! ## LoongArch -/

namespace Loongarch64

/-- `ExceptionContext`: the general registers `r1 .. r31` and the saved control registers. -/
structure ExceptionContext where
  gpr : Fin 31 → BitVec 64
  csrEra : BitVec 64
  csrBadv : BitVec 64
  csrCause : BitVec 64
  csrPrid : BitVec 64
  csrStatus : BitVec 64

/-- `ExceptionCause`. -/
inductive ExceptionCause where
  | int | tlbRefill | tlbInvalid | tlbModified | loadPageFault | storePageFault | instPageFault
  | addrInvalid | syscall | breakpoint | instrInvalid | fpDisabled | unknown
  deriving DecidableEq, Repr

/-- `ExceptionCause::from(val)`: the cause named by the low five bits of `val`. -/
def ExceptionCause.fromU64 (val : BitVec 64) : ExceptionCause :=
  match (val &&& 0x1F).toNat with
  | 0 => .int
  | 1 => .tlbRefill
  | 2 => .tlbInvalid
  | 3 => .tlbModified
  | 4 => .loadPageFault
  | 5 => .storePageFault
  | 6 => .instPageFault
  | 7 => .addrInvalid
  | 11 => .syscall
  | 12 => .breakpoint
  | 14 => .instrInvalid
  | 18 => .fpDisabled
  | _ => .unknown

/-- `generic_exception_handler`. An interrupt goes to `handle_interrupt`, which only tests the
pending bits; page faults and the remaining causes panic; a system call returns, its
`context.csr_era += 4` commented out. -/
def genericExceptionHandler (context : ExceptionContext) : Option ExceptionContext :=
  match ExceptionCause.fromU64 ((context.csrCause >>> 2) &&& 0x1F) with
  | .int => some context
  | .instPageFault | .loadPageFault | .storePageFault => none
  | .syscall => some context
  | _ => none

/-- The class of each decoded cause in the handler's `match`. -/
def ExceptionCause.trapClass : ExceptionCause → TrapClass
  | .int => .interrupt
  | .syscall => .systemCall
  | _ => .fatal

/-- The contract's classes for the exception code in bits 2-6 of the saved cause word: code 0
(`INT`) is an interrupt and code 11 (`SYSCALL`) a system call. -/
def trapClass (csrCause : BitVec 64) : TrapClass :=
  match csrCause.toNat / 4 % 32 with
  | 0 => .interrupt
  | 11 => .systemCall
  | _ => .fatal

/-- The handler's decoding agrees with the exception code. -/
theorem fromU64_trapClass (csrCause : BitVec 64) :
    (ExceptionCause.fromU64 ((csrCause >>> 2) &&& 0x1F)).trapClass = trapClass csrCause := by
  have hcode : ((csrCause >>> 2) &&& 0x1F &&& 0x1F).toNat = csrCause.toNat / 4 % 32 := by
    rw [BitVec.and_assoc, BitVec.and_self]
    exact @toNat_field csrCause 2 5 (by decide)
  unfold ExceptionCause.fromU64 trapClass
  rw [hcode]
  split <;> simp_all [ExceptionCause.trapClass]

/-- The handler follows its decoded class, returning from a system call with the frame as it
was. -/
theorem genericExceptionHandler_eq (context : ExceptionContext) :
    genericExceptionHandler context =
      (ExceptionCause.fromU64 ((context.csrCause >>> 2) &&& 0x1F)).trapClass.outcome
        some context := by
  unfold genericExceptionHandler
  generalize ExceptionCause.fromU64 _ = cause
  cases cause <;> rfl

/-- The LoongArch handler obeys the contract with a system-call return that leaves `ERA`, and so
the resume address, where it was. -/
theorem genericExceptionHandler_obeys :
    Obeys (trapClass ·.csrCause) some genericExceptionHandler := fun context => by
  rw [genericExceptionHandler_eq, fromU64_trapClass]

/-- A system call (`csr_cause = 0x2C`, exception code 11) trapping at `ERA = 0x1000` returns to
`0x1000`, the system-call instruction itself, instead of `0x1004`. -/
theorem syscall_returns_to_same_era :
    trapClass 0x2C = .systemCall ∧
      (genericExceptionHandler ⟨fun _ => 0, 0x1000, 0, 0x2C, 0, 0⟩).map (·.csrEra) =
        some 0x1000 :=
  ⟨rfl, rfl⟩

end Loongarch64

/-! ## RISC-V -/

namespace Rv64i

/-- `ExceptionContext`: the general registers `x1 .. x31` and the saved supervisor CSRs. -/
structure ExceptionContext where
  gpr : Fin 31 → BitVec 64
  scause : BitVec 64
  sepc : BitVec 64
  stval : BitVec 64
  sstatus : BitVec 64

/-- `ExceptionCause`. -/
inductive ExceptionCause where
  | instructionPageFault | loadPageFault | storePageFault
  | environmentCallFromUMode | environmentCallFromSMode | instructionAccessFault
  | unknown (code : Int)
  | supervisorTimerInterrupt | supervisorSoftwareInterrupt | supervisorExternalInterrupt
  deriving DecidableEq, Repr

/-- `ExceptionCause::from_scause`: a negative `scause as i64` is an interrupt, named by the low
63 bits; otherwise the exception code is the whole word. -/
def ExceptionCause.fromScause (scause : BitVec 64) : ExceptionCause :=
  if scause.toInt < 0 then
    match (scause &&& 0x7FFFFFFFFFFFFFFF).toNat with
    | 1 => .supervisorSoftwareInterrupt
    | 5 => .supervisorTimerInterrupt
    | 9 => .supervisorExternalInterrupt
    | _ => .unknown scause.toInt
  else
    match scause.toNat with
    | 12 => .instructionPageFault
    | 13 => .loadPageFault
    | 15 => .storePageFault
    | 8 => .environmentCallFromUMode
    | 9 => .environmentCallFromSMode
    | 1 => .instructionAccessFault
    | _ => .unknown scause.toInt

/-- `generic_trap_handler`. The three supervisor interrupts go to `handle_interrupt`, whose arms
are empty; page faults panic; an environment call returns with `SEPC += 4`; the rest panics. -/
def genericTrapHandler (context : ExceptionContext) : Option ExceptionContext :=
  match ExceptionCause.fromScause context.scause with
  | .supervisorSoftwareInterrupt | .supervisorTimerInterrupt | .supervisorExternalInterrupt =>
      some context
  | .loadPageFault | .storePageFault | .instructionPageFault => none
  | .environmentCallFromUMode | .environmentCallFromSMode =>
      (addU64 context.sepc 4).map fun sepc => { context with sepc }
  | _ => none

/-- The class of each decoded cause in the handler's `match`. -/
def ExceptionCause.trapClass : ExceptionCause → TrapClass
  | .supervisorSoftwareInterrupt | .supervisorTimerInterrupt | .supervisorExternalInterrupt =>
      .interrupt
  | .environmentCallFromUMode | .environmentCallFromSMode => .systemCall
  | _ => .fatal

/-- The contract's classes for `scause`: with the interrupt bit 63 set, codes 1, 5 and 9 (the
supervisor software, timer and external interrupts) are interrupts; without it, codes 8 and 9
(environment calls from U- and S-mode) are system calls; every other word, the page faults 12,
13 and 15 among them, is fatal. -/
def trapClass (scause : BitVec 64) : TrapClass :=
  if 2 ^ 63 ≤ scause.toNat then
    match scause.toNat - 2 ^ 63 with
    | 1 | 5 | 9 => .interrupt
    | _ => .fatal
  else
    match scause.toNat with
    | 8 | 9 => .systemCall
    | _ => .fatal

/-- The handler's decoding agrees with the `scause` encoding. -/
theorem fromScause_trapClass (scause : BitVec 64) :
    (ExceptionCause.fromScause scause).trapClass = trapClass scause := by
  have hlt := scause.isLt
  unfold ExceptionCause.fromScause trapClass
  by_cases hneg : 2 ^ 63 ≤ scause.toNat
  · have hlow : (scause &&& 0x7FFFFFFFFFFFFFFF).toNat = scause.toNat - 2 ^ 63 := by
      rw [show (0x7FFFFFFFFFFFFFFF : BitVec 64) = BitVec.ofNat 64 (2 ^ 63 - 1) from rfl,
        toNat_and_low _ (by decide)]
      omega
    rw [if_pos (BitVec.toInt_neg_iff.2 (by omega)), if_pos hneg, hlow]
    split <;> simp_all [ExceptionCause.trapClass]
  · rw [if_neg (fun h => hneg (by have := BitVec.toInt_neg_iff.1 h; omega)), if_neg hneg]
    split <;> simp_all [ExceptionCause.trapClass]

/-- The handler follows its decoded class, returning from an environment call with `SEPC`
advanced by 4. -/
theorem genericTrapHandler_eq (context : ExceptionContext) :
    genericTrapHandler context =
      (ExceptionCause.fromScause context.scause).trapClass.outcome
        (advancePc (·.sepc) fun context sepc => { context with sepc }) context := by
  unfold genericTrapHandler
  generalize ExceptionCause.fromScause _ = cause
  cases cause <;> rfl

/-- The RISC-V handler obeys the contract. -/
theorem genericTrapHandler_obeys :
    Obeys (trapClass ·.scause) (advancePc (·.sepc) fun context sepc => { context with sepc })
      genericTrapHandler := fun context => by
  rw [genericTrapHandler_eq, fromScause_trapClass]

end Rv64i

/-! ## MIPS -/

namespace Mips64

/-- `ExceptionContext`: the general registers `$1 .. $31` and the saved CP0 registers. -/
structure ExceptionContext where
  gpr : Fin 31 → BitVec 64
  cp0Epc : BitVec 64
  cp0Badvaddr : BitVec 64
  cp0Cause : BitVec 64
  cp0Status : BitVec 64

/-- `ExceptionCause`. -/
inductive ExceptionCause where
  | int | tlbMod | tlbLoad | tlbStore | addrLoad | addrStore | busInstr | busData | syscall
  | breakpoint | unknown
  deriving DecidableEq, Repr

/-- `ExceptionCause::from(val)`: the cause named by `ExcCode`, bits 2-6 of the cause word. -/
def ExceptionCause.fromU64 (val : BitVec 64) : ExceptionCause :=
  match ((val >>> 2) &&& 0x1F).toNat with
  | 0 => .int
  | 1 => .tlbMod
  | 2 => .tlbLoad
  | 3 => .tlbStore
  | 4 => .addrLoad
  | 5 => .addrStore
  | 6 => .busInstr
  | 7 => .busData
  | 8 => .syscall
  | 9 => .breakpoint
  | _ => .unknown

/-- `generic_exception_handler`. An interrupt goes to `handle_interrupt`, which only tests the
pending and masked bits; TLB faults panic; a system call returns with `EPC += 4`; the rest
panics. -/
def genericExceptionHandler (context : ExceptionContext) : Option ExceptionContext :=
  match ExceptionCause.fromU64 context.cp0Cause with
  | .int => some context
  | .tlbLoad | .tlbStore | .tlbMod => none
  | .syscall => (addU64 context.cp0Epc 4).map fun cp0Epc => { context with cp0Epc }
  | _ => none

/-- The class of each decoded cause in the handler's `match`. -/
def ExceptionCause.trapClass : ExceptionCause → TrapClass
  | .int => .interrupt
  | .syscall => .systemCall
  | _ => .fatal

/-- The contract's classes for `ExcCode`: code 0 (`Int`) is an interrupt, code 8 (`Sys`) a
system call. -/
def trapClass (cp0Cause : BitVec 64) : TrapClass :=
  match cp0Cause.toNat / 4 % 32 with
  | 0 => .interrupt
  | 8 => .systemCall
  | _ => .fatal

/-- The handler's decoding agrees with `ExcCode`. -/
theorem fromU64_trapClass (cp0Cause : BitVec 64) :
    (ExceptionCause.fromU64 cp0Cause).trapClass = trapClass cp0Cause := by
  unfold ExceptionCause.fromU64 trapClass
  rw [show (0x1F : BitVec 64) = BitVec.ofNat 64 (2 ^ 5 - 1) from rfl,
    toNat_field cp0Cause 2 (by decide)]
  split <;> simp_all [ExceptionCause.trapClass]

/-- The handler follows its decoded class, returning from a system call with `EPC` advanced
by 4. -/
theorem genericExceptionHandler_eq (context : ExceptionContext) :
    genericExceptionHandler context =
      (ExceptionCause.fromU64 context.cp0Cause).trapClass.outcome
        (advancePc (·.cp0Epc) fun context cp0Epc => { context with cp0Epc }) context := by
  unfold genericExceptionHandler
  generalize ExceptionCause.fromU64 _ = cause
  cases cause <;> rfl

/-- The MIPS handler obeys the contract. -/
theorem genericExceptionHandler_obeys :
    Obeys (trapClass ·.cp0Cause) (advancePc (·.cp0Epc) fun context cp0Epc => { context with cp0Epc })
      genericExceptionHandler := fun context => by
  rw [genericExceptionHandler_eq, fromU64_trapClass]

end Mips64

/-! ## OpenRISC -/

namespace Openrisc64

/-- `ExceptionContext`: the general registers `r1 .. r31` and the saved special registers. -/
structure ExceptionContext where
  gpr : Fin 31 → BitVec 64
  epcr : BitVec 64
  eear : BitVec 64
  esr : BitVec 64
  tsr : BitVec 64
  srr : BitVec 64

/-- `ExceptionCause`. -/
inductive ExceptionCause where
  | int | trap | tlbMissLoad | tlbMissStore | tlbProtection | addrInvalid | instFault
  | dataFault | unknown
  deriving DecidableEq, Repr

/-- `ExceptionCause::from(val)`: the cause named by the low three bits of `val`. -/
def ExceptionCause.fromU64 (val : BitVec 64) : ExceptionCause :=
  match (val &&& 0x07).toNat with
  | 0 => .int
  | 1 => .trap
  | 2 => .tlbMissLoad
  | 3 => .tlbMissStore
  | 4 => .tlbProtection
  | 5 => .addrInvalid
  | 6 => .instFault
  | 7 => .dataFault
  | _ => .unknown

/-- `generic_exception_handler`: decode the trap type `(tsr >> 1) & 0x7`. An interrupt goes to
`handle_interrupt`, whose body is empty; TLB faults panic; a trap returns with `EPCR += 4`; the
rest panics. -/
def genericExceptionHandler (context : ExceptionContext) : Option ExceptionContext :=
  match ExceptionCause.fromU64 ((context.tsr >>> 1) &&& 0x7) with
  | .int => some context
  | .tlbMissLoad | .tlbMissStore | .tlbProtection => none
  | .trap => (addU64 context.epcr 4).map fun epcr => { context with epcr }
  | _ => none

/-- The class of each decoded cause in the handler's `match`. -/
def ExceptionCause.trapClass : ExceptionCause → TrapClass
  | .int => .interrupt
  | .trap => .systemCall
  | _ => .fatal

/-- The contract's classes for the trap type in bits 1-3 of `TSR`: type 0 is an interrupt,
type 1 a system call. -/
def trapClass (tsr : BitVec 64) : TrapClass :=
  match tsr.toNat / 2 % 8 with
  | 0 => .interrupt
  | 1 => .systemCall
  | _ => .fatal

/-- The handler's decoding agrees with the trap type. -/
theorem fromU64_trapClass (tsr : BitVec 64) :
    (ExceptionCause.fromU64 ((tsr >>> 1) &&& 0x7)).trapClass = trapClass tsr := by
  have hcode : ((tsr >>> 1) &&& 0x7 &&& 0x07).toNat = tsr.toNat / 2 % 8 := by
    rw [BitVec.and_assoc, BitVec.and_self]
    exact @toNat_field tsr 1 3 (by decide)
  unfold ExceptionCause.fromU64 trapClass
  rw [hcode]
  split <;> simp_all [ExceptionCause.trapClass]

/-- The handler follows its decoded class, returning from a trap with `EPCR` advanced by 4. -/
theorem genericExceptionHandler_eq (context : ExceptionContext) :
    genericExceptionHandler context =
      (ExceptionCause.fromU64 ((context.tsr >>> 1) &&& 0x7)).trapClass.outcome
        (advancePc (·.epcr) fun context epcr => { context with epcr }) context := by
  unfold genericExceptionHandler
  generalize ExceptionCause.fromU64 _ = cause
  cases cause <;> rfl

/-- The OpenRISC handler obeys the contract. -/
theorem genericExceptionHandler_obeys :
    Obeys (trapClass ·.tsr) (advancePc (·.epcr) fun context epcr => { context with epcr })
      genericExceptionHandler := fun context => by
  rw [genericExceptionHandler_eq, fromU64_trapClass]

end Openrisc64

/-! ## PowerPC -/

namespace Powerpc64

/-- `ExceptionContext`: thirty general registers and the saved special registers. -/
structure ExceptionContext where
  gpr : Fin 30 → BitVec 64
  srr0 : BitVec 64
  srr1 : BitVec 64
  xer : BitVec 64
  ctr : BitVec 64
  lr : BitVec 64
  dar : BitVec 64
  dsisr : BitVec 64
  sp : BitVec 64

/-- `ExceptionType`, named by vector offset. -/
inductive ExceptionType where
  | mcp | sysSoftTrap | externalInt | dataStorage | instructionStorage | syscall | programInt
  | unknown
  deriving DecidableEq, Repr

/-- `generic_exception_handler(vector_offset, context)`: name the vector, then an external
interrupt goes to `handle_interrupt`, whose body is empty; storage faults panic; a system call
returns with `SRR0 += 4`; the rest panics. -/
def genericExceptionHandler (vectorOffset : BitVec 64) (context : ExceptionContext) :
    Option ExceptionContext :=
  let cause : ExceptionType :=
    match vectorOffset.toNat with
    | 0x100 => .mcp
    | 0x300 => .externalInt
    | 0x500 => .dataStorage
    | 0x600 => .instructionStorage
    | 0xC00 => .syscall
    | 0xD00 => .programInt
    | _ => .unknown
  match cause with
  | .externalInt => some context
  | .dataStorage | .instructionStorage => none
  | .syscall => (addU64 context.srr0 4).map fun srr0 => { context with srr0 }
  | _ => none

/-- The contract's classes for the vector table the handler's entry points declare: `0x300`
(external interrupt) is an interrupt and `0xC00` a system call; the storage faults at `0x500`
and `0x600` and every other vector are fatal. -/
def trapClass (vectorOffset : BitVec 64) : TrapClass :=
  match vectorOffset.toNat with
  | 0x300 => .interrupt
  | 0xC00 => .systemCall
  | _ => .fatal

/-- For every vector, the PowerPC handler obeys the contract. -/
theorem genericExceptionHandler_obeys (vectorOffset : BitVec 64) :
    Obeys (fun _ => trapClass vectorOffset)
      (advancePc (·.srr0) fun context srr0 => { context with srr0 })
      (genericExceptionHandler vectorOffset) := fun context => by
  unfold genericExceptionHandler trapClass
  split <;> simp_all [TrapClass.outcome, advancePc]

end Powerpc64

/-! ## SPARC -/

namespace Sparcv9

/-- `ExceptionContext`: the globals `g1 .. g7`, the outs `o0 .. o7` and the trap registers. -/
structure ExceptionContext where
  gprG : Fin 7 → BitVec 64
  gprO : Fin 8 → BitVec 64
  tstate : BitVec 64
  tba : BitVec 64
  tpc : BitVec 64
  tnpc : BitVec 64
  canRestore : BitVec 64

/-- `TrapType`. -/
inductive TrapType where
  | reset | instructionAccessException | syscall | dataAccessException | interrupt | unknown
  deriving DecidableEq, Repr

/-- `generic_trap_handler(trap_id, context)`: compute `trap_offset = trap_id * 0x40` and name
the vector at that offset. An interrupt goes to `handle_interrupt`, whose body is empty; access
faults panic; a system call sets `TPC := TNPC`; the rest panics. -/
def genericTrapHandler (trapId : BitVec 64) (context : ExceptionContext) :
    Option ExceptionContext := do
  let trapOffset ← mulU64 trapId 0x40
  let cause : TrapType :=
    match trapOffset.toNat with
    | 0x00 => .reset
    | 0x40 => .instructionAccessException
    | 0x80 => .dataAccessException
    | 0x100 => .interrupt
    | 0x60 => .syscall
    | _ => .unknown
  match cause with
  | .interrupt => some context
  | .instructionAccessException | .dataAccessException => none
  | .syscall => some { context with tpc := context.tnpc }
  | _ => none

/-- Every trap offset is a multiple of `0x40`, so none is the system-call vector `0x60`. -/
theorem trapOffset_ne_syscall {trapId trapOffset : BitVec 64}
    (hoffset : mulU64 trapId 0x40 = some trapOffset) : trapOffset.toNat ≠ 0x60 := by
  unfold mulU64 at hoffset
  split at hoffset
  · cases hoffset
    rename_i hlt
    have hforty : (0x40 : BitVec 64).toNat = 64 := rfl
    rw [BitVec.toNat_mul, Nat.mod_eq_of_lt hlt, hforty]
    omega
  · cases hoffset

/-- The SPARC handler returns, with the frame as it was, for trap number 4 (the interrupt vector
at `0x100`) and panics for every other trap number: its system-call arm is dead. -/
theorem genericTrapHandler_eq (trapId : BitVec 64) (context : ExceptionContext) :
    genericTrapHandler trapId context = if trapId.toNat = 4 then some context else none := by
  unfold genericTrapHandler
  cases hoffset : mulU64 trapId 0x40 with
  | none =>
    -- only trap numbers of `2^58` and above overflow
    have hbig : trapId.toNat ≠ 4 := fun h4 => by
      rw [mulU64, if_pos (by rw [h4]; decide)] at hoffset
      cases hoffset
    rw [if_neg hbig]
    rfl
  | some trapOffset =>
    have hvalue : trapOffset.toNat = trapId.toNat * 64 := by
      unfold mulU64 at hoffset
      split at hoffset
      · cases hoffset
        rename_i hlt
        exact (BitVec.toNat_mul _ _).trans (Nat.mod_eq_of_lt hlt)
      · cases hoffset
    have hsyscall := trapOffset_ne_syscall hoffset
    simp only [Option.bind_eq_bind, Option.some_bind]
    by_cases h4 : trapId.toNat = 4
    · rw [if_pos h4, hvalue, h4]
    · -- every arm but the interrupt one panics, and the interrupt offset `0x100` is trap 4's
      rw [if_neg h4]
      split <;> rename_i hcause <;> try rfl
      all_goals split at hcause <;> first | omega | cases hcause

end Sparcv9

end SahneKarnal.Arch.Exception
