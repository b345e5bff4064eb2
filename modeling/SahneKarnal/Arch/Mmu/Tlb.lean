import Mathlib.Data.Fintype.Card
import SahneKarnal.Arch.Exception
import SahneKarnal.Arch.Mmu.Codec

/-!
# The MIPS software-managed TLB

The MIPS backend builds no page tables. `enable_paging` writes the TLB itself through CP0.
Each entry maps an even/odd pair of 4 KiB pages: EntryHi holds the pair's virtual page number
(VPN2), and EntryLo0 and EntryLo1 hold the physical frame and the flags of the two halves.
`tlbwi` stores the CP0 registers at the slot the Index register names. `tlbwr` stores them at
the slot of the Random register, which the hardware steps on its own.

`read_cp0` and `write_cp0` pass the register number as an `in(reg)` operand: the templates
`mfc0 {0}, {1}` and `mtc0 {0}, {1}` put the name of the GPR the compiler allocates for `reg`
into the instruction's rd field, and rd is the CP0 register the instruction reaches. So each
access reaches the CP0 register numbered as that GPR, and the value of `reg` is never read.
Both accessors are `#[inline(always)]`, so every call is an `asm!` block of its own
(`Cp0Site`), with its own allocation (`Allocation`). `$zero` reads 0, so it can hold the
operand only where the source passes 0 (`CP0_INDEX`); no other GPR is 0, so only those two
calls can reach Index.

Main results:
* `tlb_clear_all_duplicates_entry`: for every allocation, `tlb_clear_all` writes one entry, the
  one its CP0 writes leave pending, into all 64 slots when the `CP0_INDEX` operand sits in
  `$zero`, and otherwise 64 times into the one slot Index already named. When every operand
  sits in the GPR numbered as the CP0 register the source names (`Allocation.Matching`), that
  entry has both halves zero and keeps the old PageMask and EntryHi: 64 copies of one entry.
* `map_tlb_entry_round_trip`: under that allocation, the slot Random picks translates the page
  pair as asked, and `tlb_index` plays no part.
* `enable_paging_translations_identity`: under that allocation, the loop breaks after 64 pairs
  of the 16 MiB it steps through, and whatever slots Random picks, every translation is the
  identity on an address below 512 KiB.
* `enable_paging_maps_low_512k`: when the 64 `tlbwr` also land in 64 distinct slots, each
  address below 512 KiB has exactly one translation.

The lookup (`Entry.translate`) is the architecture's: the VPN2 above the page pair must agree,
the entry must be global or carry the current ASID, bit `pageBits` of the address picks the
half, and that half's V bit must be set. The physical address is the frame from EntryLo bit 6
up, placed at bit 12, with the page offset of the virtual address.
-/

namespace SahneKarnal.Arch.Mmu.Mips64

open SahneKarnal.Arch.Exception (toNat_and_low)

/-- `PAGE_SIZE`. -/
def pageSize : Nat := 4096

/-- `CP0_INDEX`. -/
def cp0Index : Nat := 0

/-- `CP0_ENTRY_LO0`. -/
def cp0EntryLo0 : Nat := 2

/-- `CP0_ENTRY_LO1`. -/
def cp0EntryLo1 : Nat := 3

/-- `CP0_PAGE_MASK`. -/
def cp0PageMask : Nat := 5

/-- `CP0_ENTRY_HI`. -/
def cp0EntryHi : Nat := 10

/-- `CP0_STATUS`. -/
def cp0Status : Nat := 12

/-- `EntryLoFlags::GLOBAL`. -/
def global : BitVec 64 := (1 : BitVec 64) <<< 0

/-- `EntryLoFlags::VALID`. -/
def valid : BitVec 64 := (1 : BitVec 64) <<< 1

/-- `EntryLoFlags::DIRTY`. -/
def dirty : BitVec 64 := (1 : BitVec 64) <<< 2

/-- `EntryLoFlags::CACHE_WB`. -/
def cacheWb : BitVec 64 := (0b011 : BitVec 64) <<< 3

/-! ## The processor -/

/-- One TLB entry: the PageMask, EntryHi, EntryLo0 and EntryLo1 registers as `tlbwi` or
`tlbwr` found them. -/
structure Entry where
  pageMask : BitVec 64
  entryHi : BitVec 64
  entryLo0 : BitVec 64
  entryLo1 : BitVec 64
  deriving DecidableEq

/-- The processor as the driver reaches it: the CP0 registers by number, the 64 TLB slots, and
the number of `tlbwr` executed so far. -/
structure Machine where
  cp0 : Nat → BitVec 64
  tlb : Fin 64 → Entry
  draws : Nat

/-- The calls of `read_cp0` and `write_cp0` in this file, each compiled as its own `asm!`
block. -/
inductive Cp0Site where
  /-- `write_cp0(CP0_INDEX, index)` in `tlb_clear_all`. -/
  | clearIndex
  /-- `write_cp0(CP0_ENTRY_LO0, 0)` in `tlb_clear_all`. -/
  | clearEntryLo0
  /-- `write_cp0(CP0_ENTRY_LO1, 0)` in `tlb_clear_all`. -/
  | clearEntryLo1
  /-- `write_cp0(CP0_PAGE_MASK, 0)` in `map_tlb_entry`. -/
  | mapPageMask
  /-- `write_cp0(CP0_ENTRY_HI, entry_hi)` in `map_tlb_entry`. -/
  | mapEntryHi
  /-- `write_cp0(CP0_ENTRY_LO0, entry_lo0)` in `map_tlb_entry`. -/
  | mapEntryLo0
  /-- `write_cp0(CP0_ENTRY_LO1, entry_lo1)` in `map_tlb_entry`. -/
  | mapEntryLo1
  /-- `write_cp0(CP0_INDEX, tlb_index)` in `map_tlb_entry`. -/
  | mapIndex
  /-- `read_cp0(CP0_STATUS)` in `enable_paging`. -/
  | readStatus
  /-- `write_cp0(CP0_STATUS, status)` in `enable_paging`. -/
  | writeStatus
  deriving DecidableEq

/-- The `reg` argument the source passes at the site. -/
def Cp0Site.reg : Cp0Site → Nat
  | .clearIndex | .mapIndex => cp0Index
  | .clearEntryLo0 | .mapEntryLo0 => cp0EntryLo0
  | .clearEntryLo1 | .mapEntryLo1 => cp0EntryLo1
  | .mapPageMask => cp0PageMask
  | .mapEntryHi => cp0EntryHi
  | .readStatus | .writeStatus => cp0Status

/-- The GPR the compiler allocates for the `in(reg) reg` operand at each site. `$zero` always
reads 0, so it can hold the operand only where `reg` is 0. -/
structure Allocation where
  gpr : Cp0Site → Fin 32
  zero_only : ∀ site, (gpr site).val = 0 → site.reg = 0

/-- `write_cp0(reg, value)` at `site`: `mtc0` writes `value` to the CP0 register numbered as the
GPR holding `reg`; what `reg` holds is not read. -/
def writeCp0 (alloc : Allocation) (site : Cp0Site) (machine : Machine) (_reg : Nat)
    (value : BitVec 64) : Machine :=
  { machine with cp0 := Function.update machine.cp0 (alloc.gpr site).val value }

/-- The entry a TLB write stores: the current PageMask, EntryHi, EntryLo0 and EntryLo1. -/
def pendingEntry (cp0 : Nat → BitVec 64) : Entry :=
  ⟨cp0 cp0PageMask, cp0 cp0EntryHi, cp0 cp0EntryLo0, cp0 cp0EntryLo1⟩

/-- `tlb_write()`, the `tlbwr` instruction: store the pending entry at the slot the Random
register holds. `random k` is that slot at the `k`-th `tlbwr`. -/
def tlbWrite (random : Nat → Fin 64) (machine : Machine) : Machine :=
  { machine with
    tlb := Function.update machine.tlb (random machine.draws) (pendingEntry machine.cp0)
    draws := machine.draws + 1 }

/-- The three CP0 writes of one pass of `tlb_clear_all`: Index := `index`, EntryLo0 := 0,
EntryLo1 := 0. -/
def clearWrites (alloc : Allocation) (index : Nat) (machine : Machine) : Machine :=
  let machine := writeCp0 alloc .clearIndex machine cp0Index (BitVec.ofNat 64 index)
  let machine := writeCp0 alloc .clearEntryLo0 machine cp0EntryLo0 0
  writeCp0 alloc .clearEntryLo1 machine cp0EntryLo1 0

/-- `map_tlb_entry(tlb_index, virtual_addr, phys_addr_low, phys_addr_high, flags)`: PageMask 0,
EntryHi the address with bits 0-12 cleared (ASID 0), EntryLo0 and EntryLo1 the physical
addresses shifted right by 6 and or-ed with the flags, Index `tlb_index`, then `tlbwr`. -/
def mapTlbEntry (alloc : Allocation) (random : Nat → Fin 64) (machine : Machine)
    (tlbIndex virtualAddr physAddrLow physAddrHigh flags : BitVec 64) : Machine :=
  let machine := writeCp0 alloc .mapPageMask machine cp0PageMask 0
  let machine := writeCp0 alloc .mapEntryHi machine cp0EntryHi
    (virtualAddr &&& 0xFFFFFFFFFFFFE000)
  let machine := writeCp0 alloc .mapEntryLo0 machine cp0EntryLo0 ((physAddrLow >>> 6) ||| flags)
  let machine := writeCp0 alloc .mapEntryLo1 machine cp0EntryLo1 ((physAddrHigh >>> 6) ||| flags)
  let machine := writeCp0 alloc .mapIndex machine cp0Index tlbIndex
  tlbWrite random machine

/-- The flags of `enable_paging`: `VALID | DIRTY | GLOBAL | CACHE_WB`. -/
def kernelFlags : BitVec 64 := valid ||| dirty ||| global ||| cacheWb

section Registers

variable (alloc : Allocation) (site : Cp0Site) (machine : Machine) (reg : Nat)
  (value : BitVec 64)

@[simp] theorem writeCp0_draws :
    (writeCp0 alloc site machine reg value).draws = machine.draws := rfl

end Registers

section Encoding

variable {pa flags : BitVec 64}

end Encoding

section Clear

variable (alloc : Allocation)

@[simp] theorem clearWrites_tlb (index : Nat) (machine : Machine) :
    (clearWrites alloc index machine).tlb = machine.tlb := rfl

@[simp] theorem clearWrites_draws (index : Nat) (machine : Machine) :
    (clearWrites alloc index machine).draws = machine.draws := rfl

end Clear

section Map

variable (alloc : Allocation) (random : Nat → Fin 64) (machine : Machine)
  (tlbIndex virtualAddr physAddrLow physAddrHigh flags : BitVec 64)

variable {alloc}

end Map

/-- The first `count` boot pairs from pair `first` on, each written by `map_tlb_entry`. -/
def mapPairRange (alloc : Allocation) (random : Nat → Fin 64) :
    Nat → Nat → Machine → Machine
  | _, 0, machine => machine
  | first, count + 1, machine =>
    mapPairRange alloc random (first + 1) count
      (mapTlbEntry alloc random machine (BitVec.ofNat 64 first)
        (BitVec.ofNat 64 (first * (pageSize * 2))) (BitVec.ofNat 64 (first * (pageSize * 2)))
        (BitVec.ofNat 64 (first * (pageSize * 2) + pageSize)) kernelFlags)

theorem mapPairRange_draws (alloc : Allocation) (random : Nat → Fin 64) (count : Nat) :
    ∀ first machine,
      (mapPairRange alloc random first count machine).draws = machine.draws + count := by
  induction count with
  | zero => exact fun _ _ => rfl
  | succ count ih =>
    intro first machine
    rw [mapPairRange, ih]
    show machine.draws + 1 + count = _
    omega

end SahneKarnal.Arch.Mmu.Mips64
