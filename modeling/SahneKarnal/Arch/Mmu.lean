import Mathlib.Algebra.Group.Nat.Basic
import SahneKarnal.Mmu

/-!
# The backends' page-table builders

Each radix backend's `map_page` is the engine's `mapPage` at its own descriptor `Format` and
`get_indices`. The x86-64, AArch64, RISC-V Sv39 and LoongArch builders go through four (Sv39:
three) levels. The SPARC builder goes through three, with indices taken from VA bits 21 and up.
The PowerPC builder has its own body: it descends one level and writes the leaf into the L2
table.

Next to each builder stands the walk its hardware performs on the same tables. The boot
loops call the builder once per 4 KiB page of the low 16 MiB. After the first iteration (for
RISC-V, the second), the walk no longer finds the mappings and the builders have written into
physical page 0, as the mock allocator folds every level into one buffer
(`Mmu.mapPage_fresh_leaf_in_mock`). On PowerPC no mapping is ever walkable
(`Powerpc64.walkPage_none_after_mapPages`).
-/

namespace SahneKarnal.Arch.Mmu

open SahneKarnal.Mmu

/-- The four 9-bit indices `get_indices` takes from bits 39, 30, 21 and 12 of an address. -/
def radixIndices (virtualAddr : Nat) : Nat × Nat × Nat × Nat :=
  ((virtualAddr >>> 39) &&& 0x1FF, (virtualAddr >>> 30) &&& 0x1FF,
    (virtualAddr >>> 21) &&& 0x1FF, (virtualAddr >>> 12) &&& 0x1FF)

/-! ## x86-64 -/

namespace Amd64

/-- `PageFlags::PRESENT`. -/
def present : BitVec 64 := 1 <<< 0

/-- `PageFlags::WRITABLE`. -/
def writable : BitVec 64 := 1 <<< 1

/-- `PageFlags::HUGE_PAGE`. -/
def hugePage : BitVec 64 := 1 <<< 7

/-- `PageFlags::NO_EXEC`. -/
def noExec : BitVec 64 := 1 <<< 63

/-- `PageTableEntry::is_present`. -/
def PageTableEntry.isPresent (entry : BitVec 64) : Bool := entry &&& present != 0

/-- `PageTableEntry::addr`: bits 12 to 51. -/
def PageTableEntry.addr (entry : BitVec 64) : Nat := (entry &&& 0x000FFFFFFFFFF000).toNat

/-- `PageTableEntry::new`. -/
def PageTableEntry.new (addr : Nat) (flags : BitVec 64) : BitVec 64 :=
  BitVec.ofNat 64 addr ||| flags

/-- `get_indices`. -/
def getIndices (virtualAddr : Nat) : Nat × Nat × Nat × Nat := radixIndices virtualAddr

/-- The descriptors of `map_page`: intermediate entries are `PRESENT | WRITABLE`. -/
def format : Format where
  follows := PageTableEntry.isPresent
  tableAddr := PageTableEntry.addr
  newTable addr := PageTableEntry.new addr (present ||| writable)
  newPage := PageTableEntry.new

/-- `map_page(pml4_addr, virtual_addr, physical_addr, flags)`, with `PAGE_TABLE_MOCK` at
`pageTableMock`. -/
def mapPage (pageTableMock : Nat) (memory : PhysicalMemory)
    (pml4Addr virtualAddr physicalAddr : Nat) (flags : BitVec 64) : PhysicalMemory :=
  let indices := getIndices virtualAddr
  Mmu.mapPage format pageTableMock memory pml4Addr [indices.1, indices.2.1, indices.2.2.1]
    indices.2.2.2 physicalAddr flags

/-- The flags of `setup_initial_paging`: `PRESENT | WRITABLE | NO_EXEC`. -/
def kernelFlags : BitVec 64 := present ||| writable ||| noExec

/-- The identity-mapping loop of `setup_initial_paging` after its first `pages` iterations. -/
def identityMapping (pageTableMock pml4Addr : Nat) (memory : PhysicalMemory) (pages : Nat) :
    PhysicalMemory :=
  mapLoop (fun memory virtualAddr physicalAddr =>
      mapPage pageTableMock memory pml4Addr virtualAddr physicalAddr kernelFlags) memory 0 pages

/-- `setup_initial_paging`: zero the PML4 at `pml4Addr`, then identity-map the first 16 MiB. -/
def setupInitialPaging (pageTableMock pml4Addr : Nat) (memory : PhysicalMemory) :
    PhysicalMemory :=
  identityMapping pageTableMock pml4Addr (zeroTable pml4Addr memory) 4096

/-- The processor's walk: an entry is a table when it is present and not a huge page. -/
def walker : Walker where
  isTable entry := PageTableEntry.isPresent entry && entry &&& hugePage == 0
  tableAddr := PageTableEntry.addr
  isPage := PageTableEntry.isPresent

/-- The leaf entry the processor finds for `virtualAddr` from the PML4 at `pml4Addr`. -/
def walkPage (memory : PhysicalMemory) (pml4Addr virtualAddr : Nat) : Option (BitVec 64) :=
  let indices := getIndices virtualAddr
  walk walker memory pml4Addr [indices.1, indices.2.1, indices.2.2.1] indices.2.2.2

end Amd64

/-! ## AArch64 -/

namespace Armv9

/-- `DescriptorFlags::PRESENT`. -/
def present : BitVec 64 := 1 <<< 0

/-- `DescriptorFlags::TABLE_OR_BLOCK`, which is also `DescriptorFlags::PAGE`. -/
def tableOrBlock : BitVec 64 := 1 <<< 1

/-- `KERNEL_START_VADDR`. -/
def kernelStartVaddr : Nat := 0xFFFF800000000000

/-- `PageTableEntry::is_present`: bit 0 or bit 1. -/
def PageTableEntry.isPresent (entry : BitVec 64) : Bool := entry &&& (present ||| tableOrBlock) != 0

/-- `PageTableEntry::new_table`. -/
def PageTableEntry.newTable (addr : Nat) : BitVec 64 :=
  BitVec.ofNat 64 addr ||| (present ||| tableOrBlock)

/-- `PageTableEntry::new_page`. -/
def PageTableEntry.newPage (addr : Nat) (flags : BitVec 64) : BitVec 64 :=
  BitVec.ofNat 64 addr ||| (flags ||| tableOrBlock ||| present)

/-- The output address of a descriptor, `entry & 0x0000_FFFF_FFFF_F000`. -/
def outputAddr (entry : BitVec 64) : Nat := (entry &&& 0x0000FFFFFFFFF000).toNat

/-- `get_indices`. -/
def getIndices (virtualAddr : Nat) : Nat × Nat × Nat × Nat := radixIndices virtualAddr

/-- The descriptors of `map_page`. -/
def format : Format where
  follows := PageTableEntry.isPresent
  tableAddr := outputAddr
  newTable := PageTableEntry.newTable
  newPage := PageTableEntry.newPage

/-- `map_page(root_table_addr, virtual_addr, physical_addr, flags)`. -/
def mapPage (pageTableMock : Nat) (memory : PhysicalMemory)
    (rootTableAddr virtualAddr physicalAddr : Nat) (flags : BitVec 64) : PhysicalMemory :=
  let indices := getIndices virtualAddr
  Mmu.mapPage format pageTableMock memory rootTableAddr [indices.1, indices.2.1, indices.2.2.1]
    indices.2.2.2 physicalAddr flags

/-- The flags of `enable_mmu`: `PRESENT | AP_RW_KERN_ONLY | SH_INNER | AF_ACCESSED |
ATTR_IDX_NORM_RW`. -/
def kernelFlags : BitVec 64 := present ||| 0 ||| (0x3 <<< 8) ||| (1 <<< 10) ||| 0

/-- The mapping loop of `enable_mmu` after its first `pages` iterations: map
`KERNEL_START_VADDR + addr` to `addr`, from the static `L1_TABLE` at `l1Addr`. The loop runs
over the first 16 MiB, 4096 pages. -/
def enableMmuMappings (pageTableMock l1Addr : Nat) (memory : PhysicalMemory) (pages : Nat) :
    PhysicalMemory :=
  mapLoop (fun memory virtualAddr physicalAddr =>
      mapPage pageTableMock memory l1Addr virtualAddr physicalAddr kernelFlags)
    memory kernelStartVaddr pages

/-- The VMSA walk with 4 KiB granules: bits `[1:0] = 0b11` mark a table descriptor at levels 0
to 2 and a page descriptor at level 3. -/
def walker : Walker where
  isTable entry := entry &&& 3 == 3
  tableAddr := outputAddr
  isPage entry := entry &&& 3 == 3

/-- The page descriptor the MMU finds for `virtualAddr`. -/
def walkPage (memory : PhysicalMemory) (rootTableAddr virtualAddr : Nat) : Option (BitVec 64) :=
  let indices := getIndices virtualAddr
  walk walker memory rootTableAddr [indices.1, indices.2.1, indices.2.2.1] indices.2.2.2

end Armv9

/-! ## RISC-V Sv39 -/

namespace Rv64i

/-- `PageFlags::VALID`. -/
def valid : BitVec 64 := 1 <<< 0

/-- `PageFlags::READ`. -/
def read : BitVec 64 := 1 <<< 1

/-- `PageFlags::WRITE`. -/
def write : BitVec 64 := 1 <<< 2

/-- `PageFlags::EXEC`. -/
def exec : BitVec 64 := 1 <<< 3

/-- `PageFlags::GLOBAL`. -/
def global : BitVec 64 := 1 <<< 5

/-- `PageFlags::ACCESSED`. -/
def accessed : BitVec 64 := 1 <<< 6

/-- `PageFlags::DIRTY`. -/
def dirty : BitVec 64 := 1 <<< 7

/-- `PageFlags::PPN_MASK`: bits 10 to 53. -/
def ppnMask : BitVec 64 := 0x003FFFFFFFFFFC00

/-- `PageTableEntry::is_valid`. -/
def PageTableEntry.isValid (entry : BitVec 64) : Bool := entry &&& valid != 0

/-- `PageTableEntry::new_table`: the page number `addr / PAGE_SIZE` from bit 10, and `VALID`. -/
def PageTableEntry.newTable (addr : Nat) : BitVec 64 :=
  (BitVec.ofNat 64 (addr / 4096) <<< 10) ||| valid

/-- `PageTableEntry::new_page`. -/
def PageTableEntry.newPage (addr : Nat) (flags : BitVec 64) : BitVec 64 :=
  (BitVec.ofNat 64 (addr / 4096) <<< 10) ||| flags ||| valid

/-- The table address `map_page` decodes, `(entry & PPN_MASK) << 2`. -/
def tableAddr (entry : BitVec 64) : Nat := ((entry &&& ppnMask) <<< 2).toNat

/-- `get_indices`: bits 30, 21 and 12. -/
def getIndices (virtualAddr : Nat) : Nat × Nat × Nat :=
  ((virtualAddr >>> 30) &&& 0x1FF, (virtualAddr >>> 21) &&& 0x1FF, (virtualAddr >>> 12) &&& 0x1FF)

/-- The descriptors of `map_page`. -/
def format : Format where
  follows := PageTableEntry.isValid
  tableAddr := tableAddr
  newTable := PageTableEntry.newTable
  newPage := PageTableEntry.newPage

/-- `map_page(root_table_addr, virtual_addr, physical_addr, flags)`. -/
def mapPage (pageTableMock : Nat) (memory : PhysicalMemory)
    (rootTableAddr virtualAddr physicalAddr : Nat) (flags : BitVec 64) : PhysicalMemory :=
  let indices := getIndices virtualAddr
  Mmu.mapPage format pageTableMock memory rootTableAddr [indices.1, indices.2.1] indices.2.2
    physicalAddr flags

/-- The flags of `setup_initial_paging`: `READ | WRITE | EXEC | GLOBAL | ACCESSED | DIRTY`. -/
def kernelFlags : BitVec 64 := read ||| write ||| exec ||| global ||| accessed ||| dirty

/-- The identity-mapping loop of `setup_initial_paging` after its first `pages` iterations. -/
def identityMapping (pageTableMock l1Addr : Nat) (memory : PhysicalMemory) (pages : Nat) :
    PhysicalMemory :=
  mapLoop (fun memory virtualAddr physicalAddr =>
      mapPage pageTableMock memory l1Addr virtualAddr physicalAddr kernelFlags) memory 0 pages

/-- `setup_initial_paging`: zero the root at `l1Addr`, then identity-map the first 16 MiB. -/
def setupInitialPaging (pageTableMock l1Addr : Nat) (memory : PhysicalMemory) : PhysicalMemory :=
  identityMapping pageTableMock l1Addr (zeroTable l1Addr memory) 4096

/-- The Sv39 walk: a valid entry with `R`, `W` and `X` clear points to the next table, a valid
entry with one of them set is a leaf. -/
def walker : Walker where
  isTable entry := PageTableEntry.isValid entry && entry &&& (read ||| write ||| exec) == 0
  tableAddr := tableAddr
  isPage entry := PageTableEntry.isValid entry && entry &&& (read ||| write ||| exec) != 0

/-- The leaf entry the Sv39 walk finds for `virtualAddr`. -/
def walkPage (memory : PhysicalMemory) (rootTableAddr virtualAddr : Nat) : Option (BitVec 64) :=
  let indices := getIndices virtualAddr
  walk walker memory rootTableAddr [indices.1, indices.2.1] indices.2.2

end Rv64i

/-! ## LoongArch -/

namespace Loongarch64

/-- `PageFlags::VALID`. -/
def valid : BitVec 64 := 1 <<< 0

/-- `PageFlags::DIRTY`. -/
def dirty : BitVec 64 := 1 <<< 1

/-- `PageFlags::READ`. -/
def read : BitVec 64 := 1 <<< 2

/-- `PageFlags::WRITE`. -/
def write : BitVec 64 := 1 <<< 3

/-- `PageFlags::EXEC`. -/
def exec : BitVec 64 := 1 <<< 4

/-- `PageFlags::GLOBAL`. -/
def global : BitVec 64 := 1 <<< 5

/-- `PageFlags::CACHE_K0`. -/
def cacheK0 : BitVec 64 := 0 <<< 6

/-- `PageFlags::ADDR_MASK`. -/
def addrMask : BitVec 64 := 0xFFFFFFFFFFFFF000

/-- `PageTableEntry::is_valid`. -/
def PageTableEntry.isValid (entry : BitVec 64) : Bool := entry &&& valid != 0

/-- `PageTableEntry::addr`. -/
def PageTableEntry.addr (entry : BitVec 64) : Nat := (entry &&& addrMask).toNat

/-- `PageTableEntry::new`. -/
def PageTableEntry.new (addr : Nat) (flags : BitVec 64) : BitVec 64 :=
  BitVec.ofNat 64 addr ||| flags

/-- `get_indices`. -/
def getIndices (virtualAddr : Nat) : Nat × Nat × Nat × Nat := radixIndices virtualAddr

/-- The descriptors of `map_page`: intermediate entries carry `VALID` only, leaves
`flags | VALID`. -/
def format : Format where
  follows := PageTableEntry.isValid
  tableAddr := PageTableEntry.addr
  newTable addr := PageTableEntry.new addr valid
  newPage addr flags := PageTableEntry.new addr (flags ||| valid)

/-- `map_page(root_table_addr, virtual_addr, physical_addr, flags)`. -/
def mapPage (pageTableMock : Nat) (memory : PhysicalMemory)
    (rootTableAddr virtualAddr physicalAddr : Nat) (flags : BitVec 64) : PhysicalMemory :=
  let indices := getIndices virtualAddr
  Mmu.mapPage format pageTableMock memory rootTableAddr [indices.1, indices.2.1, indices.2.2.1]
    indices.2.2.2 physicalAddr flags

/-- The flags of `setup_initial_paging`: `READ | WRITE | EXEC | DIRTY | GLOBAL | CACHE_K0`. -/
def kernelFlags : BitVec 64 := read ||| write ||| exec ||| dirty ||| global ||| cacheK0

/-- The identity-mapping loop of `setup_initial_paging` after its first `pages` iterations. -/
def identityMapping (pageTableMock l1Addr : Nat) (memory : PhysicalMemory) (pages : Nat) :
    PhysicalMemory :=
  mapLoop (fun memory virtualAddr physicalAddr =>
      mapPage pageTableMock memory l1Addr virtualAddr physicalAddr kernelFlags) memory 0 pages

/-- `setup_initial_paging`: zero the root at `l1Addr`, then identity-map the first 16 MiB. -/
def setupInitialPaging (pageTableMock l1Addr : Nat) (memory : PhysicalMemory) : PhysicalMemory :=
  identityMapping pageTableMock l1Addr (zeroTable l1Addr memory) 4096

/-- The walk over the same descriptors: a valid entry points to the next table or is the leaf. -/
def walker : Walker where
  isTable := PageTableEntry.isValid
  tableAddr := PageTableEntry.addr
  isPage := PageTableEntry.isValid

/-- The leaf entry the walk finds for `virtualAddr`. -/
def walkPage (memory : PhysicalMemory) (rootTableAddr virtualAddr : Nat) : Option (BitVec 64) :=
  let indices := getIndices virtualAddr
  walk walker memory rootTableAddr [indices.1, indices.2.1, indices.2.2.1] indices.2.2.2

end Loongarch64

/-- The boot loops stop producing walkable mappings at once. Take root tables at `0x200000`,
`PAGE_TABLE_MOCK` at `0x201000` and zeroed memory. After one iteration, the walk of the first
page faults on x86-64, AArch64, RISC-V and LoongArch. After two, x86-64, AArch64 and LoongArch
have written a table descriptor into physical word 0, and RISC-V the second leaf into physical
word 8. -/
theorem boot_mappings_break_the_tree :
    Amd64.walkPage (Amd64.identityMapping 0x201000 0x200000 (fun _ => 0) 1) 0x200000 0 = none ∧
    Amd64.identityMapping 0x201000 0x200000 (fun _ => 0) 2 0 = 0x201003 ∧
    Armv9.walkPage (Armv9.enableMmuMappings 0x201000 0x200000 (fun _ => 0) 1) 0x200000
      Armv9.kernelStartVaddr = none ∧
    Armv9.enableMmuMappings 0x201000 0x200000 (fun _ => 0) 2 0 = 0x201003 ∧
    Rv64i.walkPage (Rv64i.identityMapping 0x201000 0x200000 (fun _ => 0) 1) 0x200000 0 = none ∧
    Rv64i.identityMapping 0x201000 0x200000 (fun _ => 0) 2 8 = 0x4EF ∧
    Loongarch64.walkPage (Loongarch64.identityMapping 0x201000 0x200000 (fun _ => 0) 1)
      0x200000 0 = none ∧
    Loongarch64.identityMapping 0x201000 0x200000 (fun _ => 0) 2 0 = 0x201001 := by
  decide

/-! ## PowerPC -/

namespace Powerpc64

/-- `PageFlags::VALID`. -/
def valid : BitVec 64 := 1 <<< 0

/-- `PageFlags::TABLE`. -/
def table : BitVec 64 := 1 <<< 1

/-- `PageFlags::KERNEL_RW`. -/
def kernelRw : BitVec 64 := 1 <<< 4

/-- `PageFlags::EXEC`. -/
def exec : BitVec 64 := 1 <<< 5

/-- `PageFlags::ACCESSED`. -/
def accessed : BitVec 64 := 1 <<< 6

/-- `PageFlags::WIMGE_MASK`. -/
def wimgeMask : BitVec 64 := 0x1F <<< 8

/-- `PageFlags::ADDR_MASK`. -/
def addrMask : BitVec 64 := 0xFFFFFFFFFFFFF000

/-- `PageTableEntry::is_valid`. -/
def PageTableEntry.isValid (entry : BitVec 64) : Bool := entry &&& valid != 0

/-- `PageTableEntry::new_table`. -/
def PageTableEntry.newTable (addr : Nat) : BitVec 64 := BitVec.ofNat 64 addr ||| (valid ||| table)

/-- `PageTableEntry::new_page`. -/
def PageTableEntry.newPage (addr : Nat) (flags : BitVec 64) : BitVec 64 :=
  BitVec.ofNat 64 addr ||| flags ||| valid

/-- `get_indices`. -/
def getIndices (virtualAddr : Nat) : Nat × Nat × Nat × Nat := radixIndices virtualAddr

/-- The descriptors of the one "get or create" block `map_page` has. -/
def format : Format where
  follows := PageTableEntry.isValid
  tableAddr entry := (entry &&& addrMask).toNat
  newTable := PageTableEntry.newTable
  newPage := PageTableEntry.newPage

/-- `map_page(root_table_addr, virtual_addr, physical_addr, flags)`: get or create the L2 table
from the L1 entry, skip L3 and L4, and write the leaf into entry `l4i` of the L2 table. The code
comments that last table as "Hata: Bu L2 adresidir". -/
def mapPage (pageTableMock : Nat) (memory : PhysicalMemory)
    (rootTableAddr virtualAddr physicalAddr : Nat) (flags : BitVec 64) : PhysicalMemory :=
  let indices := getIndices virtualAddr
  let l2 := getOrCreate format pageTableMock memory rootTableAddr indices.1
  Function.update l2.1 (entryAddress l2.2 indices.2.2.2) (PageTableEntry.newPage physicalAddr flags)

/-- The flags of `init_mmu`: `KERNEL_RW | EXEC | ACCESSED | WIMGE_MASK`. -/
def kernelFlags : BitVec 64 := kernelRw ||| exec ||| accessed ||| wimgeMask

/-- The identity-mapping loop of `init_mmu` after its first `pages` iterations, from the
static `L1_TABLE` at `l1Addr`. The loop runs over the first 16 MiB, 4096 pages. -/
def initMmuMappings (pageTableMock l1Addr : Nat) (memory : PhysicalMemory) (pages : Nat) :
    PhysicalMemory :=
  mapLoop (fun memory virtualAddr physicalAddr =>
      mapPage pageTableMock memory l1Addr virtualAddr physicalAddr kernelFlags) memory 0 pages

/-- The four-level radix walk: `VALID | TABLE` marks a table descriptor, a valid entry without
`TABLE` a leaf. -/
def walker : Walker where
  isTable entry := entry &&& (valid ||| table) == valid ||| table
  tableAddr entry := (entry &&& addrMask).toNat
  isPage entry := PageTableEntry.isValid entry && entry &&& table == 0

/-- The leaf entry the radix walk finds for `virtualAddr`. -/
def walkPage (memory : PhysicalMemory) (rootTableAddr virtualAddr : Nat) : Option (BitVec 64) :=
  let indices := getIndices virtualAddr
  walk walker memory rootTableAddr [indices.1, indices.2.1, indices.2.2.1] indices.2.2.2

/-- Every index `get_indices` returns names an entry of a table. -/
theorem radixIndex_lt (virtualAddr shift : Nat) :
    (virtualAddr >>> shift) &&& 0x1FF < tableEntryCount := by
  rw [show (0x1FF : Nat) = 2 ^ 9 - 1 from rfl, Nat.and_pow_two_sub_one_eq_mod]
  exact Nat.mod_lt _ (by decide)

/-! ### No PowerPC mapping is ever walkable -/

/-- What PowerPC's `map_page` leaves behind from zeroed tables: every root entry is empty or
points to the mock table, and no entry of the mock table has `TABLE` (bit 1) set. -/
structure OnlyLeaves (pageTableMock rootTableAddr : Nat) (memory : PhysicalMemory) : Prop where
  root_entry : ∀ index < tableEntryCount,
    memory (entryAddress rootTableAddr index) = 0 ∨
      memory (entryAddress rootTableAddr index) = PageTableEntry.newTable pageTableMock
  mock_entry : ∀ index < tableEntryCount,
    (memory (entryAddress pageTableMock index)).getLsbD 1 = false

theorem onlyLeaves_zero (pageTableMock rootTableAddr : Nat) :
    OnlyLeaves pageTableMock rootTableAddr (fun _ => 0) :=
  ⟨fun _ _ => Or.inl rfl, fun _ _ => BitVec.getLsbD_zero⟩

/-- An entry without `TABLE` stops the radix walk. -/
theorem walker_isTable_of_getLsbD {entry : BitVec 64} (hentry : entry.getLsbD 1 = false) :
    walker.isTable entry = false := by
  have htable : table.getLsbD 1 = true := by decide
  simp only [walker, beq_eq_false_iff_ne, ne_eq]
  intro heq
  simpa [hentry, htable] using congrArg (BitVec.getLsbD · 1) heq

/-- The descriptor of a new table is a table descriptor. -/
theorem walker_isTable_newTable (addr : Nat) :
    walker.isTable (PageTableEntry.newTable addr) = true := by
  have habsorb (x y : BitVec 64) : (x ||| y) &&& y = y := by
    ext i
    simp only [BitVec.getLsbD_and, BitVec.getLsbD_or]
    cases x.getLsbD i <;> cases y.getLsbD i <;> rfl
  simp only [walker, PageTableEntry.newTable, habsorb, beq_self_eq_true]

section Runs

variable {pageTableMock rootTableAddr : Nat}

/-- From tables in the shape `OnlyLeaves` describes, the radix walk faults for every address:
the root entry is empty, or it leads to the mock table, whose entries are no tables. -/
theorem walkPage_eq_none (hback : format.tableAddr (PageTableEntry.newTable pageTableMock) =
      pageTableMock) {memory : PhysicalMemory} (hinv : OnlyLeaves pageTableMock rootTableAddr memory)
    (virtualAddr : Nat) : walkPage memory rootTableAddr virtualAddr = none := by
  simp only [walkPage, getIndices, radixIndices, walk]
  rcases hinv.root_entry _ (radixIndex_lt virtualAddr 39) with hroot | hroot
  · rw [hroot, if_neg (by decide)]
  · have hnext : walker.tableAddr (PageTableEntry.newTable pageTableMock) = pageTableMock := hback
    rw [hroot, if_pos (walker_isTable_newTable pageTableMock), hnext,
      walker_isTable_of_getLsbD (hinv.mock_entry _ (radixIndex_lt virtualAddr 30))]
    rfl

/-- Writing a leaf without `TABLE` into the mock table keeps the shape. -/
theorem OnlyLeaves.update_leaf (hapart : TablesApart rootTableAddr pageTableMock)
    {memory : PhysicalMemory} (hinv : OnlyLeaves pageTableMock rootTableAddr memory)
    {last : Nat} (hlast : last < tableEntryCount) {leaf : BitVec 64}
    (hleaf : leaf.getLsbD 1 = false) :
    OnlyLeaves pageTableMock rootTableAddr
      (Function.update memory (entryAddress pageTableMock last) leaf) := by
  refine ⟨fun index hindex => ?_, fun index hindex => ?_⟩
  · rw [Function.update_noteq (entryAddress_ne_of_apart hapart hindex hlast)]
    exact hinv.root_entry index hindex
  · by_cases hsame : index = last
    · rw [hsame, Function.update_same]
      exact hleaf
    · rw [Function.update_noteq (by unfold entryAddress; omega)]
      exact hinv.mock_entry index hindex

/-- Allocating the mock table and pointing a root entry at it keeps the shape. -/
theorem OnlyLeaves.alloc_root (hapart : TablesApart rootTableAddr pageTableMock)
    {memory : PhysicalMemory} (hinv : OnlyLeaves pageTableMock rootTableAddr memory)
    {first : Nat} (hfirst : first < tableEntryCount) :
    OnlyLeaves pageTableMock rootTableAddr
      (Function.update (allocPageTable pageTableMock memory) (entryAddress rootTableAddr first)
        (PageTableEntry.newTable pageTableMock)) := by
  refine ⟨fun index hindex => ?_, fun index hindex => ?_⟩
  · by_cases hsame : index = first
    · rw [hsame, Function.update_same]
      exact Or.inr rfl
    · rw [Function.update_noteq (by unfold entryAddress; omega), allocPageTable,
        zeroTable_apart (TablesApart.symm hapart) memory hindex]
      exact hinv.root_entry index hindex
  · rw [Function.update_noteq (entryAddress_ne_of_apart (TablesApart.symm hapart) hindex hfirst),
      allocPageTable, zeroTable_entry _ _ hindex]
    exact BitVec.getLsbD_zero

/-- One call of `map_page` keeps the tables in that shape, when its leaf has no `TABLE` bit. -/
theorem onlyLeaves_mapPage (hback : format.tableAddr (PageTableEntry.newTable pageTableMock) =
      pageTableMock) (hapart : TablesApart rootTableAddr pageTableMock)
    {memory : PhysicalMemory} (hinv : OnlyLeaves pageTableMock rootTableAddr memory)
    (virtualAddr physicalAddr : Nat) {flags : BitVec 64}
    (hleaf : (PageTableEntry.newPage physicalAddr flags).getLsbD 1 = false) :
    OnlyLeaves pageTableMock rootTableAddr
      (mapPage pageTableMock memory rootTableAddr virtualAddr physicalAddr flags) := by
  have hfirst := radixIndex_lt virtualAddr 39
  have hlast := radixIndex_lt virtualAddr 12
  simp only [mapPage, getIndices, radixIndices, getOrCreate]
  split
  · -- the root entry is valid, so it is the mock table's descriptor
    rename_i hvalid
    have hentry := (hinv.root_entry _ hfirst).resolve_left fun hzero => by
      rw [hzero] at hvalid
      exact absurd hvalid (by decide)
    rw [hentry, hback]
    exact hinv.update_leaf hapart hlast hleaf
  · exact (hinv.alloc_root hapart hfirst).update_leaf hapart hlast hleaf

/-- Every mapping PowerPC's `map_page` makes is unreachable. Start from zeroed tables (root
apart from the mock table, whose descriptor decodes back to it) and run any sequence of
`map_page(root, v, p, f)` calls whose leaves carry no `TABLE` bit. Afterwards the four-level
radix walk faults for every address. -/
theorem walkPage_none_after_mapPages
    (hback : format.tableAddr (PageTableEntry.newTable pageTableMock) = pageTableMock)
    (hapart : TablesApart rootTableAddr pageTableMock) (mappings : List (Nat × Nat × BitVec 64))
    (hleaves : ∀ mapping ∈ mappings,
      (PageTableEntry.newPage mapping.2.1 mapping.2.2).getLsbD 1 = false)
    (virtualAddr : Nat) :
    walkPage (mappings.foldl (fun memory mapping =>
        mapPage pageTableMock memory rootTableAddr mapping.1 mapping.2.1 mapping.2.2)
      (fun _ => 0)) rootTableAddr virtualAddr = none := by
  suffices hrun : ∀ (memory : PhysicalMemory), OnlyLeaves pageTableMock rootTableAddr memory →
      OnlyLeaves pageTableMock rootTableAddr (mappings.foldl (fun memory mapping =>
        mapPage pageTableMock memory rootTableAddr mapping.1 mapping.2.1 mapping.2.2) memory) from
    walkPage_eq_none hback (hrun _ (onlyLeaves_zero _ _)) virtualAddr
  induction mappings with
  | nil => exact fun _ hinv => hinv
  | cons mapping rest ih =>
    intro memory hinv
    exact ih (fun other hother => hleaves other (List.mem_cons_of_mem _ hother)) _
      (onlyLeaves_mapPage hback hapart hinv _ _ (hleaves mapping (List.mem_cons_self _ _)))

end Runs

end Powerpc64

/-! ## SPARC -/

namespace Sparcv9

/-- `PageFlags::TYPE_MASK`. -/
def typeMask : BitVec 64 := 0x3

/-- `PageFlags::TABLE`. -/
def table : BitVec 64 := 0b01

/-- `PageFlags::PAGE_8K`. -/
def page8K : BitVec 64 := 0b10

/-- `PageFlags::PFN_MASK`: bits 13 and up. -/
def pfnMask : BitVec 64 := 0xFFFFFFFFFFFFE000

/-- `get_indices`: the second, "corrected" triple, from bits 39, 30 and 21; the first triple
is shadowed. -/
def getIndices (virtualAddr : Nat) : Nat × Nat × Nat :=
  ((virtualAddr >>> 39) &&& 0x1FF, (virtualAddr >>> 30) &&& 0x1FF, (virtualAddr >>> 21) &&& 0x1FF)

/-- The descriptors of `map_page`: it follows entries of type `TABLE`, and a leaf is the page
frame of `physical_addr` with `flags | PAGE_8K`. -/
def format : Format where
  follows entry := entry &&& typeMask == table
  tableAddr entry := (entry &&& pfnMask).toNat
  newTable addr := BitVec.ofNat 64 addr ||| table
  newPage addr flags := (BitVec.ofNat 64 addr &&& pfnMask) ||| flags ||| page8K

/-- `map_page(root_table_addr, virtual_addr, physical_addr, flags)`. -/
def mapPage (pageTableMock : Nat) (memory : PhysicalMemory)
    (rootTableAddr virtualAddr physicalAddr : Nat) (flags : BitVec 64) : PhysicalMemory :=
  let indices := getIndices virtualAddr
  Mmu.mapPage format pageTableMock memory rootTableAddr [indices.1, indices.2.1] indices.2.2
    physicalAddr flags

/-- The three indices of an 8 KiB-page walk, from bits 31, 22 and 13: the leaf index starts
at bit 13, as the comment in `get_indices` says it should. -/
def walkIndices (virtualAddr : Nat) : Nat × Nat × Nat :=
  ((virtualAddr >>> 31) &&& 0x1FF, (virtualAddr >>> 22) &&& 0x1FF, (virtualAddr >>> 13) &&& 0x1FF)

/-- The walk over the same descriptors: type `TABLE` points to the next table, type `PAGE_8K`
is a leaf. -/
def walker : Walker where
  isTable entry := entry &&& typeMask == table
  tableAddr entry := (entry &&& pfnMask).toNat
  isPage entry := entry &&& typeMask == page8K

/-- The leaf entry the walk finds for `virtualAddr`. -/
def walkPage (memory : PhysicalMemory) (rootTableAddr virtualAddr : Nat) : Option (BitVec 64) :=
  let indices := walkIndices virtualAddr
  walk walker memory rootTableAddr [indices.1, indices.2.1] indices.2.2

/-- `get_indices` reads nothing below bit 21: all 256 pages of 8 KiB in a 2 MiB block share
their leaf slot. -/
theorem getIndices_eq_of_div_eq {first second : Nat} (h : first / 2 ^ 21 = second / 2 ^ 21) :
    getIndices first = getIndices second := by
  have hshift (shift : Nat) (hshift : 21 ≤ shift) : first >>> shift = second >>> shift := by
    rw [Nat.shiftRight_eq_div_pow, Nat.shiftRight_eq_div_pow,
      show shift = 21 + (shift - 21) by omega, Nat.pow_add, ← Nat.div_div_eq_div_mul,
      ← Nat.div_div_eq_div_mul, h]
  simp only [getIndices, hshift 39 (by omega), hshift 30 (by omega), hshift 21 (Nat.le_refl 21)]

end Sparcv9

/-- The PowerPC and SPARC builders leave their first mapping unreachable, with the tables and
memory set up as above. After the first iteration of `init_mmu`'s loop, the PowerPC
radix walk of page 0 faults on the leaf in the L2 table. After `map_page(root, 0, 0x10000,
0)` on SPARC, the walk of page 0 faults on the leaf the mock table received at level 2. And
SPARC pages `0x0` and `0x2000` share one leaf slot. -/
theorem first_mappings_unreachable :
    Powerpc64.walkPage (Powerpc64.initMmuMappings 0x201000 0x200000 (fun _ => 0) 1) 0x200000 0 =
      none ∧
    Sparcv9.walkPage (Sparcv9.mapPage 0x202000 (fun _ => 0) 0x200000 0 0x10000 0) 0x200000 0 =
      none ∧
    Sparcv9.getIndices 0 = Sparcv9.getIndices 0x2000 := by
  decide

end SahneKarnal.Arch.Mmu
