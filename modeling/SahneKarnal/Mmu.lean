import Mathlib.Logic.Function.Basic

/-!
# The page-table engine

The radix backends share one shape of `map_page(root, vaddr, paddr, flags)`. For each
intermediate level, indexed by the 9-bit indices of `get_indices`, it reads the entry of the
current table. If the entry is followed (`is_present`/`is_valid`), it decodes the next table's
address from it. Otherwise it calls `alloc_page_table` and points the entry at the fresh
table. Finally it writes the leaf entry. `Format` collects what a backend's descriptors
contribute; `mapPage` is the shared control flow.

`alloc_page_table` is a mock: it zeroes the one static `PAGE_TABLE_MOCK` buffer and returns
it, on every call. `mapPage_fresh_leaf_in_mock` shows the consequence for every format and
every address. A mapping that starts at an unused root entry places every table below the
root in that one buffer, and its leaf with them.

Against it stands the architectural walk (`walk`), the hardware's reading of the same tables.
-/

namespace SahneKarnal.Mmu

/-- Physical memory as the builders see it: the 64-bit word at each 8-byte-aligned address. -/
abbrev PhysicalMemory := Nat → BitVec 64

/-- `TABLE_ENTRY_COUNT`: the entries of one table. -/
def tableEntryCount : Nat := 512

/-- The address of entry `index` of the table at `table`. -/
def entryAddress (table index : Nat) : Nat := table + 8 * index

/-- `PageTable::zero`: zero the entries of the table at `table`. -/
def zeroTable (table : Nat) (memory : PhysicalMemory) : PhysicalMemory :=
  fun address => if table ≤ address ∧ address < table + 8 * tableEntryCount then 0 else memory address

/-- `alloc_page_table`: zero the entries of the static `PAGE_TABLE_MOCK` at `mock`. Its
address is the result. -/
def allocPageTable (mock : Nat) (memory : PhysicalMemory) : PhysicalMemory :=
  zeroTable mock memory

/-- What one backend's `map_page` does with descriptors: which entries it follows, the table
address it decodes from them, the descriptor it writes for a new table, and the leaf. -/
structure Format where
  follows : BitVec 64 → Bool
  tableAddr : BitVec 64 → Nat
  newTable : Nat → BitVec 64
  newPage : Nat → BitVec 64 → BitVec 64

section Engine

variable (format : Format) (mock : Nat)

/-- One "get or create" block of `map_page`: follow entry `index` of the table at `table`, or
allocate the mock table and point the entry at it. The result is the memory and the next
table. -/
def getOrCreate (memory : PhysicalMemory) (table index : Nat) : PhysicalMemory × Nat :=
  if format.follows (memory (entryAddress table index)) then
    (memory, format.tableAddr (memory (entryAddress table index)))
  else
    (Function.update (allocPageTable mock memory) (entryAddress table index)
      (format.newTable mock), mock)

/-- The "get or create" blocks for the intermediate indices, root level first. -/
def descend : PhysicalMemory → Nat → List Nat → PhysicalMemory × Nat
  | memory, table, [] => (memory, table)
  | memory, table, index :: rest =>
      let step := getOrCreate format mock memory table index
      descend step.1 step.2 rest

/-- `map_page`: descend through the intermediate indices, then write the leaf entry for
`physicalAddr` and `flags` at `leafIndex` of the last table. -/
def mapPage (memory : PhysicalMemory) (root : Nat) (indices : List Nat) (leafIndex : Nat)
    (physicalAddr : Nat) (flags : BitVec 64) : PhysicalMemory :=
  let path := descend format mock memory root indices
  Function.update path.1 (entryAddress path.2 leafIndex) (format.newPage physicalAddr flags)

/-- The boot loop `for addr in (0..size).step_by(PAGE_SIZE)` calling `map page (offset + addr)
addr`, after its first `pages` iterations of 4 KiB. -/
def mapLoop (mapPage : PhysicalMemory → Nat → Nat → PhysicalMemory) (memory : PhysicalMemory)
    (offset : Nat) : Nat → PhysicalMemory
  | 0 => memory
  | pages + 1 => mapPage (mapLoop mapPage memory offset pages) (offset + pages * 4096) (pages * 4096)

end Engine

/-- Two tables whose entries do not overlap. -/
def TablesApart (first second : Nat) : Prop :=
  first + 8 * tableEntryCount ≤ second ∨ second + 8 * tableEntryCount ≤ first

theorem TablesApart.symm {first second : Nat} (hapart : TablesApart first second) :
    TablesApart second first :=
  Or.symm hapart

theorem entryAddress_ne_of_apart {first second : Nat} (hapart : TablesApart first second)
    {firstIndex secondIndex : Nat} (hfirst : firstIndex < tableEntryCount)
    (hsecond : secondIndex < tableEntryCount) :
    entryAddress first firstIndex ≠ entryAddress second secondIndex := by
  unfold TablesApart tableEntryCount at *
  unfold entryAddress
  omega

@[simp]
theorem zeroTable_entry (table : Nat) (memory : PhysicalMemory) {index : Nat}
    (hindex : index < tableEntryCount) : zeroTable table memory (entryAddress table index) = 0 := by
  unfold zeroTable entryAddress tableEntryCount at *
  rw [if_pos (by omega)]

theorem zeroTable_apart {table other : Nat} (hapart : TablesApart table other)
    (memory : PhysicalMemory) {index : Nat} (hindex : index < tableEntryCount) :
    zeroTable table memory (entryAddress other index) = memory (entryAddress other index) := by
  unfold zeroTable entryAddress TablesApart tableEntryCount at *
  rw [if_neg (by omega)]

/-! ## The architectural walk -/

/-- How the hardware reads a descriptor format: which entries are tables and where they point,
and which entries are valid leaves. -/
structure Walker where
  isTable : BitVec 64 → Bool
  tableAddr : BitVec 64 → Nat
  isPage : BitVec 64 → Bool

/-- The table walk: follow table descriptors through the intermediate indices and return the
valid leaf descriptor at `leafIndex`, or `none` where the walk faults. -/
def walk (walker : Walker) (memory : PhysicalMemory) : Nat → List Nat → Nat → Option (BitVec 64)
  | table, [], leafIndex =>
      if walker.isPage (memory (entryAddress table leafIndex)) then
        some (memory (entryAddress table leafIndex))
      else none
  | table, index :: rest, leafIndex =>
      if walker.isTable (memory (entryAddress table index)) then
        walk walker memory (walker.tableAddr (memory (entryAddress table index))) rest leafIndex
      else none

/-! ## The mock allocator collapses the tree -/

section Collapse

variable {format : Format} {mock : Nat}

/-- Every entry of the mock table is zero or the descriptor of the mock table itself. -/
def MockOnly (format : Format) (mock : Nat) (memory : PhysicalMemory) : Prop :=
  ∀ index < tableEntryCount,
    memory (entryAddress mock index) = 0 ∨
      memory (entryAddress mock index) = format.newTable mock

theorem mockOnly_alloc (memory : PhysicalMemory) :
    MockOnly format mock (allocPageTable mock memory) := fun index hindex => by
  left
  simp only [allocPageTable, zeroTable, entryAddress, tableEntryCount] at hindex ⊢
  rw [if_pos (by omega)]

theorem mockOnly_update {memory : PhysicalMemory} (hmock : MockOnly format mock memory)
    (index : Nat) : MockOnly format mock
      (Function.update memory (entryAddress mock index) (format.newTable mock)) := by
  intro other hother
  by_cases h : entryAddress mock other = entryAddress mock index
  · rw [h, Function.update_same]
    exact Or.inr rfl
  · simpa [Function.update_noteq h] using hmock other hother

/-- A write outside the mock table's entries keeps `MockOnly`. -/
theorem mockOnly_update_other {memory : PhysicalMemory} (hmock : MockOnly format mock memory)
    {address : Nat} (hapart : ∀ index < tableEntryCount, address ≠ entryAddress mock index)
    (value : BitVec 64) : MockOnly format mock (Function.update memory address value) :=
  fun index hindex => by
    simpa only [Function.update_noteq (hapart index hindex).symm] using hmock index hindex

/-- From the mock table, when the mock's own descriptor is followed back to it and an empty
entry is not followed, every further level is the mock table again. -/
theorem descend_from_mock (hfollow : format.follows (format.newTable mock) = true)
    (hback : format.tableAddr (format.newTable mock) = mock) (hzero : format.follows 0 = false)
    {memory : PhysicalMemory} (hmock : MockOnly format mock memory) (indices : List Nat)
    (hindices : ∀ index ∈ indices, index < tableEntryCount) :
    (descend format mock memory mock indices).2 = mock ∧
      MockOnly format mock (descend format mock memory mock indices).1 := by
  induction indices generalizing memory with
  | nil => exact ⟨rfl, hmock⟩
  | cons index rest ih =>
    have hrest := fun other hother => hindices other (List.mem_cons_of_mem index hother)
    simp only [descend, getOrCreate]
    rcases hmock index (hindices index (List.mem_cons_self index rest)) with hentry | hentry
    · rw [hentry, hzero, if_neg Bool.false_ne_true]
      exact ih (mockOnly_update (mockOnly_alloc memory) index) hrest
    · rw [hentry, hfollow, if_pos rfl, hback]
      exact ih hmock hrest

/-- A mapping that starts at a root entry `map_page` does not follow builds no tree: every
table below the root is the mock table, and the leaf is written into it. -/
theorem mapPage_fresh_leaf_in_mock (hfollow : format.follows (format.newTable mock) = true)
    (hback : format.tableAddr (format.newTable mock) = mock) (hzero : format.follows 0 = false)
    (memory : PhysicalMemory) (root rootIndex : Nat) (rest : List Nat) (leafIndex : Nat)
    (physicalAddr : Nat) (flags : BitVec 64)
    (hfresh : format.follows (memory (entryAddress root rootIndex)) = false)
    (hroot : ∀ index < tableEntryCount, entryAddress root rootIndex ≠ entryAddress mock index)
    (hindices : ∀ index ∈ rest, index < tableEntryCount) :
    (descend format mock memory root (rootIndex :: rest)).2 = mock ∧
      mapPage format mock memory root (rootIndex :: rest) leafIndex physicalAddr flags
        (entryAddress mock leafIndex) = format.newPage physicalAddr flags := by
  have hlast : (descend format mock memory root (rootIndex :: rest)).2 = mock := by
    simp only [descend, getOrCreate, hfresh, if_neg Bool.false_ne_true]
    exact (descend_from_mock hfollow hback hzero
      (mockOnly_update_other (mockOnly_alloc memory) hroot _) rest hindices).1
  refine ⟨hlast, ?_⟩
  simp only [mapPage, hlast, Function.update_same]

end Collapse

end SahneKarnal.Mmu
