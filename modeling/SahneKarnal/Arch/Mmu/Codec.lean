import SahneKarnal.Arch.Mmu

/-!
# The descriptor codecs

`map_page` writes descriptors with the backend's `PageTableEntry` constructors and, when it
reuses a table, reads the table's address back with the backend's extractor. Here the two are
checked against each other. Take a 4 KiB-aligned address below the format's limit, and flags
with no bit in the address field. Then the extractor returns the address, the bits outside the
field are the flags together with the constructor's own valid and type bits, and the validity
test reads the valid bit among those. The x86-64 and LoongArch `PageTableEntry::new` add no
valid bit of their own, so their descriptors are valid only when the caller's flags say so.
-/

namespace SahneKarnal.Arch.Mmu

/-! ## Address fields -/

section Field

/-- The descriptor bits `low .. low + width - 1`. -/
def bitField (low width : Nat) : BitVec 64 := BitVec.ofNat 64 (2 ^ low * (2 ^ width - 1))

theorem getLsbD_bitField (low width index : Nat) :
    (bitField low width).getLsbD index =
      decide (index < 64 ∧ low ≤ index ∧ index < low + width) := by
  simp only [bitField, BitVec.getLsbD_ofNat, Nat.testBit_mul_pow_two, Nat.testBit_two_pow_sub_one]
  by_cases hlow : low ≤ index <;> simp [hlow]
  rw [decide_eq_decide.mpr (show index - low < width ↔ index < low + width by omega)]

/-- An address word with no bit outside the field and flags with no bit inside it pack into
one descriptor: the field gives the address back and the rest gives the flags back. -/
theorem or_and_field {address flags field : BitVec 64} (haddress : address &&& ~~~field = 0)
    (hflags : flags &&& field = 0) :
    (address ||| flags) &&& field = address ∧ (address ||| flags) &&& ~~~field = flags := by
  constructor <;> refine BitVec.eq_of_getLsbD_eq fun index => ?_
  all_goals
    -- bit by bit: the address has no bit outside the field, the flags none inside it
    have houtside := congrArg (BitVec.getLsbD · index) haddress
    have hinside := congrArg (BitVec.getLsbD · index) hflags
    simp only [BitVec.getLsbD_and, BitVec.getLsbD_or, BitVec.getLsbD_not, BitVec.ofNat_eq_ofNat,
      BitVec.getLsbD_zero, index.isLt, decide_True, Bool.true_and] at houtside hinside ⊢
    revert houtside hinside
    cases address.getLsbD index <;> cases flags.getLsbD index <;>
      cases field.getLsbD index <;> decide

/-- The word of `k` shifted to bit `low` lies in the field of bits `low .. low + width - 1`
when `k` has at most `width` bits. -/
theorem shiftLeft_and_not_bitField {k low width : Nat} (hk : k < 2 ^ width) :
    (BitVec.ofNat 64 k <<< low) &&& ~~~bitField low width = 0 := by
  have hbit : ∀ index : Nat,
      ((BitVec.ofNat 64 k <<< low) &&& ~~~bitField low width).getLsbD index = false := by
    intro index
    simp only [BitVec.getLsbD_and, BitVec.getLsbD_not, BitVec.getLsbD_shiftLeft,
      BitVec.getLsbD_ofNat, getLsbD_bitField]
    by_cases hhigh : index < low + width
    · by_cases hlow : low ≤ index <;> by_cases hwidth : index < 64 <;>
        simp [hhigh, hlow, hwidth]
    · have hclear : k.testBit (index - low) = false :=
        Nat.testBit_lt_two_pow (Nat.lt_of_lt_of_le hk
          (Nat.pow_le_pow_right (by decide : 2 > 0) (by omega : width ≤ index - low)))
      simp [hclear]
  exact BitVec.eq_of_getLsbD_eq fun index => by rw [hbit]; simp

/-- A 4 KiB-aligned address is its page number shifted to bit 12. -/
theorem ofNat_of_aligned {addr : Nat} (haligned : addr % 4096 = 0) :
    BitVec.ofNat 64 addr = BitVec.ofNat 64 (addr / 4096) <<< 12 := by
  refine BitVec.eq_of_toNat_eq ?_
  simp only [BitVec.toNat_ofNat, BitVec.toNat_shiftLeft, Nat.shiftLeft_eq]
  rw [Nat.mod_mul_mod, Nat.div_mul_cancel (Nat.dvd_of_mod_eq_zero haligned)]

/-- A 4 KiB-aligned address below `2 ^ (12 + width)` lies in the field of bits
`12 .. 12 + width - 1`. -/
theorem aligned_and_not_bitField {addr width : Nat} (haligned : addr % 4096 = 0)
    (hlimit : addr < 2 ^ (12 + width)) : BitVec.ofNat 64 addr &&& ~~~bitField 12 width = 0 := by
  rw [ofNat_of_aligned haligned]
  refine shiftLeft_and_not_bitField ((Nat.div_lt_iff_lt_mul (by decide)).2 ?_)
  rw [Nat.pow_add] at hlimit
  omega

theorem or_and_eq_zero {first second mask : BitVec 64} (hfirst : first &&& mask = 0)
    (hsecond : second &&& mask = 0) : (first ||| second) &&& mask = 0 := by
  refine BitVec.eq_of_getLsbD_eq fun index => ?_
  have hfirst := congrArg (BitVec.getLsbD · index) hfirst
  have hsecond := congrArg (BitVec.getLsbD · index) hsecond
  simp only [BitVec.getLsbD_and, BitVec.getLsbD_or, BitVec.ofNat_eq_ofNat,
    BitVec.getLsbD_zero] at hfirst hsecond ⊢
  revert hfirst hsecond
  cases first.getLsbD index <;> cases second.getLsbD index <;> cases mask.getLsbD index <;> decide

/-- A bit outside the field reads the same in the descriptor and in its bits outside the
field. -/
theorem getLsbD_of_and_not {entry rest field : BitVec 64} (hrest : entry &&& ~~~field = rest)
    {index : Nat} (hindex : index < 64) (hout : field.getLsbD index = false) :
    entry.getLsbD index = rest.getLsbD index := by
  rw [← hrest]
  simp [hindex, hout]

/-- Masking with `1` tests bit 0. -/
theorem and_one_bne_zero (word : BitVec 64) : (word &&& 1 != 0) = word.getLsbD 0 := by
  have hbits : ∀ index, (word &&& 1).getLsbD index = (word.getLsbD 0 && decide (index = 0)) := by
    intro index
    by_cases hindex : index = 0 <;> simp [hindex]
  cases hbit : word.getLsbD 0
  · have hzero : word &&& 1 = 0 :=
      BitVec.eq_of_getLsbD_eq fun index => by rw [hbits, hbit]; simp
    rw [hzero]
    rfl
  · have hne : word &&& 1 ≠ 0 := fun hzero => by
      simpa [hbits, hbit] using congrArg (BitVec.getLsbD · 0) hzero
    simpa using hne

/-- A masked word with a set bit is not zero. -/
theorem and_bne_zero_of_getLsbD {word mask : BitVec 64} {index : Nat}
    (hword : word.getLsbD index = true) (hmask : mask.getLsbD index = true) :
    (word &&& mask != 0) = true := by
  have hne : word &&& mask ≠ 0 := fun hzero => by
    simpa [hword, hmask] using congrArg (BitVec.getLsbD · index) hzero
  simpa using hne

end Field

/-! ## x86-64 -/

namespace Amd64

theorem addrField_eq : (0x000FFFFFFFFFF000 : BitVec 64) = bitField 12 40 := by decide

theorem isPresent_eq (entry : BitVec 64) : PageTableEntry.isPresent entry = entry.getLsbD 0 :=
  and_one_bne_zero entry

/-- `PageTableEntry::new(a, f)`: `addr` gives back `a`, the bits outside bits 12 .. 51 are `f`,
and the entry is present exactly when `f` has `PRESENT`. -/
theorem new_round_trip {addr : Nat} {flags : BitVec 64} (haligned : addr % 4096 = 0)
    (hlimit : addr < 2 ^ 52) (hflags : flags &&& 0x000FFFFFFFFFF000 = 0) :
    PageTableEntry.addr (PageTableEntry.new addr flags) = addr ∧
      PageTableEntry.new addr flags &&& ~~~0x000FFFFFFFFFF000 = flags ∧
      PageTableEntry.isPresent (PageTableEntry.new addr flags) = flags.getLsbD 0 := by
  rw [addrField_eq] at hflags ⊢
  obtain ⟨hfield, hrest⟩ := or_and_field (aligned_and_not_bitField haligned hlimit) hflags
  refine ⟨?_, hrest, ?_⟩
  · rw [PageTableEntry.addr, addrField_eq, PageTableEntry.new, hfield, BitVec.toNat_ofNat,
      Nat.mod_eq_of_lt (by omega)]
  · rw [isPresent_eq]
    exact getLsbD_of_and_not hrest (by decide : 0 < 64) (by decide)

end Amd64

/-! ## AArch64 -/

namespace Armv9

theorem outputField_eq : (0x0000FFFFFFFFF000 : BitVec 64) = bitField 12 36 := by decide

/-- `PageTableEntry::new_table(a)`: the output address is `a`, the bits outside bits 12 .. 47
are `PRESENT | TABLE`, and the entry is present. -/
theorem newTable_round_trip {addr : Nat} (haligned : addr % 4096 = 0) (hlimit : addr < 2 ^ 48) :
    outputAddr (PageTableEntry.newTable addr) = addr ∧
      PageTableEntry.newTable addr &&& ~~~0x0000FFFFFFFFF000 = present ||| tableOrBlock ∧
      PageTableEntry.isPresent (PageTableEntry.newTable addr) = true := by
  rw [outputField_eq]
  obtain ⟨hfield, hrest⟩ := or_and_field (aligned_and_not_bitField haligned hlimit)
    (by decide : (present ||| tableOrBlock) &&& bitField 12 36 = 0)
  refine ⟨?_, hrest, and_bne_zero_of_getLsbD ?_ (by decide : (present ||| tableOrBlock).getLsbD 0 = true)⟩
  · rw [outputAddr, outputField_eq, PageTableEntry.newTable, hfield, BitVec.toNat_ofNat,
      Nat.mod_eq_of_lt (by omega)]
  · exact (getLsbD_of_and_not hrest (by decide : 0 < 64) (by decide)).trans (by decide)

/-- `PageTableEntry::new_page(a, f)`: the output address is `a`, the bits outside bits
12 .. 47 are `f | PAGE | PRESENT`, and the entry is present. -/
theorem newPage_round_trip {addr : Nat} {flags : BitVec 64} (haligned : addr % 4096 = 0)
    (hlimit : addr < 2 ^ 48) (hflags : flags &&& 0x0000FFFFFFFFF000 = 0) :
    outputAddr (PageTableEntry.newPage addr flags) = addr ∧
      PageTableEntry.newPage addr flags &&& ~~~0x0000FFFFFFFFF000 =
        flags ||| tableOrBlock ||| present ∧
      PageTableEntry.isPresent (PageTableEntry.newPage addr flags) = true := by
  rw [outputField_eq] at hflags ⊢
  obtain ⟨hfield, hrest⟩ := or_and_field (aligned_and_not_bitField haligned hlimit)
    (or_and_eq_zero (or_and_eq_zero hflags (by decide : tableOrBlock &&& bitField 12 36 = 0))
      (by decide : present &&& bitField 12 36 = 0))
  refine ⟨?_, hrest, and_bne_zero_of_getLsbD ?_ (by decide : (present ||| tableOrBlock).getLsbD 0 = true)⟩
  · rw [outputAddr, outputField_eq, PageTableEntry.newPage, hfield, BitVec.toNat_ofNat,
      Nat.mod_eq_of_lt (by omega)]
  · refine (getLsbD_of_and_not hrest (by decide : 0 < 64) (by decide)).trans ?_
    rw [BitVec.getLsbD_or, show present.getLsbD 0 = true by decide, Bool.or_true]

end Armv9

/-! ## RISC-V Sv39 -/

namespace Rv64i

theorem ppnMask_eq : ppnMask = bitField 10 44 := by decide

/-- The page number of an address below `2 ^ 56`, placed at bit 10, lies in `PPN_MASK`. -/
theorem ppn_and_not_ppnMask {addr : Nat} (hlimit : addr < 2 ^ 56) :
    (BitVec.ofNat 64 (addr / 4096) <<< 10) &&& ~~~ppnMask = 0 := by
  rw [ppnMask_eq]
  exact shiftLeft_and_not_bitField ((Nat.div_lt_iff_lt_mul (by decide)).2 (by omega))

/-- Shifting the page number at bit 10 two more bits up gives back the aligned address. -/
theorem ppn_shiftLeft_two {addr : Nat} (haligned : addr % 4096 = 0) (hlimit : addr < 2 ^ 56) :
    ((BitVec.ofNat 64 (addr / 4096) <<< 10) <<< 2).toNat = addr := by
  rw [← BitVec.shiftLeft_add, show 10 + 2 = 12 from rfl, ← ofNat_of_aligned haligned,
    BitVec.toNat_ofNat, Nat.mod_eq_of_lt (by omega)]

/-- `PageTableEntry::new_table(a)`: `(e & PPN_MASK) << 2` gives back `a`, the bits outside
`PPN_MASK` are `VALID`, and the entry is valid. -/
theorem newTable_round_trip {addr : Nat} (haligned : addr % 4096 = 0) (hlimit : addr < 2 ^ 56) :
    tableAddr (PageTableEntry.newTable addr) = addr ∧
      PageTableEntry.newTable addr &&& ~~~ppnMask = valid ∧
      PageTableEntry.isValid (PageTableEntry.newTable addr) = true := by
  obtain ⟨hfield, hrest⟩ := or_and_field (ppn_and_not_ppnMask hlimit)
    (by decide : valid &&& ppnMask = 0)
  refine ⟨?_, hrest, and_bne_zero_of_getLsbD ?_ (by decide : valid.getLsbD 0 = true)⟩
  · rw [tableAddr, PageTableEntry.newTable, hfield, ppn_shiftLeft_two haligned hlimit]
  · exact (getLsbD_of_and_not hrest (by decide : 0 < 64) (by decide)).trans (by decide)

/-- `PageTableEntry::new_page(a, f)`: `(e & PPN_MASK) << 2` gives back `a`, the bits outside
`PPN_MASK` are `f | VALID`, and the entry is valid. -/
theorem newPage_round_trip {addr : Nat} {flags : BitVec 64} (haligned : addr % 4096 = 0)
    (hlimit : addr < 2 ^ 56) (hflags : flags &&& ppnMask = 0) :
    tableAddr (PageTableEntry.newPage addr flags) = addr ∧
      PageTableEntry.newPage addr flags &&& ~~~ppnMask = flags ||| valid ∧
      PageTableEntry.isValid (PageTableEntry.newPage addr flags) = true := by
  have hentry : PageTableEntry.newPage addr flags =
      (BitVec.ofNat 64 (addr / 4096) <<< 10) ||| (flags ||| valid) := BitVec.or_assoc _ _ _
  obtain ⟨hfield, hrest⟩ := or_and_field (ppn_and_not_ppnMask hlimit)
    (or_and_eq_zero hflags (by decide : valid &&& ppnMask = 0))
  rw [hentry]
  refine ⟨?_, hrest, and_bne_zero_of_getLsbD ?_ (by decide : valid.getLsbD 0 = true)⟩
  · rw [tableAddr, hfield, ppn_shiftLeft_two haligned hlimit]
  · refine (getLsbD_of_and_not hrest (by decide : 0 < 64) (by decide)).trans ?_
    rw [BitVec.getLsbD_or, show valid.getLsbD 0 = true by decide, Bool.or_true]

end Rv64i

/-! ## LoongArch -/

namespace Loongarch64

theorem addrMask_eq : addrMask = bitField 12 52 := by decide

theorem isValid_eq (entry : BitVec 64) : PageTableEntry.isValid entry = entry.getLsbD 0 :=
  and_one_bne_zero entry

/-- `PageTableEntry::new(a, f)`: `addr` gives back `a`, the bits outside `ADDR_MASK` are `f`,
and the entry is valid exactly when `f` has `VALID`. -/
theorem new_round_trip {addr : Nat} {flags : BitVec 64} (haligned : addr % 4096 = 0)
    (hlimit : addr < 2 ^ 64) (hflags : flags &&& addrMask = 0) :
    PageTableEntry.addr (PageTableEntry.new addr flags) = addr ∧
      PageTableEntry.new addr flags &&& ~~~addrMask = flags ∧
      PageTableEntry.isValid (PageTableEntry.new addr flags) = flags.getLsbD 0 := by
  rw [addrMask_eq] at hflags ⊢
  obtain ⟨hfield, hrest⟩ := or_and_field (aligned_and_not_bitField haligned hlimit) hflags
  refine ⟨?_, hrest, ?_⟩
  · rw [PageTableEntry.addr, addrMask_eq, PageTableEntry.new, hfield, BitVec.toNat_ofNat,
      Nat.mod_eq_of_lt hlimit]
  · rw [isValid_eq]
    exact getLsbD_of_and_not hrest (by decide : 0 < 64) (by decide)

end Loongarch64

/-! ## Every format -/

/-- Each format's encoders and the decoder its `map_page` reads tables back with round-trip,
for every 4 KiB-aligned address below the format's limit and every flag word with no bit in the
address field. The x86-64 and LoongArch entries are valid exactly when the flags set bit 0;
the AArch64 and RISC-V constructors set it themselves. -/
theorem descriptor_codecs_round_trip :
    (∀ (addr : Nat) (flags : BitVec 64), addr % 4096 = 0 → addr < 2 ^ 52 →
      flags &&& 0x000FFFFFFFFFF000 = 0 →
      Amd64.PageTableEntry.addr (Amd64.PageTableEntry.new addr flags) = addr ∧
        Amd64.PageTableEntry.new addr flags &&& ~~~0x000FFFFFFFFFF000 = flags ∧
        Amd64.PageTableEntry.isPresent (Amd64.PageTableEntry.new addr flags) =
          flags.getLsbD 0) ∧
    (∀ addr : Nat, addr % 4096 = 0 → addr < 2 ^ 48 →
      Armv9.outputAddr (Armv9.PageTableEntry.newTable addr) = addr ∧
        Armv9.PageTableEntry.newTable addr &&& ~~~0x0000FFFFFFFFF000 =
          Armv9.present ||| Armv9.tableOrBlock ∧
        Armv9.PageTableEntry.isPresent (Armv9.PageTableEntry.newTable addr) = true) ∧
    (∀ (addr : Nat) (flags : BitVec 64), addr % 4096 = 0 → addr < 2 ^ 48 →
      flags &&& 0x0000FFFFFFFFF000 = 0 →
      Armv9.outputAddr (Armv9.PageTableEntry.newPage addr flags) = addr ∧
        Armv9.PageTableEntry.newPage addr flags &&& ~~~0x0000FFFFFFFFF000 =
          flags ||| Armv9.tableOrBlock ||| Armv9.present ∧
        Armv9.PageTableEntry.isPresent (Armv9.PageTableEntry.newPage addr flags) = true) ∧
    (∀ addr : Nat, addr % 4096 = 0 → addr < 2 ^ 56 →
      Rv64i.tableAddr (Rv64i.PageTableEntry.newTable addr) = addr ∧
        Rv64i.PageTableEntry.newTable addr &&& ~~~Rv64i.ppnMask = Rv64i.valid ∧
        Rv64i.PageTableEntry.isValid (Rv64i.PageTableEntry.newTable addr) = true) ∧
    (∀ (addr : Nat) (flags : BitVec 64), addr % 4096 = 0 → addr < 2 ^ 56 →
      flags &&& Rv64i.ppnMask = 0 →
      Rv64i.tableAddr (Rv64i.PageTableEntry.newPage addr flags) = addr ∧
        Rv64i.PageTableEntry.newPage addr flags &&& ~~~Rv64i.ppnMask = flags ||| Rv64i.valid ∧
        Rv64i.PageTableEntry.isValid (Rv64i.PageTableEntry.newPage addr flags) = true) ∧
    (∀ (addr : Nat) (flags : BitVec 64), addr % 4096 = 0 → addr < 2 ^ 64 →
      flags &&& Loongarch64.addrMask = 0 →
      Loongarch64.PageTableEntry.addr (Loongarch64.PageTableEntry.new addr flags) = addr ∧
        Loongarch64.PageTableEntry.new addr flags &&& ~~~Loongarch64.addrMask = flags ∧
        Loongarch64.PageTableEntry.isValid (Loongarch64.PageTableEntry.new addr flags) =
          flags.getLsbD 0) :=
  ⟨fun _ _ => Amd64.new_round_trip, fun _ => Armv9.newTable_round_trip,
    fun _ _ => Armv9.newPage_round_trip, fun _ => Rv64i.newTable_round_trip,
    fun _ _ => Rv64i.newPage_round_trip, fun _ _ => Loongarch64.new_round_trip⟩

/-- The round trips at the address `0x1000`, with the flags `PRESENT | WRITABLE` (x86-64),
`AF` (AArch64), `READ | WRITE` (RISC-V) and `VALID | DIRTY` (LoongArch). -/
theorem descriptor_codecs_round_trip_at_page_one :
    Amd64.PageTableEntry.addr (Amd64.PageTableEntry.new 0x1000 3) = 0x1000 ∧
      Armv9.outputAddr (Armv9.PageTableEntry.newTable 0x1000) = 0x1000 ∧
      Armv9.outputAddr (Armv9.PageTableEntry.newPage 0x1000 0x400) = 0x1000 ∧
      Rv64i.tableAddr (Rv64i.PageTableEntry.newTable 0x1000) = 0x1000 ∧
      Rv64i.tableAddr (Rv64i.PageTableEntry.newPage 0x1000 6) = 0x1000 ∧
      Loongarch64.PageTableEntry.addr (Loongarch64.PageTableEntry.new 0x1000 3) = 0x1000 :=
  ⟨(descriptor_codecs_round_trip.1 0x1000 3 (by decide) (by decide) (by decide)).1,
    (descriptor_codecs_round_trip.2.1 0x1000 (by decide) (by decide)).1,
    (descriptor_codecs_round_trip.2.2.1 0x1000 0x400 (by decide) (by decide) (by decide)).1,
    (descriptor_codecs_round_trip.2.2.2.1 0x1000 (by decide) (by decide)).1,
    (descriptor_codecs_round_trip.2.2.2.2.1 0x1000 6 (by decide) (by decide) (by decide)).1,
    (descriptor_codecs_round_trip.2.2.2.2.2 0x1000 3 (by decide) (by decide) (by decide)).1⟩

/-- `PageTableEntry::new(0x1000, 0)` is neither present on x86-64 nor valid on LoongArch:
neither constructor sets a valid bit of its own. -/
theorem new_without_valid_flag_is_invalid :
    Amd64.PageTableEntry.isPresent (Amd64.PageTableEntry.new 0x1000 0) = false ∧
      Loongarch64.PageTableEntry.isValid (Loongarch64.PageTableEntry.new 0x1000 0) = false := by
  decide

end SahneKarnal.Arch.Mmu
