import Mathlib.Tactic.FinCases

/-!
# The serial consoles

The x86-64 `SerialPort` and the AArch64 and SPARC `Uart` send text the same way:
`write_str` walks the bytes of the string, sends `\n` as `\r\n`, and each `write_byte` spins
on `is_transmit_empty` (bit 5, THRE, of the line-status register) before it writes the data
register. They differ only in where the registers are and in how they test the bit.

The device is arbitrary: read number `k` of the line-status register returns `lineStatus k`.
A run either makes all its accesses or stops when a wait finds no THRE within `fuel` reads.
Every run that returns writes exactly the string with LF sent as CR LF to the data register
and nothing else, each write after a read that showed THRE (`writeStr_sends`). On a device
that keeps raising THRE, the call returns (`writeStr_returns`).
-/

namespace SahneKarnal.Arch.Console

/-- An access the driver makes: a read of the line-status register at `address`, which returned
`value`, or a write of `value` to the data register at `address`. -/
inductive Access where
  | read (address : Nat) (value : BitVec 8)
  | write (address : Nat) (value : BitVec 8)
  deriving DecidableEq

/-- A 16550-style transmitter as `write_byte` sees it: its data and line-status registers and
its `is_transmit_empty` test, which reads bit 5 (THRE). -/
structure Transmitter where
  dataRegister : Nat
  lineStatusRegister : Nat
  isTransmitEmpty : BitVec 8 → Bool
  isTransmitEmpty_eq : ∀ status, isTransmitEmpty status = status.getLsbD 5

/-- What a run does or where it stops: its accesses and the number of the next line-status
read; `none` when a wait found no THRE within its `fuel` reads. -/
abbrev Run := Option (List Access × Nat)

/-- `first`, then `second` from the line-status read where `first` stopped. -/
def andThen (first : Run) (second : Nat → Run) : Run :=
  first.bind fun done => (second done.2).map fun more => (done.1 ++ more.1, more.2)

theorem andThen_eq_some {first : Run} {second : Nat → Run} {accesses : List Access} {last : Nat}
    (hrun : andThen first second = some (accesses, last)) :
    ∃ firstAccesses after moreAccesses, first = some (firstAccesses, after) ∧
      second after = some (moreAccesses, last) ∧ accesses = firstAccesses ++ moreAccesses := by
  obtain ⟨⟨firstAccesses, after⟩, hfirst, hsecond⟩ := Option.bind_eq_some.1 hrun
  obtain ⟨⟨moreAccesses, last'⟩, hmore, hjoin⟩ := Option.map_eq_some'.1 hsecond
  obtain ⟨rfl, rfl⟩ := Prod.mk.inj hjoin
  exact ⟨firstAccesses, after, moreAccesses, hfirst, hmore, rfl⟩

section Driver

variable (transmitter : Transmitter) (lineStatus : Nat → BitVec 8)

/-- `while !is_transmit_empty() {}` from line-status read `next` on, for at most `fuel` reads:
the reads through the first that shows THRE. -/
def waitTransmitEmpty : Nat → Nat → Run
  | 0, _ => none
  | fuel + 1, next =>
    let read := Access.read transmitter.lineStatusRegister (lineStatus next)
    if transmitter.isTransmitEmpty (lineStatus next) then some ([read], next + 1)
    else andThen (some ([read], next + 1)) (waitTransmitEmpty fuel)

/-- `write_byte(byte)`: wait for THRE, then write the byte to the data register. -/
def writeByte (fuel next : Nat) (byte : BitVec 8) : Run :=
  andThen (waitTransmitEmpty transmitter lineStatus fuel next) fun after =>
    some ([.write transmitter.dataRegister byte], after)

/-- One pass of the loop in `write_str`: `b'\n'` is sent as `write_byte(b'\r')` then
`write_byte(b'\n')`, any other byte by `write_byte(byte)`. -/
def writeStrByte (fuel next : Nat) (byte : BitVec 8) : Run :=
  if byte = 0x0A then
    andThen (writeByte transmitter lineStatus fuel next 0x0D) fun after =>
      writeByte transmitter lineStatus fuel after 0x0A
  else writeByte transmitter lineStatus fuel next byte

/-- `write_str(s)` over the bytes of `s`, from line-status read `next` on. -/
def writeStr (fuel : Nat) : Nat → List (BitVec 8) → Run
  | next, [] => some ([], next)
  | next, byte :: rest =>
    andThen (writeStrByte transmitter lineStatus fuel next byte) fun after =>
      writeStr fuel after rest

end Driver

/-! ## What a run sends -/

/-- The console contract: `s` with every LF (`0x0A`) sent as CR LF (`0x0D 0x0A`). -/
def onTheWire (s : List (BitVec 8)) : List (BitVec 8) :=
  s.flatMap fun byte => if byte = 0x0A then [0x0D, 0x0A] else [byte]

/-- The bytes a run writes, in order. -/
def written (accesses : List Access) : List (BitVec 8) :=
  accesses.filterMap fun
    | .write _ value => some value
    | .read _ _ => none

/-- Whether each write of a run comes after a line-status read showing THRE, with no write
between them; `armed` says whether such a read has come since the last write. -/
def threBeforeEachWrite : Bool → List Access → Bool
  | _, [] => true
  | armed, .read _ value :: rest => threBeforeEachWrite (armed || value.getLsbD 5) rest
  | armed, .write _ _ :: rest => armed && threBeforeEachWrite false rest

/-- The registers the driver of `transmitter` may touch: it reads the line-status register and
writes the data register. -/
def Access.Targets (transmitter : Transmitter) : Access → Prop
  | .read address _ => address = transmitter.lineStatusRegister
  | .write address _ => address = transmitter.dataRegister

/-- The accesses of a run send `bytes`: they write exactly `bytes`, read only the line-status
register and write only the data register, and every write has its THRE read inside them. -/
structure Sends (transmitter : Transmitter) (bytes : List (BitVec 8)) (accesses : List Access) :
    Prop where
  written_eq : written accesses = bytes
  targets : ∀ access ∈ accesses, access.Targets transmitter
  thre : ∀ rest, threBeforeEachWrite false (accesses ++ rest) = threBeforeEachWrite false rest

section Sends

variable {transmitter : Transmitter}

theorem Sends.append {bytes moreBytes : List (BitVec 8)} {accesses moreAccesses : List Access}
    (hsends : Sends transmitter bytes accesses) (hmore : Sends transmitter moreBytes moreAccesses) :
    Sends transmitter (bytes ++ moreBytes) (accesses ++ moreAccesses) where
  written_eq := by rw [written, List.filterMap_append, ← written, ← written, hsends.written_eq,
    hmore.written_eq]
  targets access haccess := (List.mem_append.1 haccess).elim (hsends.targets access)
    (hmore.targets access)
  thre rest := by rw [List.append_assoc, hsends.thre, hmore.thre]

variable (lineStatus : Nat → BitVec 8)

/-- A wait reads only the line-status register, writes nothing, and ends with a read that
shows THRE. -/
theorem waitTransmitEmpty_spec {fuel next : Nat} {reads : List Access} {after : Nat}
    (hwait : waitTransmitEmpty transmitter lineStatus fuel next = some (reads, after)) :
    written reads = [] ∧ (∀ access ∈ reads, access.Targets transmitter) ∧
      ∀ armed rest, threBeforeEachWrite armed (reads ++ rest) = threBeforeEachWrite true rest := by
  induction fuel generalizing next reads with
  | zero => cases hwait
  | succ fuel ih =>
    unfold waitTransmitEmpty at hwait
    split at hwait
    · -- THRE at the first read
      rename_i hready
      obtain ⟨rfl, -⟩ := Prod.mk.inj (Option.some.inj hwait)
      rw [transmitter.isTransmitEmpty_eq] at hready
      refine ⟨rfl, by simp [Access.Targets], fun armed rest => ?_⟩
      simp [threBeforeEachWrite, hready]
    · obtain ⟨_, _, more, hfirst, hmore, rfl⟩ := andThen_eq_some hwait
      obtain ⟨rfl, rfl⟩ := Prod.mk.inj (Option.some.inj hfirst)
      obtain ⟨hwritten, htargets, hthre⟩ := ih hmore
      refine ⟨by simpa [written] using hwritten, ?_, fun armed rest => ?_⟩
      · simpa [Access.Targets] using htargets
      · rw [List.singleton_append, List.cons_append, threBeforeEachWrite, hthre]

theorem writeByte_sends {fuel next : Nat} {byte : BitVec 8} {accesses : List Access} {after : Nat}
    (hbyte : writeByte transmitter lineStatus fuel next byte = some (accesses, after)) :
    Sends transmitter [byte] accesses := by
  obtain ⟨reads, _, _, hwait, hwrite, rfl⟩ := andThen_eq_some hbyte
  obtain ⟨rfl, -⟩ := Prod.mk.inj (Option.some.inj hwrite)
  obtain ⟨hwritten, htargets, hthre⟩ := waitTransmitEmpty_spec lineStatus hwait
  refine ⟨by simpa [written] using hwritten, fun access haccess => ?_, fun rest => ?_⟩
  · rcases List.mem_append.1 haccess with hread | hwrite
    · exact htargets access hread
    · simp only [List.mem_singleton] at hwrite
      subst hwrite
      rfl
  · rw [List.append_assoc, hthre]
    rfl

theorem writeStrByte_sends {fuel next : Nat} {byte : BitVec 8} {accesses : List Access}
    {after : Nat} (hbyte : writeStrByte transmitter lineStatus fuel next byte = some (accesses, after)) :
    Sends transmitter (if byte = 0x0A then [0x0D, 0x0A] else [byte]) accesses := by
  unfold writeStrByte at hbyte
  split at hbyte
  · rename_i hlf
    obtain ⟨_, _, _, hcr, hnl, rfl⟩ := andThen_eq_some hbyte
    rw [if_pos hlf]
    exact (writeByte_sends lineStatus hcr).append (writeByte_sends lineStatus hnl)
  · rename_i hlf
    rw [if_neg hlf]
    exact writeByte_sends lineStatus hbyte

/-- Every run of `write_str(s)` that returns sends `s` with LF as CR LF: it writes exactly
those bytes, only to the data register, and reads only the line-status register; each write
comes after a read that showed THRE. -/
theorem writeStr_sends (fuel : Nat) {next : Nat} {s : List (BitVec 8)} {accesses : List Access}
    {last : Nat} (hrun : writeStr transmitter lineStatus fuel next s = some (accesses, last)) :
    Sends transmitter (onTheWire s) accesses := by
  induction s generalizing next accesses with
  | nil =>
    obtain ⟨rfl, -⟩ := Prod.mk.inj (Option.some.inj hrun)
    exact ⟨rfl, by simp, fun _ => rfl⟩
  | cons byte rest ih =>
    obtain ⟨_, _, _, hbyte, hrest, rfl⟩ := andThen_eq_some hrun
    rw [onTheWire, List.flatMap_cons, ← onTheWire]
    exact (writeStrByte_sends lineStatus hbyte).append (ih hrest)

end Sends

/-! ## Returning -/

section Returns

variable {transmitter : Transmitter}

/-- With any fuel from `fuel` on, `run` gives `result`. -/
def ReturnsFrom (run : Nat → Run) (fuel : Nat) (result : List Access × Nat) : Prop :=
  ∀ more, fuel ≤ more → run more = some result

theorem ReturnsFrom.andThen {first : Nat → Run} {second : Nat → Nat → Run} {fuel moreFuel : Nat}
    {accesses : List Access} {after : Nat} {result : List Access × Nat}
    (hfirst : ReturnsFrom first fuel (accesses, after))
    (hsecond : ReturnsFrom (second after) moreFuel result) :
    ReturnsFrom (fun fuel => Console.andThen (first fuel) fun next => second next fuel)
      (max fuel moreFuel) (accesses ++ result.1, result.2) := by
  intro more hmore
  simp only [Console.andThen, hfirst more (Nat.le_trans (Nat.le_max_left _ _) hmore),
    Option.some_bind, hsecond more (Nat.le_trans (Nat.le_max_right _ _) hmore), Option.map_some']

variable (lineStatus : Nat → BitVec 8)

/-- More fuel does not change what a wait that returned gives. -/
theorem waitTransmitEmpty_mono {fuel next : Nat} {reads : List Access} {after : Nat}
    (hwait : waitTransmitEmpty transmitter lineStatus fuel next = some (reads, after)) :
    ReturnsFrom (waitTransmitEmpty transmitter lineStatus · next) fuel (reads, after) := by
  induction fuel generalizing next reads with
  | zero => cases hwait
  | succ fuel ih =>
    intro more hmore
    obtain ⟨more, rfl⟩ : ∃ fewer, more = fewer + 1 := ⟨more - 1, by omega⟩
    unfold waitTransmitEmpty at hwait ⊢
    split
    · rename_i hready
      rwa [if_pos hready] at hwait
    · rename_i hready
      rw [if_neg hready] at hwait
      obtain ⟨_, _, _, hfirst, hrest, rfl⟩ := andThen_eq_some hwait
      obtain ⟨rfl, rfl⟩ := Prod.mk.inj (Option.some.inj hfirst)
      simp only [andThen, Option.some_bind, ih hrest more (by omega), Option.map_some']

/-- A wait from read `next` returns within `distance + 1` reads when read `next + distance`
shows THRE. -/
theorem waitTransmitEmpty_returns (next distance : Nat)
    (hready : (lineStatus (next + distance)).getLsbD 5 = true) :
    ∃ result, waitTransmitEmpty transmitter lineStatus (distance + 1) next = some result := by
  induction distance generalizing next with
  | zero =>
    unfold waitTransmitEmpty
    rw [if_pos (by rw [transmitter.isTransmitEmpty_eq]; exact hready)]
    exact ⟨_, rfl⟩
  | succ distance ih =>
    unfold waitTransmitEmpty
    split
    · exact ⟨_, rfl⟩
    · obtain ⟨result, hresult⟩ := ih (next + 1) (by rwa [Nat.add_right_comm])
      exact ⟨_, by rw [andThen, Option.some_bind, hresult, Option.map_some']⟩

variable (transmitter) (hthre : ∀ k, ∃ ready, k ≤ ready ∧ (lineStatus ready).getLsbD 5 = true)
include hthre

theorem writeByte_returns (next : Nat) (byte : BitVec 8) :
    ∃ fuel result, ReturnsFrom (writeByte transmitter lineStatus · next byte) fuel result := by
  obtain ⟨ready, hle, hready⟩ := hthre next
  obtain ⟨distance, rfl⟩ := Nat.exists_eq_add_of_le hle
  obtain ⟨⟨reads, after⟩, hwait⟩ := waitTransmitEmpty_returns lineStatus next distance hready
  exact ⟨_, _, (waitTransmitEmpty_mono lineStatus hwait).andThen
    (show ReturnsFrom (fun _ => some ([.write transmitter.dataRegister byte], after)) 0 _
      from fun _ _ => rfl)⟩

theorem writeStrByte_returns (next : Nat) (byte : BitVec 8) :
    ∃ fuel result, ReturnsFrom (writeStrByte transmitter lineStatus · next byte) fuel result := by
  by_cases hlf : byte = 0x0A
  · obtain ⟨fuel, ⟨cr, after⟩, hcr⟩ := writeByte_returns transmitter lineStatus hthre next 0x0D
    obtain ⟨moreFuel, result, hnl⟩ := writeByte_returns transmitter lineStatus hthre after 0x0A
    refine ⟨max fuel moreFuel, (cr ++ result.1, result.2), fun more hmore => ?_⟩
    simp only [writeStrByte, if_pos hlf]
    exact @ReturnsFrom.andThen _ (fun next fuel => writeByte transmitter lineStatus fuel next 0x0A)
      _ _ _ _ _ hcr hnl more hmore
  · obtain ⟨fuel, result, hbyte⟩ := writeByte_returns transmitter lineStatus hthre next byte
    refine ⟨fuel, result, fun more hmore => ?_⟩
    simp only [writeStrByte, if_neg hlf]
    exact hbyte more hmore

theorem writeStr_returnsFrom (next : Nat) (s : List (BitVec 8)) :
    ∃ fuel result, ReturnsFrom (writeStr transmitter lineStatus · next s) fuel result := by
  induction s generalizing next with
  | nil => exact ⟨0, _, fun _ _ => rfl⟩
  | cons byte rest ih =>
    obtain ⟨fuel, ⟨_, after⟩, hbyte⟩ := writeStrByte_returns transmitter lineStatus hthre next byte
    obtain ⟨moreFuel, result, hrest⟩ := ih after
    exact ⟨_, _, hbyte.andThen hrest⟩

/-- On a device that keeps raising THRE, `write_str(s)` returns for every string: with enough
fuel every wait sees THRE. -/
theorem writeStr_returns (next : Nat) (s : List (BitVec 8)) :
    ∃ fuel result, writeStr transmitter lineStatus fuel next s = some result :=
  let ⟨fuel, result, hrun⟩ := writeStr_returnsFrom transmitter lineStatus hthre next s
  ⟨fuel, result, hrun fuel (Nat.le_refl fuel)⟩

end Returns

/-! ## The three consoles -/

theorem and_thre_mask (status : BitVec 8) :
    status &&& 0x20 = if status.getLsbD 5 then 0x20 else 0 := by
  refine BitVec.eq_of_getLsbD_eq fun index => ?_
  cases hbit : status.getLsbD 5 <;> fin_cases index <;> simp [hbit]

/-- The THRE test of the x86-64 and SPARC drivers: `(status & 0x20) == 0x20`. -/
def threSet (status : BitVec 8) : Bool := status &&& 0x20 == 0x20

theorem threSet_eq (status : BitVec 8) : threSet status = status.getLsbD 5 := by
  rw [threSet, and_thre_mask]
  cases status.getLsbD 5 <;> decide

namespace Amd64

/-- `COM1_PORT`. -/
def com1Port : Nat := 0x3F8

/-- `DATA_PORT`. -/
def dataPort : Nat := 0

/-- `LINE_STATUS_PORT`. -/
def lineStatusPort : Nat := 5

/-- `SerialPort::is_transmit_empty`, on the byte read from `COM1_PORT + LINE_STATUS_PORT`. -/
def SerialPort.isTransmitEmpty (lineStatus : BitVec 8) : Bool := threSet lineStatus

/-- COM1, as `SerialPort::write_byte` drives it. -/
def serialPort : Transmitter where
  dataRegister := com1Port + dataPort
  lineStatusRegister := com1Port + lineStatusPort
  isTransmitEmpty := SerialPort.isTransmitEmpty
  isTransmitEmpty_eq := threSet_eq

/-- `SerialPort::write_byte`. -/
def SerialPort.writeByte (lineStatus : Nat → BitVec 8) (fuel next : Nat) (byte : BitVec 8) : Run :=
  Console.writeByte serialPort lineStatus fuel next byte

/-- `SerialPort::write_str`. -/
def SerialPort.writeStr (lineStatus : Nat → BitVec 8) (fuel next : Nat) (s : List (BitVec 8)) :
    Run :=
  Console.writeStr serialPort lineStatus fuel next s

end Amd64

namespace Armv9

/-- `UART_MMIO_ADDR`. -/
def uartMmioAddr : Nat := 0xFE201000

/-- `DATA_REGISTER_OFFSET`. -/
def dataRegisterOffset : Nat := 0x00

/-- `LINE_STATUS_REGISTER_OFFSET`. -/
def lineStatusRegisterOffset : Nat := 0x05

/-- `Uart::is_transmit_empty`: `(status & 0x20) != 0`, the other comparison. -/
def Uart.isTransmitEmpty (status : BitVec 8) : Bool := status &&& 0x20 != 0

/-- Comparing with zero instead of with the mask tests the same bit. -/
theorem Uart.isTransmitEmpty_eq_threSet : Uart.isTransmitEmpty = threSet := by
  funext status
  rw [Uart.isTransmitEmpty, threSet, and_thre_mask]
  cases status.getLsbD 5 <;> decide

/-- The PL011-style UART, its registers at `get_register_addr(offset)`, that is
`UART_MMIO_ADDR + offset` (the `checked_add` cannot overflow for these offsets). -/
def uart : Transmitter where
  dataRegister := uartMmioAddr + dataRegisterOffset
  lineStatusRegister := uartMmioAddr + lineStatusRegisterOffset
  isTransmitEmpty := Uart.isTransmitEmpty
  isTransmitEmpty_eq status := by rw [Uart.isTransmitEmpty_eq_threSet, threSet_eq]

/-- `Uart::write_byte`. -/
def Uart.writeByte (lineStatus : Nat → BitVec 8) (fuel next : Nat) (byte : BitVec 8) : Run :=
  Console.writeByte uart lineStatus fuel next byte

/-- `Uart::write_str`. -/
def Uart.writeStr (lineStatus : Nat → BitVec 8) (fuel next : Nat) (s : List (BitVec 8)) : Run :=
  Console.writeStr uart lineStatus fuel next s

end Armv9

namespace Sparcv9

/-- `UART_MMIO_ADDR`. -/
def uartMmioAddr : Nat := 0xFE000000

/-- `DATA_REGISTER_OFFSET`. -/
def dataRegisterOffset : Nat := 0x00

/-- `LINE_STATUS_REGISTER_OFFSET`. -/
def lineStatusRegisterOffset : Nat := 0x05

/-- `Uart::is_transmit_empty`: `(status & 0x20) == 0x20`. -/
def Uart.isTransmitEmpty (status : BitVec 8) : Bool := threSet status

/-- The 16550-compatible UART, its registers at `get_register_addr(offset)`, that is
`UART_MMIO_ADDR + offset` (the `checked_add` cannot overflow for these offsets). -/
def uart : Transmitter where
  dataRegister := uartMmioAddr + dataRegisterOffset
  lineStatusRegister := uartMmioAddr + lineStatusRegisterOffset
  isTransmitEmpty := Uart.isTransmitEmpty
  isTransmitEmpty_eq := threSet_eq

/-- `Uart::write_byte`. -/
def Uart.writeByte (lineStatus : Nat → BitVec 8) (fuel next : Nat) (byte : BitVec 8) : Run :=
  Console.writeByte uart lineStatus fuel next byte

/-- `Uart::write_str`. -/
def Uart.writeStr (lineStatus : Nat → BitVec 8) (fuel next : Nat) (s : List (BitVec 8)) : Run :=
  Console.writeStr uart lineStatus fuel next s

end Sparcv9

/-- The contract of every transmitter's `write_str`, for every line-status sequence and every
byte string. A run that returns writes exactly the string with LF sent as CR LF, and only to
the data register. It reads only the line-status register, and it makes each write after a
read that showed THRE. On a device that keeps raising THRE, the call returns. -/
theorem writeStr_contract (transmitter : Transmitter) (lineStatus : Nat → BitVec 8)
    (s : List (BitVec 8)) :
    (∀ fuel next accesses last,
      writeStr transmitter lineStatus fuel next s = some (accesses, last) →
        written accesses = onTheWire s ∧ (∀ access ∈ accesses, access.Targets transmitter) ∧
          threBeforeEachWrite false accesses = true) ∧
      ((∀ k, ∃ ready, k ≤ ready ∧ (lineStatus ready).getLsbD 5 = true) →
        ∀ next, ∃ fuel result, writeStr transmitter lineStatus fuel next s = some result) := by
  refine ⟨fun fuel next accesses last hrun => ?_, fun hthre next =>
    writeStr_returns transmitter lineStatus hthre next s⟩
  obtain ⟨hwritten, htargets, hthre⟩ := writeStr_sends lineStatus fuel hrun
  refine ⟨hwritten, htargets, ?_⟩
  simpa [threBeforeEachWrite] using hthre []

/-- The contract for the x86-64 `SerialPort` and the AArch64 and SPARC `Uart`. -/
theorem consoles_send_crlf_after_thre :
    ∀ transmitter ∈ [Amd64.serialPort, Armv9.uart, Sparcv9.uart],
      ∀ (lineStatus : Nat → BitVec 8) (s : List (BitVec 8)),
        (∀ fuel next accesses last,
          writeStr transmitter lineStatus fuel next s = some (accesses, last) →
            written accesses = onTheWire s ∧ (∀ access ∈ accesses, access.Targets transmitter) ∧
              threBeforeEachWrite false accesses = true) ∧
          ((∀ k, ∃ ready, k ≤ ready ∧ (lineStatus ready).getLsbD 5 = true) →
            ∀ next, ∃ fuel result, writeStr transmitter lineStatus fuel next s = some result) :=
  fun transmitter _ => writeStr_contract transmitter

/-- With COM1 reporting THRE on every read, `write_str` of a lone LF returns. -/
theorem consoles_send_crlf_after_thre_on_ready_com1 :
    ∃ fuel result, writeStr Amd64.serialPort (fun _ => 0x20) fuel 0 [0x0A] = some result :=
  (consoles_send_crlf_after_thre Amd64.serialPort (by simp) (fun _ => 0x20) [0x0A]).2
    (fun k => ⟨k, Nat.le_refl k, by decide⟩) 0

end SahneKarnal.Arch.Console
