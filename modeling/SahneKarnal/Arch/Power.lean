import SahneKarnal.Arch.Exception.Idt

/-!
# Rebooting an x86-64 machine

Both x86-64 reboot routines ask the 8042 keyboard controller to pulse the reset line. They
first poll its status port (0x64) until the input buffer is empty (bit 1 clear), a bounded
number of times, and then write the reset command 0xFE to the same port whether or not the poll
succeeded. `kbd_wait` in `power.rs` polls at most 100 000 times and returns at the first empty
reading. The loop of `reboot_via_keyboard_controller` in `shutdown.rs` polls at most 0x10000 times
and breaks at the first empty reading. Both are `waitInputBuffer` with their own bound.

The controller's reset may not happen. Then the `system_reboot` of `shutdown.rs` forces a
reset: it loads the IDTR from the zeroed 16 bytes `[0u64, 0u64]` and executes `int $3`. With
limit 0 no gate lies within the table, so the breakpoint's gate raises #GP. The #GP's gate lies
outside as well, which makes a double fault, and so does the double fault's gate: the processor
shuts down, which on a PC resets it.

Main result: `system_reboot_polls_then_triple_faults`. For every sequence of status readings,
each poll reads the port exactly until its first empty reading, or up to its bound. For every
content of memory, the fallback of `shutdown.rs` ends in shutdown.
-/

namespace SahneKarnal.Arch.Power.Amd64

open SahneKarnal.Arch.Exception.Amd64

/-- `KBD_CTRL_PORT` (`shutdown.rs`), `KBD_STATUS_PORT` and `KBD_CMD_PORT` (`power.rs`): the
8042's status and command port. -/
def kbdCtrlPort : Nat := 0x64

/-- `KBD_CMD_REBOOT`: pulse the reset line. -/
def kbdCmdReboot : BitVec 8 := 0xFE

/-- The polling loop of both reboot routines: read the status port at most `remaining` more
times, and stop after the first reading whose input-buffer bit (bit 1) is clear. `status read`
is the value of reading number `read`; the result is the number of readings made. -/
def waitInputBuffer (status : Nat → BitVec 8) : Nat → Nat → Nat
  | 0, read => read
  | remaining + 1, read =>
    if status read &&& 0x02 = 0 then read + 1 else waitInputBuffer status remaining (read + 1)

/-- `kbd_wait` (`power.rs`): at most 100 000 readings. -/
def kbdWait (status : Nat → BitVec 8) : Nat := waitInputBuffer status 100000 0

/-- The loop of `reboot_via_keyboard_controller` (`shutdown.rs`): at most 0x10000 readings. -/
def rebootViaKeyboardControllerPoll (status : Nat → BitVec 8) : Nat :=
  waitInputBuffer status 0x10000 0

/-- What `system_reboot` (`shutdown.rs`) does while the reset has not taken effect: the number of
status readings, the port writes, and where its `int $3` ends. -/
structure RebootRun where
  statusReads : Nat
  portWrites : List (Nat × BitVec 8)
  outcome : Delivery

/-- `system_reboot` (`shutdown.rs`): `cli`, `reboot_via_keyboard_controller` (the poll, then
0xFE to port 0x64), then `lidt` of the zeroed `[0u64, 0u64]` (limit 0, base 0) and `int $3`.
`idt` is whatever memory then holds at the base. -/
def systemReboot (status : Nat → BitVec 8) (idt : Idt) : RebootRun :=
  ⟨rebootViaKeyboardControllerPoll status, [(kbdCtrlPort, kbdCmdReboot)],
    (⟨0, 0⟩ : IdtPointer).deliverSoftwareInterrupt idt 3⟩

/-- A poll with bound `bound` made `reads` readings: at least one and at most `bound`, every
reading but the last found the input buffer full, and the last found it empty unless the bound
was reached. -/
def PollStops (status : Nat → BitVec 8) (bound reads : Nat) : Prop :=
  1 ≤ reads ∧ reads ≤ bound ∧ (∀ read, read + 1 < reads → status read &&& 0x02 ≠ 0) ∧
    (status (reads - 1) &&& 0x02 = 0 ∨ reads = bound)

/-- The exact number of readings of the loop from reading `read` on, with `remaining` readings
left. -/
theorem waitInputBuffer_eq_iff (status : Nat → BitVec 8) (reads : Nat) :
    ∀ remaining read, 0 < remaining →
      (waitInputBuffer status remaining read = reads ↔
        read + 1 ≤ reads ∧ reads ≤ read + remaining ∧
          (∀ other, read ≤ other → other + 1 < reads → status other &&& 0x02 ≠ 0) ∧
          (status (reads - 1) &&& 0x02 = 0 ∨ reads = read + remaining))
  | 0, _, hremaining => absurd hremaining (Nat.lt_irrefl 0)
  | remaining + 1, read, _ => by
    rw [waitInputBuffer]
    by_cases hempty : status read &&& 0x02 = 0
    · rw [if_pos hempty]
      constructor
      · rintro rfl
        exact ⟨Nat.le_refl _, by omega, fun other hle hlt => by omega, .inl hempty⟩
      · rintro ⟨hlow, -, hfull, -⟩
        by_contra hne
        exact hfull read (Nat.le_refl _) (by omega) hempty
    · rw [if_neg hempty]
      rcases Nat.eq_zero_or_pos remaining with rfl | hpos
      · rw [waitInputBuffer]
        constructor
        · rintro rfl
          exact ⟨Nat.le_refl _, Nat.le_refl _, fun other hle hlt => by omega, .inr rfl⟩
        · rintro ⟨hlow, hhigh, -, -⟩
          omega
      · rw [waitInputBuffer_eq_iff status reads remaining (read + 1) hpos]
        constructor
        · rintro ⟨hlow, hhigh, hfull, hlast⟩
          refine ⟨by omega, by omega, fun other hle hlt => ?_, hlast.imp_right fun h => by omega⟩
          rcases Nat.eq_or_lt_of_le hle with rfl | hlt'
          · exact hempty
          · exact hfull other hlt' hlt
        · rintro ⟨hlow, hhigh, hfull, hlast⟩
          have hsecond : read + 2 ≤ reads := by
            by_contra hshort
            have hreads : reads = read + 1 := by omega
            subst hreads
            rcases hlast with hlast | hlast
            · exact hempty (by simpa using hlast)
            · omega
          exact ⟨by omega, by omega, fun other hle hlt => hfull other (by omega) hlt,
            hlast.imp_right fun h => by omega⟩

theorem waitInputBuffer_stops (status : Nat → BitVec 8) {bound : Nat} (hbound : 0 < bound)
    (reads : Nat) : waitInputBuffer status bound 0 = reads ↔ PollStops status bound reads := by
  rw [waitInputBuffer_eq_iff status reads bound 0 hbound, PollStops]
  simp only [Nat.zero_add, Nat.zero_le, true_implies]

/-- With limit 0 every gate lies past the limit, so `int $3` faults to #GP, the #GP to a double
fault, and the double fault to shutdown, whatever the table holds. -/
theorem deliverSoftwareInterrupt_zero_limit (base : BitVec 64) (idt : Idt) (vector : BitVec 8) :
    (⟨0, base⟩ : IdtPointer).deliverSoftwareInterrupt idt vector = .shutdown := by
  have hgate : ∀ target : BitVec 8, (⟨0, base⟩ : IdtPointer).gate idt target = .error 13 :=
    fun target => if_pos (show 0 < 16 * target.toNat + 15 by omega)
  simp only [IdtPointer.deliverSoftwareInterrupt, IdtPointer.deliverEvent,
    IdtPointer.deliverFault, IdtPointer.deliverDoubleFault, hgate]

/-- For every sequence of status readings, `kbd_wait` and the poll of
`reboot_via_keyboard_controller` read the port exactly up to their first empty reading, or up to
their bounds of 100 000 and 0x10000. The reset command follows in either case. For every content
of memory, the fallback `int $3` of `system_reboot` then ends in processor shutdown. -/
theorem system_reboot_polls_then_triple_faults (status : Nat → BitVec 8) (idt : Idt)
    (reads : Nat) :
    (kbdWait status = reads ↔ PollStops status 100000 reads) ∧
      ((systemReboot status idt).statusReads = reads ↔ PollStops status 0x10000 reads) ∧
      (systemReboot status idt).portWrites = [(kbdCtrlPort, kbdCmdReboot)] ∧
      (systemReboot status idt).outcome = .shutdown :=
  ⟨waitInputBuffer_stops status (by decide) reads, waitInputBuffer_stops status (by decide) reads,
    rfl, deliverSoftwareInterrupt_zero_limit 0 idt 3⟩

end SahneKarnal.Arch.Power.Amd64
