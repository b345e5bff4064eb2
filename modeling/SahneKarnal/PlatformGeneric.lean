import Mathlib.Logic.Function.Basic

/-!
# Kernel error codes, system constants and the spinlock

`platformgeneric.rs` declares the kernel-wide error sum `KernelError`, the compile-time
`SystemConstants`, and `spinlock::Spinlock`, one atomic boolean taken by a
`compare_exchange` loop and released by a store.

The lock is modelled as a shared-memory system: threads of any type, each running
`lock(); critical section; unlock()` over and over, one atomic instruction per step, in any
order a scheduler picks. `Spinlock.mutual_exclusion` says that after every schedule at most
one thread is past a successful `lock()` and before its `unlock()`, and that `locked` is set
exactly when one thread is there.
-/

namespace SahneKarnal

/-- `KernelError`, the closed sum of kernel error codes. -/
inductive KernelError where
  | success
  | resourceBusy
  | invalidArgument
  | notFound
  | outOfMemoryStatic
  | platformSpecificError (code : UInt32)
  | genericFailure
  deriving DecidableEq, Repr

/-- `SystemConstants::MAX_TASKS`: the number of statically allocated tasks. -/
def SystemConstants.maxTasks : Nat := 32

namespace Spinlock

/-- `AtomicBool::compare_exchange(expected, new)` on the stored value `current`: the value
stored afterwards, and `Ok` of the previous value when it matched, `Err` of it otherwise. -/
def compareExchange (current expected new : Bool) : Bool × Except Bool Bool :=
  if current = expected then (new, .ok current) else (current, .error current)

/-- Where a thread is in its loop `lock(); critical section; unlock()`. -/
inductive Phase where
  /-- Outside the lock's code, about to call `lock()`. -/
  | idle
  /-- Inside `lock()`, at the `compare_exchange` of its spin loop. -/
  | spinning
  /-- Between a successful `lock()` and the store of its `unlock()`. -/
  | critical
  deriving DecidableEq, Repr

/-- The shared `locked` flag of one `Spinlock` together with the phase of every thread. -/
structure System (Thread : Type) where
  locked : Bool
  phase : Thread → Phase

variable {Thread : Type}

/-- `Spinlock::new()`, with every thread outside the lock. -/
def System.init : System Thread := ⟨false, fun _ => .idle⟩

/-- The inductive invariant: at most one thread is in its critical section, and the flag is
set exactly when some thread is. -/
structure Exclusive (system : System Thread) : Prop where
  at_most_one : ∀ a b, system.phase a = .critical → system.phase b = .critical → a = b
  locked_iff : system.locked = true ↔ ∃ a, system.phase a = .critical

theorem exclusive_init : Exclusive (System.init : System Thread) :=
  ⟨by simp [System.init], by simp [System.init]⟩

variable [DecidableEq Thread]

/-- One atomic step of `thread`. From `spinning` it runs the `compare_exchange(false, true)`
of `lock()` and leaves the loop on `Ok`; from `critical` it runs the `store(false)` of
`unlock()`. Steps of the critical section itself do not touch the lock and are not modelled. -/
def step (system : System Thread) (thread : Thread) : System Thread :=
  match system.phase thread with
  | .idle => { system with phase := Function.update system.phase thread .spinning }
  | .spinning =>
      match compareExchange system.locked false true with
      | (locked, .ok _) => ⟨locked, Function.update system.phase thread .critical⟩
      | (locked, .error _) => { system with locked := locked }
  | .critical => ⟨false, Function.update system.phase thread .idle⟩

/-- Run the threads of `schedule` one atomic step each, in order. -/
def run (system : System Thread) (schedule : List Thread) : System Thread :=
  schedule.foldl step system

/-- A step from `idle` or a failed `compare_exchange` changes no thread's right to the
critical section. -/
theorem exclusive_enter_spin {system : System Thread} {thread : Thread}
    (hidle : system.phase thread ≠ .critical) (hinv : Exclusive system) :
    Exclusive { system with phase := Function.update system.phase thread .spinning } := by
  have hsame : ∀ a, Function.update system.phase thread .spinning a = .critical ↔
      system.phase a = .critical := by
    intro a
    by_cases h : a = thread
    · subst h; simp [hidle]
    · simp [Function.update_noteq h]
  exact ⟨fun a b ha hb => hinv.at_most_one a b ((hsame a).1 ha) ((hsame b).1 hb),
    by simpa only [hsame] using hinv.locked_iff⟩

/-- A successful `compare_exchange` happens only on a free lock, so the thread becomes the
only one in its critical section. -/
theorem exclusive_acquire {system : System Thread} {thread : Thread}
    (hfree : system.locked = false) (hinv : Exclusive system) :
    Exclusive ⟨true, Function.update system.phase thread .critical⟩ := by
  have hnone : ∀ a, system.phase a ≠ .critical := fun a ha => by
    simpa [hfree] using hinv.locked_iff.2 ⟨a, ha⟩
  have honly : ∀ a, Function.update system.phase thread .critical a = .critical → a = thread := by
    intro a ha
    by_contra h
    exact hnone a (by simpa [Function.update_noteq h] using ha)
  exact ⟨fun a b ha hb => (honly a ha).trans (honly b hb).symm,
    by simp only [true_iff]; exact ⟨thread, by simp⟩⟩

/-- `unlock()` by the holder leaves no thread in its critical section. -/
theorem exclusive_release {system : System Thread} {thread : Thread}
    (hheld : system.phase thread = .critical) (hinv : Exclusive system) :
    Exclusive ⟨false, Function.update system.phase thread .idle⟩ := by
  have hnone : ∀ a, Function.update system.phase thread .idle a ≠ .critical := by
    intro a ha
    by_cases h : a = thread
    · subst h; simp at ha
    · exact h (hinv.at_most_one a thread (by simpa [Function.update_noteq h] using ha) hheld)
  exact ⟨fun a _ ha => absurd ha (hnone a), by simpa using hnone⟩

/-- Every atomic step of every thread keeps the invariant. -/
theorem exclusive_step {system : System Thread} (thread : Thread) (hinv : Exclusive system) :
    Exclusive (step system thread) := by
  unfold step
  split
  · rename_i hphase
    exact exclusive_enter_spin (by simp [hphase]) hinv
  · obtain ⟨locked, phase⟩ := system
    cases locked
    · simpa [compareExchange] using exclusive_acquire rfl hinv
    · simpa [compareExchange] using hinv
  · rename_i hphase
    exact exclusive_release hphase hinv

theorem exclusive_run {system : System Thread} (schedule : List Thread)
    (hinv : Exclusive system) : Exclusive (run system schedule) := by
  induction schedule generalizing system with
  | nil => exact hinv
  | cons thread rest ih => exact ih (exclusive_step thread hinv)

/-- Mutual exclusion of `Spinlock`: after every schedule of any number of threads, at most
one thread is between a successful `lock()` and its `unlock()`, and `locked` is true exactly
when one thread is there. -/
theorem mutual_exclusion (schedule : List Thread) :
    (∀ a b, (run System.init schedule).phase a = .critical →
      (run System.init schedule).phase b = .critical → a = b) ∧
    ((run System.init schedule).locked = true ↔
      ∃ a, (run System.init schedule).phase a = .critical ∧
        ∀ b, (run System.init schedule).phase b = .critical → b = a) := by
  have hinv := exclusive_run schedule (@exclusive_init Thread)
  refine ⟨hinv.at_most_one, hinv.locked_iff.trans ⟨?_, fun ⟨a, ha, _⟩ => ⟨a, ha⟩⟩⟩
  rintro ⟨a, ha⟩
  exact ⟨a, ha, fun b hb => hinv.at_most_one b a hb ha⟩

end Spinlock

end SahneKarnal
