import SahneKarnal.Memory

/-!
# The task-stack allocator under concurrent calls

`allocate_stack` and `deallocate_stack` load the flag of their task id in the global
`GLOBAL_TASK_STACK_ALLOCATOR`, then store it. There is no lock: the field
`lock: platformgeneric::spinlock::Spinlock` is commented out, and both functions carry the note
that a real kernel would need a spinlock there. Each call is modelled as its two accesses to the
shared flag. The threads' accesses interleave in any order a scheduler picks. The bounds check
and the address computation are local to the thread and go with the access after them.

Read first:
* `serial_call`: a call that runs without interruption is `apply`, the sequential model of
  `Memory.lean`.
* `admissible_runs_linearize`: take any schedule in which no call loads the flag of an id while
  another call sits between its load and its store of that id. The calls then answer exactly as
  the set model does, taken in the order in which they return, and the flags end as its final set.
* `overlapping_allocations_share_stack`: without that condition this fails at once. Take two
  `allocate_stack` calls on the same free id whose loads both come before either store. In every
  schedule from there on, stores in either order and other steps anywhere, both succeed and hand
  out the same stack, where the set model refuses the second.
-/

namespace SahneKarnal.TaskStackAllocator

open SystemConstants MemoryRegions

/-- The task id a call names. -/
def Op.taskId : Op → Nat
  | .allocate taskId => taskId
  | .deallocate taskId => taskId

/-- A call changes no flag but that of its own id. -/
theorem apply_isAllocated_of_ne (allocator : TaskStackAllocator) (op : Op) {slot : Fin maxTasks}
    (hne : slot.val ≠ op.taskId) :
    (apply allocator op).2.isAllocated slot = allocator.isAllocated slot := by
  have hslot : ∀ (taskId : Nat) (hlt : taskId < maxTasks), slot.val ≠ taskId →
      slot ≠ ⟨taskId, hlt⟩ := fun _ _ hval h => hval (congrArg Fin.val h)
  cases op with
  | allocate taskId =>
    simp only [apply, allocateStack]
    split_ifs with hbound hflag
    · rfl
    · rfl
    · split <;> exact Function.update_noteq (hslot taskId (by omega) hne) _ _
  | deallocate taskId =>
    simp only [apply, deallocateStack]
    split_ifs with hbound hflag
    · rfl
    · rfl
    · exact Function.update_noteq (hslot taskId (by omega) hne) _ _

namespace Concurrent

/-- Where a thread is in its current call. -/
inductive Phase where
  /-- Between calls. -/
  | idle
  /-- In call `op`, before it loads the flag of its id. -/
  | entered (op : Op)
  /-- In `allocate_stack`, having found the flag of `slot` clear, before setting it. -/
  | marking (slot : Fin maxTasks)
  /-- In `deallocate_stack`, having found the flag of `slot` set, before clearing it. -/
  | clearing (slot : Fin maxTasks)

/-- The flag a thread has loaded and is yet to store. -/
def Phase.loaded : Phase → Option (Fin maxTasks)
  | .marking slot => some slot
  | .clearing slot => some slot
  | _ => none

/-- What a thread between its load and its store read from the flags. -/
def Phase.Sees (allocator : TaskStackAllocator) : Phase → Prop
  | .marking slot => allocator.isAllocated slot = false
  | .clearing slot => allocator.isAllocated slot = true
  | _ => True

/-- A thread keeps seeing what it read while its flag is not written. -/
theorem Phase.sees_of_agree {allocator next : TaskStackAllocator} {phase : Phase}
    (hagree : ∀ slot, phase.loaded = some slot →
      next.isAllocated slot = allocator.isAllocated slot)
    (hsees : phase.Sees allocator) : phase.Sees next := by
  cases phase <;> simp_all [Phase.Sees, Phase.loaded]

/-- The shared flags, the phase of every thread, and the calls that have returned, with their
results, in the order they returned. -/
structure System (Thread : Type) where
  allocator : TaskStackAllocator
  phase : Thread → Phase
  history : List (Op × Response)

/-- A scheduling decision: an idle thread enters a call, or a thread makes its next access. -/
inductive Action (Thread : Type) where
  | call (thread : Thread) (op : Op)
  | step (thread : Thread)

variable {Thread : Type}

/-- The initial value of `GLOBAL_TASK_STACK_ALLOCATOR`, with every thread between calls. -/
def System.init : System Thread := ⟨TaskStackAllocator.init, fun _ => .idle, []⟩

variable [DecidableEq Thread]

/-- `thread` returns `response` from `op`, the flags being `allocator` afterwards. -/
def System.finish (system : System Thread) (thread : Thread) (op : Op) (response : Response)
    (allocator : TaskStackAllocator) : System Thread :=
  ⟨allocator, Function.update system.phase thread .idle, system.history ++ [(op, response)]⟩

/-- The first access of call `op`: the bounds check, then the load of the flag. An
`allocate_stack` that finds it clear, or a `deallocate_stack` that finds it set, goes on to its
store; every other outcome returns. -/
def System.load (system : System Thread) (thread : Thread) : Op → System Thread
  | .allocate taskId =>
    if h : taskId ≥ maxTasks then
      system.finish thread (.allocate taskId) (.allocated (.error .invalidArgument))
        system.allocator
    else if system.allocator.isAllocated ⟨taskId, by omega⟩ then
      system.finish thread (.allocate taskId) (.allocated (.error .resourceBusy)) system.allocator
    else
      { system with phase := Function.update system.phase thread (.marking ⟨taskId, by omega⟩) }
  | .deallocate taskId =>
    if h : taskId ≥ maxTasks then
      system.finish thread (.deallocate taskId) (.deallocated (.error .invalidArgument))
        system.allocator
    else if !system.allocator.isAllocated ⟨taskId, by omega⟩ then
      system.finish thread (.deallocate taskId) (.deallocated (.error .notFound)) system.allocator
    else
      { system with
        phase := Function.update system.phase thread (.clearing ⟨taskId, by omega⟩) }

/-- One scheduling decision. Entering a call is only possible between calls. The store of
`allocate_stack` sets the flag and returns the stack top computed from
`get_stack_base_address`; that of `deallocate_stack` clears it. -/
def step (system : System Thread) : Action Thread → System Thread
  | .call thread op =>
    match system.phase thread with
    | .idle => { system with phase := Function.update system.phase thread (.entered op) }
    | _ => system
  | .step thread =>
    match system.phase thread with
    | .idle => system
    | .entered op => system.load thread op
    | .marking slot =>
      system.finish thread (.allocate slot.val)
        (match getStackBaseAddress slot.val with
          | none => .allocated (.error .outOfMemoryStatic)
          | some base => .allocated (.ok (base + taskStackSize)))
        ⟨Function.update system.allocator.isAllocated slot true⟩
    | .clearing slot =>
      system.finish thread (.deallocate slot.val) (.deallocated (.ok ()))
        ⟨Function.update system.allocator.isAllocated slot false⟩

/-- Run a schedule. -/
def run (system : System Thread) (schedule : List (Action Thread)) : System Thread :=
  schedule.foldl step system

/-- The step `action` would load the flag of an id while another thread sits between its load
and its store of that flag. -/
def Overlapping (system : System Thread) : Action Thread → Prop
  | .call _ _ => False
  | .step thread => ∃ op, system.phase thread = .entered op ∧
      ∃ other slot, other ≠ thread ∧ (system.phase other).loaded = some slot ∧
        slot.val = op.taskId

/-- No step of the schedule overlaps. -/
def Admissible : System Thread → List (Action Thread) → Prop
  | _, [] => True
  | system, action :: rest => ¬ Overlapping system action ∧ Admissible (step system action) rest

/-! ## What each access does -/

/-- The load either returns at once what `apply` returns, or moves the thread to a phase that
has loaded the call's flag and seen in it what the call needs. -/
theorem load_cases (system : System Thread) (thread : Thread) (op : Op) :
    system.load thread op =
        system.finish thread op (apply system.allocator op).1 (apply system.allocator op).2 ∨
      ∃ phase slot, phase.loaded = some slot ∧ slot.val = op.taskId ∧
        phase.Sees system.allocator ∧
        system.load thread op =
          { system with phase := Function.update system.phase thread phase } := by
  cases op with
  | allocate taskId =>
    by_cases hbound : taskId ≥ maxTasks
    · simp [System.load, hbound, apply, allocateStack]
    · by_cases hflag : system.allocator.isAllocated ⟨taskId, by omega⟩
      · simp [System.load, hbound, hflag, apply, allocateStack]
      · exact .inr ⟨.marking ⟨taskId, by omega⟩, ⟨taskId, by omega⟩, rfl, rfl,
          by simpa [Phase.Sees] using hflag, by simp [System.load, hbound, hflag]⟩
  | deallocate taskId =>
    by_cases hbound : taskId ≥ maxTasks
    · simp [System.load, hbound, apply, deallocateStack]
    · by_cases hflag : system.allocator.isAllocated ⟨taskId, by omega⟩
      · exact .inr ⟨.clearing ⟨taskId, by omega⟩, ⟨taskId, by omega⟩, rfl, rfl, hflag,
          by simp [System.load, hbound, hflag]⟩
      · simp [System.load, hbound, hflag, apply, deallocateStack]

/-- The store of `allocate_stack` sets the flag and returns the top of the slot's stack, whatever
the flag holds by then: the store does not look at it again. -/
theorem step_marking_eq (system : System Thread) {thread : Thread} {slot : Fin maxTasks}
    (hmarking : system.phase thread = .marking slot) :
    step system (.step thread) = system.finish thread (.allocate slot.val)
      (.allocated (.ok (stackTop slot.val)))
      ⟨Function.update system.allocator.isAllocated slot true⟩ := by
  simp only [step, hmarking, getStackBaseAddress_of_lt slot.isLt, stackTop, Nat.succ_mul,
    Nat.add_assoc]

/-- The store of `allocate_stack`, made on the flag it found clear, returns what `apply`
returns. -/
theorem step_marking (system : System Thread) {thread : Thread} {slot : Fin maxTasks}
    (hmarking : system.phase thread = .marking slot)
    (hfree : system.allocator.isAllocated slot = false) :
    step system (.step thread) = system.finish thread (.allocate slot.val)
      (apply system.allocator (.allocate slot.val)).1
      (apply system.allocator (.allocate slot.val)).2 := by
  rw [step_marking_eq system hmarking]
  simp only [apply, allocateStack, dif_neg (Nat.not_le.2 slot.isLt), hfree, Bool.false_eq_true,
    if_false, getStackBaseAddress_of_lt slot.isLt, stackTop, Nat.succ_mul, Nat.add_assoc]

/-- The store of `deallocate_stack`, made on the flag it found set, returns what `apply`
returns. -/
theorem step_clearing (system : System Thread) {thread : Thread} {slot : Fin maxTasks}
    (hclearing : system.phase thread = .clearing slot)
    (hset : system.allocator.isAllocated slot = true) :
    step system (.step thread) = system.finish thread (.deallocate slot.val)
      (apply system.allocator (.deallocate slot.val)).1
      (apply system.allocator (.deallocate slot.val)).2 := by
  simp only [step, hclearing, apply, deallocateStack, dif_neg (Nat.not_le.2 slot.isLt), hset,
    Bool.not_true, Bool.false_eq_true, if_false]

/-! ## A call on its own is the sequential call -/

/-- A call that runs without interruption returns what `apply` returns and leaves its flags. -/
theorem serial_call (system : System Thread) (thread : Thread) (op : Op)
    (hidle : system.phase thread = .idle) :
    run system [.call thread op, .step thread, .step thread] =
      ⟨(apply system.allocator op).2, system.phase,
        system.history ++ [(op, (apply system.allocator op).1)]⟩ := by
  have hphase : Function.update system.phase thread .idle = system.phase :=
    Function.update_eq_self_iff.2 hidle.symm
  cases op with
  | allocate taskId =>
    by_cases hbound : taskId ≥ maxTasks
    · simp [run, step, hidle, System.load, hbound, System.finish, apply, allocateStack, hphase]
    · by_cases hflag : system.allocator.isAllocated ⟨taskId, by omega⟩ <;>
        simp [run, step, hidle, System.load, hbound, hflag, System.finish, apply, allocateStack,
          hphase]
      cases getStackBaseAddress taskId <;> exact ⟨rfl, rfl⟩
  | deallocate taskId =>
    by_cases hbound : taskId ≥ maxTasks
    · simp [run, step, hidle, System.load, hbound, System.finish, apply, deallocateStack, hphase]
    · by_cases hflag : system.allocator.isAllocated ⟨taskId, by omega⟩ <;>
        simp [run, step, hidle, System.load, hbound, hflag, System.finish, apply,
          deallocateStack, hphase]

/-! ## Admissible schedules linearize -/

/-- The set model answers a call appended at the end after the ones before it. -/
theorem Abstract.runOps_append_single (allocated : Finset Nat) (ops : List Op) (op : Op) :
    Abstract.runOps allocated (ops ++ [op]) =
      ((Abstract.runOps allocated ops).1 ++
          [(Abstract.apply (Abstract.runOps allocated ops).2 op).1],
        (Abstract.apply (Abstract.runOps allocated ops).2 op).2) := by
  induction ops generalizing allocated with
  | nil => rfl
  | cons first rest ih => simp [Abstract.runOps, ih]

/-- Replaying `history` on the set model from the empty set gives its results and ends at
`allocated`. -/
def Replays (history : List (Op × Response)) (allocated : Finset Nat) : Prop :=
  Abstract.runOps ∅ (history.map Prod.fst) = (history.map Prod.snd, allocated)

theorem Replays.append {history : List (Op × Response)} {allocated : Finset Nat}
    (hreplays : Replays history allocated) (op : Op) :
    Replays (history ++ [(op, (Abstract.apply allocated op).1)])
      (Abstract.apply allocated op).2 := by
  unfold Replays at hreplays ⊢
  simp [Abstract.runOps_append_single, hreplays]

/-- The invariant of admissible runs: the history replays on the set model to the set the flags
represent, a thread between its load and its store still sees in its flag what it loaded, and no
two threads sit between the load and the store of one flag. -/
structure Inv (system : System Thread) : Prop where
  replays : ∃ allocated, Replays system.history allocated ∧
    Represents system.allocator allocated
  sees : ∀ thread, (system.phase thread).Sees system.allocator
  exclusive : ∀ first second slot, (system.phase first).loaded = some slot →
    (system.phase second).loaded = some slot → first = second

omit [DecidableEq Thread] in
theorem inv_init : Inv (System.init : System Thread) :=
  ⟨⟨∅, rfl, represents_init⟩, fun _ => trivial, fun _ _ _ h => nomatch h⟩

/-- Moving `thread` to a phase that sees the flags as they are, and has loaded no flag another
thread has loaded, keeps the invariant. -/
theorem Inv.setPhase {system : System Thread} (hinv : Inv system) (thread : Thread)
    (phase : Phase) (hsees : phase.Sees system.allocator)
    (hfree : ∀ slot, phase.loaded = some slot →
      ∀ other, other ≠ thread → (system.phase other).loaded ≠ some slot) :
    Inv { system with phase := Function.update system.phase thread phase } := by
  refine ⟨hinv.replays, fun other => ?_, fun first second slot hfirst hsecond => ?_⟩
  · by_cases h : other = thread
    · subst h
      simpa using hsees
    · simpa [Function.update_noteq h] using hinv.sees other
  · by_cases hf : first = thread <;> by_cases hs : second = thread
    · rw [hf, hs]
    · subst hf
      simp only [Function.update_same, Function.update_noteq hs] at hfirst hsecond
      exact absurd hsecond (hfree slot hfirst second hs)
    · subst hs
      simp only [Function.update_same, Function.update_noteq hf] at hfirst hsecond
      exact absurd hfirst (hfree slot hsecond first hf)
    · simp only [Function.update_noteq hf, Function.update_noteq hs] at hfirst hsecond
      exact hinv.exclusive first second slot hfirst hsecond

/-- A call returning what `apply` returns keeps the invariant, provided no other thread has
loaded the flag of its id. This is the linearization point of every call. -/
theorem Inv.finish {system : System Thread} (hinv : Inv system) (thread : Thread) (op : Op)
    (hfree : ∀ other slot, other ≠ thread → (system.phase other).loaded = some slot →
      slot.val ≠ op.taskId) :
    Inv (system.finish thread op (apply system.allocator op).1 (apply system.allocator op).2) := by
  obtain ⟨allocated, hreplays, hrep⟩ := hinv.replays
  obtain ⟨hresponse, hnext⟩ := apply_refines hrep op
  refine ⟨⟨_, hresponse ▸ hreplays.append op, hnext⟩, fun other => ?_,
    fun first second slot hfirst hsecond => ?_⟩
  · by_cases h : other = thread
    · subst h
      simp [System.finish, Phase.Sees]
    · simp only [System.finish, Function.update_noteq h]
      exact Phase.sees_of_agree (fun slot hslot =>
        apply_isAllocated_of_ne _ op (hfree other slot h hslot)) (hinv.sees other)
  · by_cases hf : first = thread
    · subst hf
      simp [System.finish, Phase.loaded] at hfirst
    · by_cases hs : second = thread
      · subst hs
        simp [System.finish, Phase.loaded] at hsecond
      · simp only [System.finish, Function.update_noteq hf, Function.update_noteq hs]
          at hfirst hsecond
        exact hinv.exclusive first second slot hfirst hsecond

omit [DecidableEq Thread] in
/-- No thread but the one that loaded a flag has loaded it. -/
theorem Inv.loaded_only {system : System Thread} (hinv : Inv system) {thread : Thread}
    {slot : Fin maxTasks} (hloaded : (system.phase thread).loaded = some slot) :
    ∀ other loaded, other ≠ thread → (system.phase other).loaded = some loaded →
      loaded.val ≠ slot.val :=
  fun other loaded hne hother hval =>
    hne (hinv.exclusive other thread loaded hother (by rw [hloaded, Fin.ext hval]))

/-- Every step that does not overlap keeps the invariant. -/
theorem inv_step {system : System Thread} (hinv : Inv system) {action : Action Thread}
    (hadmissible : ¬ Overlapping system action) : Inv (step system action) := by
  cases action with
  | call thread op =>
    cases hphase : system.phase thread with
    | idle =>
      simp only [step, hphase]
      exact hinv.setPhase thread (.entered op) trivial fun _ h => nomatch h
    | entered _ | marking _ | clearing _ => simpa only [step, hphase] using hinv
  | step thread =>
    cases hphase : system.phase thread with
    | idle => simpa only [step, hphase] using hinv
    | entered op =>
      have hnot : ∀ other slot, other ≠ thread → (system.phase other).loaded = some slot →
          slot.val ≠ op.taskId := fun other slot hne hloaded hslot =>
        hadmissible ⟨op, hphase, other, slot, hne, hloaded, hslot⟩
      simp only [step, hphase]
      rcases load_cases system thread op with
        hload | ⟨phase, slot, hloaded, hslot, hsees, hload⟩
      · rw [hload]
        exact hinv.finish thread op hnot
      · rw [hload]
        refine hinv.setPhase thread phase hsees fun loaded hphase other hne hother => ?_
        rw [hloaded] at hphase
        cases hphase
        exact hnot other slot hne hother hslot
    | marking slot =>
      have hfree : system.allocator.isAllocated slot = false := by
        simpa [hphase, Phase.Sees] using hinv.sees thread
      rw [step_marking system hphase hfree]
      exact hinv.finish thread _ (hinv.loaded_only (by rw [hphase]; rfl))
    | clearing slot =>
      have hset : system.allocator.isAllocated slot = true := by
        simpa [hphase, Phase.Sees] using hinv.sees thread
      rw [step_clearing system hphase hset]
      exact hinv.finish thread _ (hinv.loaded_only (by rw [hphase]; rfl))

/-- Every admissible run keeps the invariant. -/
theorem inv_run {system : System Thread} (hinv : Inv system) (schedule : List (Action Thread))
    (hadmissible : Admissible system schedule) : Inv (run system schedule) := by
  induction schedule generalizing system with
  | nil => exact hinv
  | cons action rest ih => exact ih (inv_step hinv hadmissible.1) hadmissible.2

/-- Along every admissible schedule from the initial allocator, each call returns what the set
model returns when the calls are applied one at a time in the order in which they returned, and
the flags hold the set model's final set. -/
theorem admissible_runs_linearize (schedule : List (Action Thread))
    (hadmissible : Admissible System.init schedule) :
    (run System.init schedule).history.map Prod.snd =
        (Abstract.runOps ∅ ((run System.init schedule).history.map Prod.fst)).1 ∧
      Represents (run System.init schedule).allocator
        (Abstract.runOps ∅ ((run System.init schedule).history.map Prod.fst)).2 := by
  obtain ⟨allocated, hreplays, hrep⟩ := (inv_run inv_init schedule hadmissible).replays
  rw [Replays] at hreplays
  rw [hreplays]
  exact ⟨rfl, hrep⟩

/-- Two threads allocate the stacks of tasks 1 and 2, their loads and stores interleaved. -/
def interleavedAllocations : List (Action Bool) :=
  [.call false (.allocate 1), .call true (.allocate 2), .step false, .step true, .step false,
    .step true]

theorem admissible_runs_linearize_interleaved :
    Admissible System.init interleavedAllocations ∧
      (run System.init interleavedAllocations).history.map Prod.snd =
        (Abstract.runOps ∅ ((run System.init interleavedAllocations).history.map Prod.fst)).1 ∧
      Represents (run System.init interleavedAllocations).allocator
        (Abstract.runOps ∅ ((run System.init interleavedAllocations).history.map Prod.fst)).2 :=
  have hadmissible : Admissible System.init interleavedAllocations := by
    simp [interleavedAllocations, Admissible, Overlapping, step, System.init, System.load,
      System.finish, Function.update_apply, Phase.loaded, Op.taskId, maxTasks, init]
  ⟨hadmissible, admissible_runs_linearize _ hadmissible⟩

/-! ## Overlapping allocations -/

@[simp] theorem run_cons (system : System Thread) (action : Action Thread)
    (rest : List (Action Thread)) : run system (action :: rest) = run (step system action) rest :=
  rfl

/-- A step only appends to the history. -/
theorem history_prefix_step (system : System Thread) (action : Action Thread) :
    system.history <+: (step system action).history := by
  cases action with
  | call thread op => rw [step]; split <;> exact List.prefix_refl _
  | step thread =>
    rw [step]; split
    · exact List.prefix_refl _
    · rcases load_cases system thread _ with hload | ⟨_, _, -, -, -, hload⟩ <;> rw [hload]
      exact List.prefix_append _ _
    all_goals exact List.prefix_append _ _

/-- A thread inside a call keeps its phase through every action but its own step. -/
theorem step_phase_of_ne (system : System Thread) {thread : Thread} {action : Action Thread}
    (hbusy : system.phase thread ≠ .idle) (haction : action ≠ .step thread) :
    (step system action).phase thread = system.phase thread := by
  cases action with
  | call other op =>
    rw [step]; split
    · next hidle =>
      exact Function.update_noteq (fun h => hbusy (by rw [h]; exact hidle)) _ _
    · rfl
  | step other =>
    have hne : thread ≠ other := fun h => haction (h ▸ rfl)
    rw [step]; split
    · rfl
    · rcases load_cases system other _ with hload | ⟨_, _, -, -, -, hload⟩ <;> rw [hload] <;>
        exact Function.update_noteq hne _ _
    all_goals exact Function.update_noteq hne _ _

/-- Every thread that has loaded the clear flag of `slot` in `allocate_stack` returns the top of
the slot's stack at its store, whatever ran since its load: the store does not look at the flag
again. So a schedule in which each of `racers` steps adds one such return per racer to the
history. -/
theorem marking_threads_return_stack (schedule : List (Action Thread)) (system : System Thread)
    {slot : Fin maxTasks} (racers : List Thread) (hnodup : racers.Nodup)
    (hmarking : ∀ thread ∈ racers, system.phase thread = .marking slot)
    (hsteps : ∀ thread ∈ racers, .step thread ∈ schedule) :
    List.Sublist (system.history ++ List.replicate racers.length
        (.allocate slot.val, .allocated (.ok (stackTop slot.val))))
      (run system schedule).history := by
  induction schedule generalizing system racers with
  | nil =>
    cases racers with
    | nil => simp [run]
    | cons thread _ => exact absurd (hsteps thread (List.mem_cons_self _ _)) (List.not_mem_nil _)
  | cons action rest ih =>
    by_cases hracer : ∃ thread ∈ racers, action = .step thread
    · obtain ⟨thread, hmem, rfl⟩ := hracer
      have hrest := ih (step system (.step thread)) (racers.erase thread) (hnodup.erase thread)
        (fun other hother => by
          obtain ⟨hne, hother⟩ := hnodup.mem_erase_iff.1 hother
          rw [step_phase_of_ne system (by simp [hmarking other hother])
            (fun h => hne (Action.step.inj h).symm)]
          exact hmarking other hother)
        (fun other hother => by
          obtain ⟨hne, hother⟩ := hnodup.mem_erase_iff.1 hother
          exact (List.mem_cons.1 (hsteps other hother)).resolve_left
            (fun h => hne (Action.step.inj h)))
      rw [run_cons, ← List.length_erase_add_one hmem, List.replicate_succ, List.append_cons]
      rw [step_marking_eq system (hmarking thread hmem)] at hrest ⊢
      exact hrest
    · push_neg at hracer
      have hrest := ih (step system action) racers hnodup
        (fun thread hmem => (step_phase_of_ne system (by simp [hmarking thread hmem])
          (hracer thread hmem)).trans (hmarking thread hmem))
        (fun thread hmem => (List.mem_cons.1 (hsteps thread hmem)).resolve_left
          (Ne.symm (hracer thread hmem)))
      exact ((history_prefix_step system action).sublist.append (List.Sublist.refl _)).trans hrest

/-- Two `allocate_stack` calls on the same free id whose loads both came before either store.
In every schedule from there in which both threads step, whatever runs before, between or
after the two stores and in whichever order they come, both calls return Ok with the same stack
top. The set model, from the same flags, refuses the second with `ResourceBusy`. -/
theorem overlapping_allocations_share_stack (system : System Thread) {first second : Thread}
    (hne : first ≠ second) {slot : Fin maxTasks} (hfirst : system.phase first = .marking slot)
    (hsecond : system.phase second = .marking slot)
    (hfree : system.allocator.isAllocated slot = false) (schedule : List (Action Thread))
    (hfirstStep : .step first ∈ schedule) (hsecondStep : .step second ∈ schedule) :
    List.Sublist (system.history ++ [(.allocate slot.val, .allocated (.ok (stackTop slot.val))),
        (.allocate slot.val, .allocated (.ok (stackTop slot.val)))])
      (run system schedule).history ∧
    ∀ allocated, Represents system.allocator allocated →
      (Abstract.runOps allocated [.allocate slot.val, .allocate slot.val]).1 =
        [.allocated (.ok (stackTop slot.val)), .allocated (.error .resourceBusy)] := by
  refine ⟨?_, fun allocated hrep => ?_⟩
  · have hnodup : [first, second].Nodup := by simp [hne]
    exact marking_threads_return_stack schedule system [first, second] hnodup
      (by simp [hfirst, hsecond]) (by simp [hfirstStep, hsecondStep])
  · have hmem : slot.val ∉ allocated := fun h => by simp [(hrep.1 slot).2 h] at hfree
    simp [Abstract.runOps, Abstract.apply, Abstract.allocate, hmem, Nat.not_le.2 slot.isLt]

/-- Threads 0 and 1 both enter `allocate_stack(0)` and load its clear flag. -/
def racingLoads : List (Action (Fin 3)) :=
  [.call 0 (.allocate 0), .call 1 (.allocate 0), .step 0, .step 1]

/-- Thread 1 stores first; thread 2 allocates task 1 between the two stores. -/
def racingStores : List (Action (Fin 3)) :=
  [.step 1, .call 2 (.allocate 1), .step 2, .step 0, .step 2]

theorem overlapping_allocations_share_stack_stores_reversed :
    ((0 : Fin 3) ≠ 1 ∧ (run System.init racingLoads).phase 0 = .marking ⟨0, by decide⟩ ∧
        (run System.init racingLoads).phase 1 = .marking ⟨0, by decide⟩ ∧
        (run System.init racingLoads).allocator.isAllocated ⟨0, by decide⟩ = false ∧
        .step 0 ∈ racingStores ∧ .step 1 ∈ racingStores) ∧
      List.Sublist ((run System.init racingLoads).history ++
          [(.allocate 0, .allocated (.ok (stackTop 0))),
            (.allocate 0, .allocated (.ok (stackTop 0)))])
        (run (run System.init racingLoads) racingStores).history ∧
      ∀ allocated, Represents (run System.init racingLoads).allocator allocated →
        (Abstract.runOps allocated [.allocate 0, .allocate 0]).1 =
          [.allocated (.ok (stackTop 0)), .allocated (.error .resourceBusy)] :=
  have hsteps : .step 0 ∈ racingStores ∧ .step 1 ∈ racingStores := by simp [racingStores]
  ⟨⟨by decide, rfl, rfl, rfl, hsteps⟩, @overlapping_allocations_share_stack (Fin 3) _
    (run System.init racingLoads) 0 1 (by decide) ⟨0, by decide⟩ rfl rfl rfl racingStores
    hsteps.1 hsteps.2⟩

end Concurrent

end SahneKarnal.TaskStackAllocator
