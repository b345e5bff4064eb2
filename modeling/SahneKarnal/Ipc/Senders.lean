import SahneKarnal.Ipc.Concurrent

/-!
# Several senders on the IPC queue

`IpcQueue` is declared `Sync`, so any number of tasks may call `send` on one queue. The SAFETY
note inside `send` assumes that only one sender writes an index at a time, and says a lock should
guard it. Here several senders run beside the consumer of `Concurrent.lean`, each at its own
position in `send`. A sender's step is the producer step of the single-producer model, run at
that sender's position.

Read first:
* `serialized_senders_safe`: if no sender enters `send` while another sender is inside it, every
  interleaving with the consumer is as safe as in the single-producer model. No step panics, the
  received messages are a prefix of the sent ones, and the slots from `head` to `tail` hold
  exactly the sent messages not yet received.
* `concurrent_sends_lose_message`: without that condition a message is lost at once. Two senders
  whose steps alternate load the same `tail`, write the same slot and store the same new `tail`.
  Both sends return `Ok`, yet the queue grows by one message, the second sender's.
-/

namespace SahneKarnal.Ipc.Concurrent

/-- The queue with its consumer, and the position of every sender in `send`. The queue's own
`producer` field stays `idle`: the senders' positions are kept apart. -/
structure Senders (Thread : Type) where
  queue : System
  senders : Thread → ProducerPc

/-- A scheduling decision: the next step of one sender (`message` is the argument of its next
`send` if it is between calls), or of the consumer. -/
inductive SendersAction (Thread : Type) where
  | sender (thread : Thread) (message : IpcMessage)
  | consumer

variable {Thread : Type}

/-- `IpcQueue::new()` with every party between calls. -/
def Senders.init : Senders Thread := ⟨System.init, fun _ => .idle⟩

variable [DecidableEq Thread]

/-- Sender `thread`'s next atomic step: the producer's step at `thread`'s position. -/
def Senders.send (state : Senders Thread) (thread : Thread) (fresh : IpcMessage) :
    Option (Senders Thread) :=
  (producerStep { state.queue with producer := state.senders thread } fresh).map fun next =>
    ⟨{ next with producer := .idle }, Function.update state.senders thread next.producer⟩

/-- One scheduled step; `none` is the panic of an out-of-bounds slot index. -/
def Senders.step (state : Senders Thread) : SendersAction Thread → Option (Senders Thread)
  | .sender thread message => state.send thread message
  | .consumer => (consumerStep state.queue).map fun next => { state with queue := next }

/-- Run a schedule; `none` if some step panics. -/
def Senders.run (state : Senders Thread) : List (SendersAction Thread) → Option (Senders Thread)
  | [] => some state
  | action :: rest => state.step action >>= fun next => next.run rest

/-- The step `action` lets a sender enter `send` while another sender is inside it. -/
def Senders.Overlaps (state : Senders Thread) : SendersAction Thread → Prop
  | .sender thread _ => state.senders thread = .idle ∧
      ∃ other, other ≠ thread ∧ state.senders other ≠ .idle
  | .consumer => False

/-- No step of the schedule lets two senders be inside `send` at once. -/
def Senders.Serialized : Senders Thread → List (SendersAction Thread) → Prop
  | _, [] => True
  | state, action :: rest => ¬ state.Overlaps action ∧
      ∀ next, state.step action = some next → next.Serialized rest

/-! ## One step of a sender -/

section SendSteps

variable (state : Senders Thread) {thread : Thread} {message fresh : IpcMessage}

theorem send_idle (hpc : state.senders thread = .idle) :
    state.send thread fresh = some ⟨{ state.queue with producer := .idle },
      Function.update state.senders thread (.fullLoadTail fresh)⟩ := by
  simp [Senders.send, producerStep, hpc]

theorem send_fullLoadTail (hpc : state.senders thread = .fullLoadTail message) :
    state.send thread fresh = some ⟨{ state.queue with producer := .idle },
      Function.update state.senders thread
        (.fullLoadHead message ((state.queue.tail + 1) % queueDepth))⟩ := by
  simp [Senders.send, producerStep, hpc]

theorem send_fullLoadHead {nextTail : Nat}
    (hpc : state.senders thread = .fullLoadHead message nextTail)
    (hroom : nextTail ≠ state.queue.head) :
    state.send thread fresh = some ⟨{ state.queue with producer := .idle },
      Function.update state.senders thread (.loadTail message)⟩ := by
  simp [Senders.send, producerStep, hpc, hroom]

theorem send_loadTail (hpc : state.senders thread = .loadTail message) :
    state.send thread fresh = some ⟨{ state.queue with producer := .idle },
      Function.update state.senders thread (.writeSlot message state.queue.tail)⟩ := by
  simp [Senders.send, producerStep, hpc]

theorem send_writeSlot {tail : Nat} (hpc : state.senders thread = .writeSlot message tail)
    (htail : tail < queueDepth) :
    state.send thread fresh = some ⟨{ state.queue with
        messages := Function.update state.queue.messages ⟨tail, htail⟩ message
        producer := .idle },
      Function.update state.senders thread (.storeTail message tail)⟩ := by
  simp [Senders.send, producerStep, hpc, htail]

theorem send_storeTail {tail : Nat} (hpc : state.senders thread = .storeTail message tail) :
    state.send thread fresh = some ⟨{ state.queue with
        tail := (tail + 1) % queueDepth
        producer := .idle
        sent := state.queue.sent ++ [message] },
      Function.update state.senders thread .idle⟩ := by
  simp [Senders.send, producerStep, hpc]

end SendSteps

theorem Senders.run_sender {state next : Senders Thread} {thread : Thread} {message : IpcMessage}
    (rest : List (SendersAction Thread)) (hsend : state.send thread message = some next) :
    state.run (.sender thread message :: rest) = next.run rest := by
  simp [Senders.run, Senders.step, hsend]

/-- A sender running alone from between calls, with room in the queue, completes its `send` in
six steps: the message is written at `tail`, `tail` advances, the message counts as sent and
the sender is between calls again. -/
theorem Senders.run_send_alone (state : Senders Thread) {thread : Thread}
    (hidle : state.senders thread = .idle) (htail : state.queue.tail < queueDepth)
    (hroom : (state.queue.tail + 1) % queueDepth ≠ state.queue.head) (message : IpcMessage) :
    state.run (List.replicate 6 (.sender thread message)) = some ⟨{ state.queue with
        messages := Function.update state.queue.messages ⟨state.queue.tail, htail⟩ message
        tail := (state.queue.tail + 1) % queueDepth
        producer := .idle
        sent := state.queue.sent ++ [message] }, state.senders⟩ := by
  simp only [List.replicate]
  rw [Senders.run_sender _ (send_idle _ hidle),
    Senders.run_sender _ (@send_fullLoadTail _ _ _ _ message _ _),
    Senders.run_sender _
      (@send_fullLoadHead _ _ _ _ message _ ((state.queue.tail + 1) % queueDepth) _ _),
    Senders.run_sender _ (@send_loadTail _ _ _ _ message _ _),
    Senders.run_sender _ (@send_writeSlot _ _ _ _ message _ state.queue.tail _ htail),
    Senders.run_sender _ (@send_storeTail _ _ _ _ message _ state.queue.tail _)]
  · have hsame : Function.update state.senders thread .idle = state.senders := by
      rw [← hidle, Function.update_eq_self]
    simp only [Function.update_idem, hsame]
    rfl
  all_goals simp only [Function.update_same, hroom, ne_eq, not_false_eq_true]


/-! ## Serialized senders are one producer -/

/-- The consumer's step does not read the producer's position. -/
theorem consumerStep_setProducer (system : System) (pc : ProducerPc) :
    consumerStep { system with producer := pc } =
      (consumerStep system).map fun next => { next with producer := pc } := by
  cases hconsumer : system.consumer with
  | copySlot head =>
    by_cases h : head < queueDepth <;> simp [consumerStep, hconsumer, h]
  | emptyLoadTail head =>
    by_cases h : head = system.tail <;> simp [consumerStep, hconsumer, h]
  | idle | emptyLoadHead | loadHead | storeHead => simp [consumerStep, hconsumer]

/-- The invariant of serialized runs: the queue satisfies the single-producer invariant with no
producer inside `send`, and a sender inside `send` is the only one, and the queue with it as
the producer satisfies the single-producer invariant. -/
structure Senders.Invariant (state : Senders Thread) : Prop where
  idle : Inv { state.queue with producer := .idle }
  active : ∀ thread, state.senders thread ≠ .idle →
    (∀ other, other ≠ thread → state.senders other = .idle) ∧
      Inv { state.queue with producer := state.senders thread }

omit [DecidableEq Thread] in
theorem Senders.invariant_init : (Senders.init : Senders Thread).Invariant :=
  ⟨inv_init, fun _ hactive => absurd rfl hactive⟩

omit [DecidableEq Thread] in
/-- A sender that may step without overlapping is the only one inside `send`, and the queue with
it as the producer satisfies the single-producer invariant. -/
theorem Senders.Invariant.sender {state : Senders Thread} (hinv : state.Invariant)
    {thread : Thread} {message : IpcMessage} (hnot : ¬ state.Overlaps (.sender thread message)) :
    (∀ other, other ≠ thread → state.senders other = .idle) ∧
      Inv { state.queue with producer := state.senders thread } := by
  by_cases hidle : state.senders thread = .idle
  · refine ⟨fun other hne => ?_, by rw [hidle]; exact hinv.idle⟩
    by_contra hbusy
    exact hnot ⟨hidle, other, hne, hbusy⟩
  · exact hinv.active thread hidle

/-- Every step that does not overlap keeps the invariant, and none panics. -/
theorem Senders.step_invariant {state : Senders Thread} (hinv : state.Invariant)
    {action : SendersAction Thread} (hnot : ¬ state.Overlaps action) :
    ∃ next, state.step action = some next ∧ next.Invariant := by
  cases action with
  | sender thread message =>
    obtain ⟨hothers, hview⟩ := hinv.sender hnot
    obtain ⟨next, hstep, hnext⟩ := producerStep_inv hview message
    refine ⟨⟨{ next with producer := .idle },
        Function.update state.senders thread next.producer⟩,
      by simp only [Senders.step, Senders.send, hstep, Option.map_some'],
      hnext.setProducer (show ProducerOk next .idle from trivial), fun other hactive => ?_⟩
    by_cases hother : other = thread
    · subst hother
      refine ⟨fun third hne => ?_, by simpa using hnext⟩
      simpa [Function.update_noteq hne] using hothers third hne
    · simp [Function.update_noteq hother, hothers other hother] at hactive
  | consumer =>
    obtain ⟨next, hstep, hnext⟩ := consumerStep_inv hinv.idle
    rw [consumerStep_setProducer] at hstep
    obtain ⟨queue, hqueue, rfl⟩ := Option.map_eq_some'.1 hstep
    refine ⟨{ state with queue := queue }, by simp only [Senders.step, hqueue, Option.map_some'],
      hnext,
      fun thread hactive => ⟨(hinv.active thread hactive).1, ?_⟩⟩
    obtain ⟨view, hview, hinvView⟩ := consumerStep_inv (hinv.active thread hactive).2
    rw [consumerStep_setProducer, hqueue, Option.map_some'] at hview
    cases hview
    exact hinvView

/-- Every serialized run keeps the invariant, and none panics. -/
theorem Senders.run_invariant {state : Senders Thread} (hinv : state.Invariant)
    (schedule : List (SendersAction Thread)) (hserial : state.Serialized schedule) :
    ∃ final, state.run schedule = some final ∧ final.Invariant := by
  induction schedule generalizing state with
  | nil => exact ⟨state, rfl, hinv⟩
  | cons action rest ih =>
    obtain ⟨next, hstep, hnext⟩ := Senders.step_invariant hinv hserial.1
    obtain ⟨final, hrun, hfinal⟩ := ih hnext (hserial.2 next hstep)
    exact ⟨final, by simp [Senders.run, hstep, hrun], hfinal⟩

/-- A schedule in which one thread does all the sending is serialized. -/
theorem Senders.serialized_of_one_sender {state : Senders Thread} {thread : Thread}
    (hidle : ∀ other, other ≠ thread → state.senders other = .idle)
    (schedule : List (SendersAction Thread))
    (honly : ∀ other message, .sender other message ∈ schedule → other = thread) :
    state.Serialized schedule := by
  induction schedule generalizing state with
  | nil => trivial
  | cons action rest ih =>
    have hrest : ∀ other message, .sender other message ∈ rest → other = thread :=
      fun other message hmem => honly other message (List.mem_cons_of_mem _ hmem)
    cases action with
    | sender sender message =>
      have hsender := honly sender message (List.mem_cons_self _ _)
      subst hsender
      refine ⟨fun ⟨_, other, hne, hbusy⟩ => hbusy (hidle other hne),
        fun next hnext => ih ?_ hrest⟩
      obtain ⟨queue, -, rfl⟩ := Option.map_eq_some'.1 hnext
      exact fun other hne => by simpa [Function.update_noteq hne] using hidle other hne
    | consumer =>
      refine ⟨id, fun next hnext => ih ?_ hrest⟩
      obtain ⟨queue, -, rfl⟩ := Option.map_eq_some'.1 hnext
      exact hidle

/-- A schedule is serialized when its first part is, and the rest is from wherever the first
part ends. -/
theorem Senders.Serialized.append {state : Senders Thread}
    {first second : List (SendersAction Thread)} (hfirst : state.Serialized first)
    (hsecond : ∀ mid, state.run first = some mid → mid.Serialized second) :
    state.Serialized (first ++ second) := by
  induction first generalizing state with
  | nil => exact hsecond state rfl
  | cons action rest ih =>
    exact ⟨hfirst.1, fun next hnext => ih (hfirst.2 next hnext) fun mid hmid =>
      hsecond mid (by simp [Senders.run, hnext, hmid])⟩

/-- Along every schedule in which no sender enters `send` while another sender is inside it, no
step panics, the received messages are a prefix of the sent ones, and the slots from `head` to
`tail` hold exactly the sent messages not yet received, in order. -/
theorem serialized_senders_safe (schedule : List (SendersAction Thread))
    (hserial : (Senders.init : Senders Thread).Serialized schedule) :
    ∃ final, Senders.init.run schedule = some final ∧
      final.queue.received <+: final.queue.sent ∧
      final.queue.sent.length = final.queue.received.length + final.queue.count ∧
      ∀ i < final.queue.count, final.queue.sent[final.queue.received.length + i]? =
        some (final.queue.messages (slotAt final.queue.head i)) := by
  obtain ⟨final, hrun, hinv⟩ := Senders.run_invariant Senders.invariant_init schedule hserial
  exact ⟨final, hrun, hinv.idle.received_prefix, hinv.idle.length_eq, hinv.idle.slot_eq⟩

/-- Two tasks send in turn. Task `false` runs a whole `send`; then task `true` runs its `send`
with the consumer's steps interleaved, and the consumer goes on receiving. -/
def sendersTakingTurns : List (SendersAction Bool) :=
  List.replicate 6 (.sender false .default) ++
    ((List.replicate 6
        [.sender true { IpcMessage.default with senderId := 1 }, .consumer]).flatten ++
      List.replicate 12 .consumer)

theorem serialized_senders_safe_taking_turns :
    (Senders.init : Senders Bool).Serialized sendersTakingTurns ∧
      ∃ final, Senders.init.run sendersTakingTurns = some final ∧
        final.queue.received <+: final.queue.sent ∧
        final.queue.sent.length = final.queue.received.length + final.queue.count ∧
        ∀ i < final.queue.count, final.queue.sent[final.queue.received.length + i]? =
          some (final.queue.messages (slotAt final.queue.head i)) :=
  have hserial : (Senders.init : Senders Bool).Serialized sendersTakingTurns :=
    Senders.Serialized.append
      (@Senders.serialized_of_one_sender _ _ Senders.init false (fun _ _ => rfl) _
        fun _ _ hmem => by
          simp only [List.mem_replicate] at hmem
          cases hmem.2
          rfl)
      fun mid hmid => by
        rw [Senders.run_send_alone _ rfl (by decide) (by decide)] at hmid
        cases hmid
        refine @Senders.serialized_of_one_sender _ _ _ true (fun _ _ => rfl) _
          fun other _ hmem => ?_
        simp [List.mem_flatten, List.mem_replicate] at hmem
        exact hmem.1
  ⟨hserial, serialized_senders_safe _ hserial⟩

/-! ## Overlapping sends -/

/-- Two senders whose steps alternate, from any state in which both are between calls and the
queue has room, both get `Ok`. Both load the same `tail`, the second overwrites the slot the first
wrote, and both store the same new `tail`. Both messages count as sent, but the queue gains only
one slot, holding the second message. -/
theorem concurrent_sends_lose_message (state : Senders Thread) {first second : Thread}
    (hne : first ≠ second) (hfirst : state.senders first = .idle)
    (hsecond : state.senders second = .idle) (htail : state.queue.tail < queueDepth)
    (hroom : (state.queue.tail + 1) % queueDepth ≠ state.queue.head)
    (firstMessage secondMessage : IpcMessage) :
    ∃ final, state.run (List.replicate 6
        [.sender first firstMessage, .sender second secondMessage]).flatten = some final ∧
      final.queue.sent = state.queue.sent ++ [firstMessage, secondMessage] ∧
      final.queue.head = state.queue.head ∧
      final.queue.tail = (state.queue.tail + 1) % queueDepth ∧
      final.queue.messages =
        Function.update state.queue.messages ⟨state.queue.tail, htail⟩ secondMessage := by
  simp only [List.replicate, List.flatten, List.cons_append, List.nil_append]
  rw [Senders.run_sender _ (send_idle _ hfirst), Senders.run_sender _ (send_idle _ _),
    Senders.run_sender _ (@send_fullLoadTail _ _ _ _ firstMessage _ _),
    Senders.run_sender _ (@send_fullLoadTail _ _ _ _ secondMessage _ _),
    Senders.run_sender _
      (@send_fullLoadHead _ _ _ _ firstMessage _ ((state.queue.tail + 1) % queueDepth) _ _),
    Senders.run_sender _
      (@send_fullLoadHead _ _ _ _ secondMessage _ ((state.queue.tail + 1) % queueDepth) _ _),
    Senders.run_sender _ (@send_loadTail _ _ _ _ firstMessage _ _),
    Senders.run_sender _ (@send_loadTail _ _ _ _ secondMessage _ _),
    Senders.run_sender _ (@send_writeSlot _ _ _ _ firstMessage _ state.queue.tail _ htail),
    Senders.run_sender _ (@send_writeSlot _ _ _ _ secondMessage _ state.queue.tail _ htail),
    Senders.run_sender _ (@send_storeTail _ _ _ _ firstMessage _ state.queue.tail _),
    Senders.run_sender _ (@send_storeTail _ _ _ _ secondMessage _ state.queue.tail _)]
  · exact ⟨_, rfl, List.append_assoc _ _ _, rfl, rfl, Function.update_idem _ _ _⟩
  all_goals simp only [Function.update_same, Function.update_noteq hne,
    Function.update_noteq (Ne.symm hne), hsecond, hroom, ne_eq, not_false_eq_true]

theorem concurrent_sends_lose_message_from_new_queue :
    (false ≠ true ∧ (Senders.init : Senders Bool).senders false = .idle ∧
        (Senders.init : Senders Bool).senders true = .idle ∧
        (Senders.init : Senders Bool).queue.tail < queueDepth ∧
        ((Senders.init : Senders Bool).queue.tail + 1) % queueDepth ≠
          (Senders.init : Senders Bool).queue.head) ∧
      ∃ final, (Senders.init : Senders Bool).run (List.replicate 6
          [.sender false .default,
            .sender true { IpcMessage.default with senderId := 1 }]).flatten = some final ∧
        final.queue.sent = [.default, { IpcMessage.default with senderId := 1 }] ∧
        final.queue.head = 0 ∧ final.queue.tail = 1 ∧
        final.queue.messages =
          Function.update System.init.messages ⟨0, by decide⟩
            { IpcMessage.default with senderId := 1 } :=
  ⟨⟨by decide, rfl, rfl, by decide, by decide⟩,
    concurrent_sends_lose_message Senders.init (by decide) rfl rfl (by decide) (by decide) _ _⟩

end SahneKarnal.Ipc.Concurrent
