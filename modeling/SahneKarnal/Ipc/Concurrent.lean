import Mathlib.Data.List.Infix
import SahneKarnal.Ipc

/-!
# One producer and one consumer on the IPC queue

`IpcQueue::send` and `IpcQueue::receive` are lock-free: the producer alone stores `tail`, the
consumer alone stores `head`, and each reads the other's index with `Acquire`. This file
interleaves one producer that only calls `send` with one consumer that only calls
`receive`. Every atomic load, every atomic store and every slot copy is one step, and the
scheduler may run the two parties' steps in any order.

Each party is a program counter over the statements of its function. Two ghost lists record
the messages for which `send` returned `Ok` and the messages `receive` returned. The
invariant `Inv` says that the received messages are a prefix of the sent ones and that the
slots from `head` to `tail` hold the rest, and it records what each party's earlier loads
still guarantee. `spsc_safe` draws the three consequences: the consumer copies only a slot
whose send has completed, the consumer obtains the sent messages in order without loss or
duplication, and the producer never writes a slot whose message is still unreceived.
-/

namespace SahneKarnal.Ipc.Concurrent

/-- The producer's position inside `send(message)`. -/
inductive ProducerPc where
  /-- Between calls. -/
  | idle
  /-- In `is_full`, about to load `tail`. -/
  | fullLoadTail (message : IpcMessage)
  /-- In `is_full`, holding `next_tail`, about to load `head`. -/
  | fullLoadHead (message : IpcMessage) (nextTail : Nat)
  /-- About to run `let tail = self.tail.load(Acquire)`. -/
  | loadTail (message : IpcMessage)
  /-- About to copy the message into slot `tail`. -/
  | writeSlot (message : IpcMessage) (tail : Nat)
  /-- About to store `(tail + 1) % QUEUE_DEPTH` into `tail` and return `Ok(())`. -/
  | storeTail (message : IpcMessage) (tail : Nat)

/-- The consumer's position inside `receive()`. -/
inductive ConsumerPc where
  /-- Between calls. -/
  | idle
  /-- In `is_empty`, about to load `head`. -/
  | emptyLoadHead
  /-- In `is_empty`, holding the loaded `head`, about to load `tail`. -/
  | emptyLoadTail (head : Nat)
  /-- About to run `let head = self.head.load(Acquire)`. -/
  | loadHead
  /-- About to copy slot `head`. -/
  | copySlot (head : Nat)
  /-- Holding the copy, about to store `(head + 1) % QUEUE_DEPTH` into `head`. -/
  | storeHead (head : Nat) (message : IpcMessage)

/-- The shared queue, both program counters, and the two ghost histories. -/
structure System where
  messages : Fin queueDepth → IpcMessage
  head : Nat
  tail : Nat
  producer : ProducerPc
  consumer : ConsumerPc
  /-- The messages for which `send` has returned `Ok`, in order. -/
  sent : List IpcMessage
  /-- The messages `receive` has returned, in order. -/
  received : List IpcMessage

/-- `IpcQueue::new()` with both parties between calls. -/
def System.init : System := ⟨fun _ => .default, 0, 0, .idle, .idle, [], []⟩

/-- A scheduling decision: run the producer's next step (`message` is the argument of its
next `send` if it is between calls), or the consumer's next step. -/
inductive Action where
  | producer (message : IpcMessage)
  | consumer

/-- The producer's next atomic step; `none` is the panic of an out-of-bounds slot index. -/
def producerStep (system : System) (fresh : IpcMessage) : Option System :=
  match system.producer with
  | .idle => some { system with producer := .fullLoadTail fresh }
  | .fullLoadTail message =>
      some { system with producer := .fullLoadHead message ((system.tail + 1) % queueDepth) }
  | .fullLoadHead message nextTail =>
      if nextTail = system.head then some { system with producer := .idle }
      else some { system with producer := .loadTail message }
  | .loadTail message => some { system with producer := .writeSlot message system.tail }
  | .writeSlot message tail =>
      if h : tail < queueDepth then
        some { system with
          messages := Function.update system.messages ⟨tail, h⟩ message
          producer := .storeTail message tail }
      else none
  | .storeTail message tail =>
      some { system with
        tail := (tail + 1) % queueDepth
        producer := .idle
        sent := system.sent ++ [message] }

/-- The consumer's next atomic step; `none` is the panic of an out-of-bounds slot index. -/
def consumerStep (system : System) : Option System :=
  match system.consumer with
  | .idle => some { system with consumer := .emptyLoadHead }
  | .emptyLoadHead => some { system with consumer := .emptyLoadTail system.head }
  | .emptyLoadTail head =>
      if head = system.tail then some { system with consumer := .idle }
      else some { system with consumer := .loadHead }
  | .loadHead => some { system with consumer := .copySlot system.head }
  | .copySlot head =>
      if h : head < queueDepth then
        some { system with consumer := .storeHead head (system.messages ⟨head, h⟩) }
      else none
  | .storeHead head message =>
      some { system with
        head := (head + 1) % queueDepth
        consumer := .idle
        received := system.received ++ [message] }

/-- One scheduled step. -/
def step (system : System) : Action → Option System
  | .producer message => producerStep system message
  | .consumer => consumerStep system

/-- Run a schedule; `none` if some step panics. -/
def run (system : System) : List Action → Option System
  | [] => some system
  | action :: rest => step system action >>= fun next => run next rest

/-! ## The invariant -/

/-- The number of messages between `head` and `tail`. -/
def System.count (system : System) : Nat :=
  (system.tail + queueDepth - system.head) % queueDepth

/-- What the producer's earlier loads still guarantee at its current position. -/
def ProducerOk (system : System) : ProducerPc → Prop
  | .idle | .fullLoadTail _ => True
  | .fullLoadHead _ nextTail => nextTail = (system.tail + 1) % queueDepth
  | .loadTail _ => system.count < queueDepth - 1
  | .writeSlot _ tail => tail = system.tail ∧ system.count < queueDepth - 1
  | .storeTail message tail =>
      tail = system.tail ∧ system.count < queueDepth - 1 ∧
        system.messages (slotAt system.tail 0) = message

/-- What the consumer's earlier loads still guarantee at its current position. -/
def ConsumerOk (system : System) : ConsumerPc → Prop
  | .idle | .emptyLoadHead => True
  | .emptyLoadTail head => head = system.head
  | .loadHead => 0 < system.count
  | .copySlot head => head = system.head ∧ 0 < system.count
  | .storeHead head message =>
      head = system.head ∧ 0 < system.count ∧ system.messages (slotAt system.head 0) = message

/-- The invariant of every interleaving: the received messages are a prefix of the sent
ones, the slots from `head` hold the rest, and each party's position is justified. -/
structure Inv (system : System) : Prop where
  head_lt : system.head < queueDepth
  tail_lt : system.tail < queueDepth
  received_prefix : system.received <+: system.sent
  length_eq : system.sent.length = system.received.length + system.count
  slot_eq : ∀ i < system.count,
    system.sent[system.received.length + i]? = some (system.messages (slotAt system.head i))
  producer_ok : ProducerOk system system.producer
  consumer_ok : ConsumerOk system system.consumer

theorem inv_init : Inv System.init :=
  ⟨by decide, by decide, List.prefix_refl _, rfl, by simp [System.count, System.init],
    trivial, trivial⟩

/-! ## Frame lemmas -/

variable {system : System}

/-- The slot past the pending messages is the slot at `tail`. -/
theorem slotAt_count (hhead : system.head < queueDepth) (htail : system.tail < queueDepth) :
    slotAt system.head system.count = slotAt system.tail 0 := by
  simp only [slotAt, System.count, Fin.mk.injEq, queueDepth] at *
  omega

/-- The consumer's guarantees survive a producer step that keeps `head`, does not shrink the
queue, and leaves the pending slots alone. -/
theorem consumerOk_mono {first second : System} (hhead : first.head = second.head)
    (hcount : first.count ≤ second.count)
    (hslots : ∀ i < first.count,
      first.messages (slotAt first.head i) = second.messages (slotAt first.head i))
    {pc : ConsumerPc} (hok : ConsumerOk first pc) : ConsumerOk second pc := by
  cases pc with
  | idle | emptyLoadHead => trivial
  | emptyLoadTail head => exact hok.trans hhead
  | loadHead => exact Nat.lt_of_lt_of_le hok hcount
  | copySlot head => exact ⟨hok.1.trans hhead, Nat.lt_of_lt_of_le hok.2 hcount⟩
  | storeHead head message =>
      obtain ⟨hh, hpos, hm⟩ := hok
      exact ⟨hh.trans hhead, Nat.lt_of_lt_of_le hpos hcount,
        by rw [← hhead, ← hslots 0 hpos, hm]⟩

/-- The producer's guarantees survive a consumer step that keeps `tail` and the slots and does
not grow the queue. -/
theorem producerOk_mono {first second : System} (htail : first.tail = second.tail)
    (hcount : second.count ≤ first.count) (hmessages : first.messages = second.messages)
    {pc : ProducerPc} (hok : ProducerOk first pc) : ProducerOk second pc := by
  cases pc with
  | idle | fullLoadTail message => trivial
  | fullLoadHead message nextTail => exact hok.trans (by rw [htail])
  | loadTail message => exact Nat.lt_of_le_of_lt hcount hok
  | writeSlot message tail => exact ⟨hok.1.trans htail, Nat.lt_of_le_of_lt hcount hok.2⟩
  | storeTail message tail =>
      obtain ⟨ht, hroom, hm⟩ := hok
      exact ⟨ht.trans htail, Nat.lt_of_le_of_lt hcount hroom, by rw [← htail, ← hmessages, hm]⟩

/-- A step that moves only the producer's program counter keeps the invariant when the new
position is justified. -/
theorem Inv.setProducer (hinv : Inv system) {pc : ProducerPc} (hpc : ProducerOk system pc) :
    Inv { system with producer := pc } :=
  ⟨hinv.head_lt, hinv.tail_lt, hinv.received_prefix, hinv.length_eq, hinv.slot_eq,
    producerOk_mono rfl le_rfl rfl hpc,
    consumerOk_mono rfl le_rfl (fun _ _ => rfl) hinv.consumer_ok⟩

/-- A step that moves only the consumer's program counter keeps the invariant when the new
position is justified. -/
theorem Inv.setConsumer (hinv : Inv system) {pc : ConsumerPc} (hpc : ConsumerOk system pc) :
    Inv { system with consumer := pc } :=
  ⟨hinv.head_lt, hinv.tail_lt, hinv.received_prefix, hinv.length_eq, hinv.slot_eq,
    producerOk_mono rfl le_rfl rfl hinv.producer_ok,
    consumerOk_mono rfl le_rfl (fun _ _ => rfl) hpc⟩

/-! ## The three steps that write shared state -/

/-- The producer's slot copy writes slot `tail`, which holds no pending message. -/
theorem Inv.writeSlot (hinv : Inv system) {message : IpcMessage} {tail : Nat}
    (hpc : system.producer = .writeSlot message tail) (h : tail < queueDepth) :
    Inv { system with
      messages := Function.update system.messages ⟨tail, h⟩ message
      producer := .storeTail message tail } := by
  have hok := hinv.producer_ok
  rw [hpc] at hok
  obtain ⟨rfl, hroom⟩ := hok
  have hslot : (⟨system.tail, h⟩ : Fin queueDepth) = slotAt system.head system.count := by
    rw [slotAt_count hinv.head_lt h]
    simp [slotAt, Nat.mod_eq_of_lt h]
  have hpending : ∀ i < system.count, Function.update system.messages ⟨system.tail, h⟩ message
      (slotAt system.head i) = system.messages (slotAt system.head i) := fun i hi => by
    rw [hslot, Function.update_noteq (slotAt_ne (by simp only [queueDepth] at *; omega)
      (by simp only [queueDepth] at *; omega) (Nat.ne_of_lt hi))]
  refine ⟨hinv.head_lt, hinv.tail_lt, hinv.received_prefix, hinv.length_eq,
    fun i hi => (hinv.slot_eq i hi).trans (congrArg some (hpending i hi).symm),
    ⟨rfl, hroom, ?_⟩, ?_⟩
  swap
  · refine @consumerOk_mono system _ ?_ ?_ ?_ _ hinv.consumer_ok
    · rfl
    · exact le_rfl
    · exact fun i hi => (hpending i hi).symm
  show Function.update system.messages ⟨system.tail, h⟩ message (slotAt system.tail 0) = message
  rw [show slotAt system.tail 0 = ⟨system.tail, h⟩ by simp [slotAt, Nat.mod_eq_of_lt h]]
  exact Function.update_same _ _ _

/-- The producer's store of `tail` publishes the message it wrote, which becomes the last
pending message and the last sent one. -/
theorem Inv.storeTail (hinv : Inv system) {message : IpcMessage} {tail : Nat}
    (hpc : system.producer = .storeTail message tail) :
    Inv { system with
      tail := (tail + 1) % queueDepth
      producer := .idle
      sent := system.sent ++ [message] } := by
  have hok := hinv.producer_ok
  rw [hpc] at hok
  obtain ⟨rfl, hroom, hm⟩ := hok
  have hcount : System.count { system with
      tail := (system.tail + 1) % queueDepth
      producer := .idle
      sent := system.sent ++ [message] } = system.count + 1 := by
    have := hinv.head_lt; have := hinv.tail_lt
    simp only [System.count, queueDepth] at *
    omega
  have hlen := hinv.length_eq
  refine ⟨hinv.head_lt, Nat.mod_lt _ (by decide),
    hinv.received_prefix.trans (List.prefix_append _ _), ?_, fun i hi => ?_, trivial, ?_⟩
  rotate_left 2
  · refine @consumerOk_mono system _ ?_ ?_ ?_ _ hinv.consumer_ok
    · rfl
    · rw [hcount]; omega
    · exact fun _ _ => rfl
  · simp only [List.length_append, List.length_singleton] at *
    rw [hcount]
    omega
  · rw [hcount] at hi
    dsimp only
    rcases Nat.lt_or_ge i system.count with hold | hnew
    · rw [List.getElem?_append_left (by omega)]
      exact hinv.slot_eq i hold
    · have hi' : i = system.count := by omega
      subst hi'
      rw [show system.received.length + system.count = system.sent.length by omega,
        List.getElem?_concat_length, slotAt_count hinv.head_lt hinv.tail_lt, hm]

/-- Appending the next element of a list to a prefix of it gives a prefix. -/
theorem prefix_append_getElem? {front whole : List IpcMessage} {message : IpcMessage}
    (hstart : front <+: whole) (hnext : whole[front.length]? = some message) :
    front ++ [message] <+: whole := by
  obtain ⟨rest, rfl⟩ := hstart
  cases rest with
  | nil => simp at hnext
  | cons first others =>
      simp only [List.getElem?_append_right (Nat.le_refl _), Nat.sub_self,
        List.getElem?_cons_zero, Option.some.injEq] at hnext
      exact ⟨others, by simp [hnext]⟩

/-- The consumer's store of `head` retires the front message, which is the next sent one. -/
theorem Inv.storeHead (hinv : Inv system) {head : Nat} {message : IpcMessage}
    (hpc : system.consumer = .storeHead head message) :
    Inv { system with
      head := (head + 1) % queueDepth
      consumer := .idle
      received := system.received ++ [message] } := by
  have hok := hinv.consumer_ok
  rw [hpc] at hok
  obtain ⟨rfl, hpos, hm⟩ := hok
  have hcount : System.count { system with
      head := (system.head + 1) % queueDepth
      consumer := .idle
      received := system.received ++ [message] } = system.count - 1 := by
    have := hinv.head_lt; have := hinv.tail_lt
    simp only [System.count, queueDepth] at *
    omega
  have hfront := hinv.slot_eq 0 hpos
  rw [Nat.add_zero, hm] at hfront
  have hlen := hinv.length_eq
  refine ⟨Nat.mod_lt _ (by decide), hinv.tail_lt,
    prefix_append_getElem? hinv.received_prefix hfront, ?_, fun i hi => ?_,
    ?_, trivial⟩
  rotate_left 2
  · refine @producerOk_mono system _ ?_ ?_ ?_ _ hinv.producer_ok
    · rfl
    · rw [hcount]; omega
    · rfl
  · simp only [List.length_append, List.length_singleton]
    rw [hcount]
    omega
  · rw [hcount] at hi
    have := hinv.slot_eq (i + 1) (by omega)
    simpa [slotAt_succ, Nat.add_assoc, Nat.add_comm 1 i] using this

/-! ## Every step keeps the invariant and none panics -/

theorem producerStep_inv (hinv : Inv system) (fresh : IpcMessage) :
    ∃ next, producerStep system fresh = some next ∧ Inv next := by
  have hok := hinv.producer_ok
  unfold producerStep
  split
  · exact ⟨_, rfl, hinv.setProducer trivial⟩
  · exact ⟨_, rfl, hinv.setProducer rfl⟩
  · rename_i message nextTail hpc
    rw [hpc] at hok
    split
    · exact ⟨_, rfl, hinv.setProducer trivial⟩
    · rename_i hne
      refine ⟨_, rfl, hinv.setProducer ?_⟩
      have := hinv.head_lt; have := hinv.tail_lt
      simp only [ProducerOk, System.count, queueDepth] at *
      omega
  · rename_i message hpc
    rw [hpc] at hok
    exact ⟨_, rfl, hinv.setProducer ⟨rfl, hok⟩⟩
  · rename_i message tail hpc
    rw [hpc] at hok
    have h : tail < queueDepth := hok.1 ▸ hinv.tail_lt
    exact ⟨_, dif_pos h, hinv.writeSlot hpc h⟩
  · rename_i message tail hpc
    exact ⟨_, rfl, hinv.storeTail hpc⟩

theorem consumerStep_inv (hinv : Inv system) :
    ∃ next, consumerStep system = some next ∧ Inv next := by
  have hok := hinv.consumer_ok
  unfold consumerStep
  split
  · exact ⟨_, rfl, hinv.setConsumer trivial⟩
  · exact ⟨_, rfl, hinv.setConsumer rfl⟩
  · rename_i head hpc
    rw [hpc] at hok
    split
    · exact ⟨_, rfl, hinv.setConsumer trivial⟩
    · rename_i hne
      refine ⟨_, rfl, hinv.setConsumer ?_⟩
      have := hinv.head_lt; have := hinv.tail_lt
      simp only [ConsumerOk, System.count, queueDepth] at *
      omega
  · rename_i hpc
    rw [hpc] at hok
    exact ⟨_, rfl, hinv.setConsumer ⟨rfl, hok⟩⟩
  · rename_i head hpc
    rw [hpc] at hok
    obtain ⟨rfl, hpos⟩ := hok
    refine ⟨_, dif_pos hinv.head_lt, hinv.setConsumer ⟨rfl, hpos, ?_⟩⟩
    show system.messages (slotAt system.head 0) = system.messages ⟨system.head, hinv.head_lt⟩
    simp [slotAt, Nat.mod_eq_of_lt hinv.head_lt]
  · rename_i head message hpc
    exact ⟨_, rfl, hinv.storeHead hpc⟩

theorem step_inv (hinv : Inv system) (action : Action) :
    ∃ next, step system action = some next ∧ Inv next := by
  cases action with
  | producer message => exact producerStep_inv hinv message
  | consumer => exact consumerStep_inv hinv

theorem run_inv (hinv : Inv system) (schedule : List Action) :
    ∃ final, run system schedule = some final ∧ Inv final := by
  induction schedule generalizing system with
  | nil => exact ⟨system, rfl, hinv⟩
  | cons action rest ih =>
      obtain ⟨next, hstep, hnext⟩ := step_inv hinv action
      obtain ⟨final, hrun, hfinal⟩ := ih hnext
      exact ⟨final, by simp [run, hstep, hrun], hfinal⟩

/-- Safety of the single-producer single-consumer queue under every interleaving of the
producer's and the consumer's atomic steps: no step panics; when the consumer is about to
copy slot `head`, that slot holds the message of the matching completed `send`; the
messages the consumer obtained are the messages for which `send` returned `Ok`, in order,
without loss or duplication (all of them once the queue is drained); and when the producer
is about to write slot `tail`, no unreceived message is in that slot. -/
theorem spsc_safe (schedule : List Action) :
    ∃ final, run System.init schedule = some final ∧
      (∀ head, final.consumer = .copySlot head →
        ∃ h : head < queueDepth,
          final.sent[final.received.length]? = some (final.messages ⟨head, h⟩)) ∧
      final.received <+: final.sent ∧
      (final.count = 0 → final.received = final.sent) ∧
      (∀ message tail, final.producer = .writeSlot message tail →
        ∀ i < final.sent.length - final.received.length, (slotAt final.head i).val ≠ tail) := by
  obtain ⟨final, hrun, hinv⟩ := run_inv inv_init schedule
  have hlen := hinv.length_eq
  refine ⟨final, hrun, fun head hpc => ?_, hinv.received_prefix, fun hzero => ?_,
    fun message tail hpc i hi => ?_⟩
  · have hok := hinv.consumer_ok
    rw [hpc] at hok
    obtain ⟨rfl, hpos⟩ := hok
    refine ⟨hinv.head_lt, ?_⟩
    simpa [slotAt, Nat.mod_eq_of_lt hinv.head_lt] using hinv.slot_eq 0 hpos
  · exact hinv.received_prefix.eq_of_length (by omega)
  · have hok := hinv.producer_ok
    rw [hpc] at hok
    obtain ⟨rfl, hroom⟩ := hok
    have := hinv.head_lt; have := hinv.tail_lt
    simp only [slotAt, System.count, queueDepth] at *
    omega

end SahneKarnal.Ipc.Concurrent
