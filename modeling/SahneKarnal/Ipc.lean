import Mathlib.Logic.Function.Basic
import Mathlib.Data.Vector.Defs

/-!
# The IPC queue

`ipc.rs` implements inter-task messages as a ring of `QUEUE_DEPTH = 8` fixed-size
`IpcMessage` slots with atomic `head` and `tail` indices. `send` refuses a message when
`(tail + 1) % 8 == head`, and `receive` reports an empty queue when `head == tail`, so at most
seven messages are ever pending.

This file models one call at a time (the interleaving of a producer and a consumer is in
`SahneKarnal.Ipc.Concurrent`). A Rust index out of bounds panics, which the model writes as
`none`. The abstract model is a FIFO list of capacity `QUEUE_DEPTH - 1`. `Represents` ties a
queue to that list, and `ipcQueue_refines_fifo` shows that along every sequence of calls on
`IpcQueue::new()` the queue never panics, answers as the list does, and hands out exactly
the accepted messages in order.
-/

namespace SahneKarnal.Ipc

/-- `MESSAGE_DATA_SIZE`: the fixed payload size of a message. -/
def messageDataSize : Nat := 64

/-- `QUEUE_DEPTH`: the number of slots of the ring. -/
def queueDepth : Nat := 8

/-- `IpcMessage`, a plain-old-data record copied bit for bit. -/
structure IpcMessage where
  senderId : UInt8
  messageType : UInt8
  payload : Mathlib.Vector UInt8 messageDataSize
  payloadSize : UInt8
  deriving DecidableEq

/-- `IpcMessage::default()`: the zeroed, empty message. -/
def IpcMessage.default : IpcMessage := ⟨0, 0, Mathlib.Vector.replicate messageDataSize 0, 0⟩

/-- `IpcQueue`: the slots and the two indices. -/
structure IpcQueue where
  messages : Fin queueDepth → IpcMessage
  head : Nat
  tail : Nat

namespace IpcQueue

/-- `IpcQueue::new()`: every slot holds the default message and both indices are 0. -/
def new : IpcQueue := ⟨fun _ => .default, 0, 0⟩

/-- `IpcQueue::is_full`. -/
def isFull (queue : IpcQueue) : Bool := (queue.tail + 1) % queueDepth == queue.head

/-- `IpcQueue::is_empty`. -/
def isEmpty (queue : IpcQueue) : Bool := queue.head == queue.tail

/-- `IpcQueue::send`: `Err(message)` on a full queue, otherwise the message is copied into
slot `tail` and `tail` advances. `none` is the panic of an out-of-bounds slot index. -/
def send (queue : IpcQueue) (message : IpcMessage) : Option (Except IpcMessage Unit × IpcQueue) :=
  if queue.isFull then some (.error message, queue)
  else if h : queue.tail < queueDepth then
    some (.ok (), { queue with
      messages := Function.update queue.messages ⟨queue.tail, h⟩ message
      tail := (queue.tail + 1) % queueDepth })
  else none

/-- `IpcQueue::receive`: `None` on an empty queue, otherwise a copy of slot `head`, and
`head` advances. `none` is the panic of an out-of-bounds slot index. -/
def receive (queue : IpcQueue) : Option (Option IpcMessage × IpcQueue) :=
  if queue.isEmpty then some (none, queue)
  else if h : queue.head < queueDepth then
    some (some (queue.messages ⟨queue.head, h⟩), { queue with head := (queue.head + 1) % queueDepth })
  else none

end IpcQueue

/-! ## The abstract FIFO -/

/-- `send` on a FIFO list of capacity `QUEUE_DEPTH - 1`. -/
def Fifo.send (pending : List IpcMessage) (message : IpcMessage) :
    Except IpcMessage Unit × List IpcMessage :=
  if pending.length < queueDepth - 1 then (.ok (), pending ++ [message])
  else (.error message, pending)

/-- `receive` on a FIFO list. -/
def Fifo.receive : List IpcMessage → Option IpcMessage × List IpcMessage
  | [] => (none, [])
  | message :: rest => (some message, rest)

/-- The slot that holds the `i`-th pending message of a ring whose front is at `head`. -/
def slotAt (head i : Nat) : Fin queueDepth :=
  ⟨(head + i) % queueDepth, Nat.mod_lt _ (by decide)⟩

/-- The queue holds the list `pending`: both indices are in range, the distance from `head`
to `tail` is the length of the list, and the slots from `head` on hold its messages. -/
structure Represents (queue : IpcQueue) (pending : List IpcMessage) : Prop where
  head_lt : queue.head < queueDepth
  tail_lt : queue.tail < queueDepth
  length_eq : (queue.tail + queueDepth - queue.head) % queueDepth = pending.length
  slot_eq : ∀ i (h : i < pending.length), queue.messages (slotAt queue.head i) = pending[i]

theorem represents_new : Represents IpcQueue.new [] :=
  ⟨by decide, by decide, rfl, fun _ h => absurd h (Nat.not_lt_zero _)⟩

namespace Represents

variable {queue : IpcQueue} {pending : List IpcMessage}

theorem length_lt (hrep : Represents queue pending) : pending.length < queueDepth := by
  rw [← hrep.length_eq]; exact Nat.mod_lt _ (by decide)

theorem isFull_iff (hrep : Represents queue pending) :
    queue.isFull = true ↔ pending.length = queueDepth - 1 := by
  have := hrep.length_eq; have := hrep.head_lt; have := hrep.tail_lt
  simp only [IpcQueue.isFull, beq_iff_eq, queueDepth] at *
  omega

theorem isEmpty_iff (hrep : Represents queue pending) :
    queue.isEmpty = true ↔ pending = [] := by
  have := hrep.length_eq; have := hrep.head_lt; have := hrep.tail_lt
  rw [← List.length_eq_zero]
  simp only [IpcQueue.isEmpty, beq_iff_eq, queueDepth] at *
  omega

/-- The slot at `tail` is the first slot past the pending messages. -/
theorem tail_eq (hrep : Represents queue pending) :
    slotAt queue.head pending.length = ⟨queue.tail, hrep.tail_lt⟩ := by
  have := hrep.length_eq; have := hrep.head_lt; have := hrep.tail_lt
  simp only [slotAt, Fin.mk.injEq, queueDepth] at *
  omega

end Represents

/-- Slots `i` and `j` from the same front are distinct while both are within one lap. -/
theorem slotAt_ne {head i j : Nat} (hi : i < queueDepth)
    (hj : j < queueDepth) (hne : i ≠ j) : slotAt head i ≠ slotAt head j := by
  simp only [slotAt, ne_eq, Fin.mk.injEq, queueDepth] at *
  omega

/-- Advancing the front by one shifts every later slot down by one. -/
theorem slotAt_succ (head i : Nat) :
    slotAt ((head + 1) % queueDepth) i = slotAt head (i + 1) := by
  simp only [slotAt, Fin.mk.injEq, queueDepth]
  omega

/-- `send` on a queue that holds `pending` answers as the FIFO does, never panics, keeps the
queue holding the FIFO's list, and changes nothing when it refuses. -/
theorem send_refines {queue : IpcQueue} {pending : List IpcMessage}
    (hrep : Represents queue pending) (message : IpcMessage) :
    ∃ next, queue.send message = some ((Fifo.send pending message).1, next) ∧
      Represents next (Fifo.send pending message).2 ∧
      (pending.length = queueDepth - 1 → next = queue) := by
  by_cases hfull : pending.length = queueDepth - 1
  · have hqueue : queue.isFull = true := hrep.isFull_iff.2 hfull
    exact ⟨queue, by simp [IpcQueue.send, hqueue, Fifo.send, hfull], by
      simpa [Fifo.send, hfull] using hrep, fun _ => rfl⟩
  · have hqueue : queue.isFull = false :=
      Bool.eq_false_iff.2 fun h => hfull (hrep.isFull_iff.1 h)
    have hroom : pending.length < queueDepth - 1 := by
      have := hrep.length_lt; simp only [queueDepth] at *; omega
    refine ⟨{ queue with
        messages := Function.update queue.messages ⟨queue.tail, hrep.tail_lt⟩ message
        tail := (queue.tail + 1) % queueDepth },
      by simp [IpcQueue.send, hqueue, hrep.tail_lt, Fifo.send, hroom], ?_,
      fun h => absurd h hfull⟩
    simp only [Fifo.send, hroom, if_true]
    refine ⟨hrep.head_lt, Nat.mod_lt _ (by decide), ?_, fun i hi => ?_⟩
    · have := hrep.length_eq; have := hrep.head_lt; have := hrep.tail_lt
      simp only [List.length_append, List.length_singleton, queueDepth] at *
      omega
    · rw [← hrep.tail_eq]
      show Function.update queue.messages (slotAt queue.head pending.length) message
        (slotAt queue.head i) = _
      rcases Nat.lt_or_ge i pending.length with hold | hnew
      · rw [Function.update_noteq (slotAt_ne (by omega) (by omega) (by omega)),
          hrep.slot_eq i hold, List.getElem_append_left hold]
      · have hi' : i = pending.length := by simp at hi; omega
        subst hi'
        simp

/-- `receive` on a queue that holds `pending` answers as the FIFO does, never panics, keeps
the queue holding the FIFO's list, and changes nothing on an empty queue. -/
theorem receive_refines {queue : IpcQueue} {pending : List IpcMessage}
    (hrep : Represents queue pending) :
    ∃ next, queue.receive = some ((Fifo.receive pending).1, next) ∧
      Represents next (Fifo.receive pending).2 ∧ (pending = [] → next = queue) := by
  cases pending with
  | nil =>
      have hqueue : queue.isEmpty = true := hrep.isEmpty_iff.2 rfl
      exact ⟨queue, by simp [IpcQueue.receive, hqueue, Fifo.receive], hrep, fun _ => rfl⟩
  | cons front rest =>
      have hqueue : queue.isEmpty = false :=
        Bool.eq_false_iff.2 fun h => List.cons_ne_nil _ _ (hrep.isEmpty_iff.1 h)
      have hfront : queue.messages ⟨queue.head, hrep.head_lt⟩ = front := by
        have := hrep.slot_eq 0 (by simp)
        simpa [slotAt, Nat.mod_eq_of_lt hrep.head_lt] using this
      refine ⟨{ queue with head := (queue.head + 1) % queueDepth },
        by simp [IpcQueue.receive, hqueue, hrep.head_lt, hfront, Fifo.receive],
        ⟨Nat.mod_lt _ (by decide), hrep.tail_lt, ?_, fun i hi => ?_⟩, fun h => by cases h⟩
      · have := hrep.length_eq; have := hrep.head_lt; have := hrep.tail_lt
        simp only [Fifo.receive, List.length_cons, queueDepth] at *
        omega
      · simpa [slotAt_succ] using hrep.slot_eq (i + 1) (by simpa using hi)

/-! ## Runs of calls -/

/-- A call on the queue. -/
inductive Op where
  | send (message : IpcMessage)
  | receive

/-- What a call returns. -/
inductive Response where
  | sent (result : Except IpcMessage Unit)
  | received (result : Option IpcMessage)

/-- One call on the queue; `none` is a panic. -/
def IpcQueue.apply (queue : IpcQueue) : Op → Option (Response × IpcQueue)
  | .send message => (queue.send message).map fun (result, next) => (.sent result, next)
  | .receive => queue.receive.map fun (result, next) => (.received result, next)

/-- The responses to a sequence of calls and the queue afterwards; `none` if a call panics. -/
def IpcQueue.runOps (queue : IpcQueue) : List Op → Option (List Response × IpcQueue)
  | [] => some ([], queue)
  | op :: rest => do
      let (response, next) ← queue.apply op
      let (responses, final) ← next.runOps rest
      pure (response :: responses, final)

/-- One call on the FIFO list. -/
def Fifo.apply (pending : List IpcMessage) : Op → Response × List IpcMessage
  | .send message => (.sent (Fifo.send pending message).1, (Fifo.send pending message).2)
  | .receive => (.received (Fifo.receive pending).1, (Fifo.receive pending).2)

/-- The responses of the FIFO list to a sequence of calls and its final contents. -/
def Fifo.runOps (pending : List IpcMessage) : List Op → List Response × List IpcMessage
  | [] => ([], pending)
  | op :: rest =>
      ((Fifo.apply pending op).1 :: (Fifo.runOps (Fifo.apply pending op).2 rest).1,
        (Fifo.runOps (Fifo.apply pending op).2 rest).2)

/-- The message a call put into the queue: the argument of a `send` that returned `Ok`. -/
def Op.accepted : Op → Response → List IpcMessage
  | .send message, .sent (.ok _) => [message]
  | .send _, .sent (.error _) => []
  | .send _, .received _ => []
  | .receive, _ => []

/-- The messages accepted along a run, in order. -/
def acceptedMessages : List Op → List Response → List IpcMessage
  | [], _ => []
  | _ :: _, [] => []
  | op :: ops, response :: responses => op.accepted response ++ acceptedMessages ops responses

/-- The messages handed out by `receive` along a run, in order. -/
def receivedMessages : List Response → List IpcMessage
  | [] => []
  | .received (some message) :: responses => message :: receivedMessages responses
  | .received none :: responses => receivedMessages responses
  | .sent _ :: responses => receivedMessages responses

theorem apply_refines {queue : IpcQueue} {pending : List IpcMessage}
    (hrep : Represents queue pending) (op : Op) :
    ∃ next, queue.apply op = some ((Fifo.apply pending op).1, next) ∧
      Represents next (Fifo.apply pending op).2 := by
  cases op with
  | send message =>
      obtain ⟨next, hsend, hnext, -⟩ := send_refines hrep message
      exact ⟨next, by simp [IpcQueue.apply, Fifo.apply, hsend], hnext⟩
  | receive =>
      obtain ⟨next, hreceive, hnext, -⟩ := receive_refines hrep
      exact ⟨next, by simp [IpcQueue.apply, Fifo.apply, hreceive], hnext⟩

theorem runOps_refines {queue : IpcQueue} {pending : List IpcMessage}
    (hrep : Represents queue pending) (ops : List Op) :
    ∃ final, queue.runOps ops = some ((Fifo.runOps pending ops).1, final) ∧
      Represents final (Fifo.runOps pending ops).2 := by
  induction ops generalizing queue pending with
  | nil => exact ⟨queue, rfl, hrep⟩
  | cons op rest ih =>
      obtain ⟨next, happly, hnext⟩ := apply_refines hrep op
      obtain ⟨final, hrun, hfinal⟩ := ih hnext
      exact ⟨final, by simp [IpcQueue.runOps, happly, hrun, Fifo.runOps], hfinal⟩

/-- Along every run of the FIFO, what was pending and then accepted is what was received
followed by what is still pending. -/
theorem fifo_history (pending : List IpcMessage) (ops : List Op) :
    pending ++ acceptedMessages ops (Fifo.runOps pending ops).1 =
      receivedMessages (Fifo.runOps pending ops).1 ++ (Fifo.runOps pending ops).2 := by
  induction ops generalizing pending with
  | nil => simp [Fifo.runOps, acceptedMessages, receivedMessages]
  | cons op rest ih =>
      cases op with
      | send message =>
          by_cases hroom : pending.length < queueDepth - 1
          · have hsend : Fifo.send pending message = (.ok (), pending ++ [message]) := if_pos hroom
            simpa [Fifo.runOps, Fifo.apply, hsend, acceptedMessages, Op.accepted,
              receivedMessages] using ih (pending ++ [message])
          · have hsend : Fifo.send pending message = (.error message, pending) := if_neg hroom
            simpa [Fifo.runOps, Fifo.apply, hsend, acceptedMessages, Op.accepted,
              receivedMessages] using ih pending
      | receive =>
          cases pending with
          | nil => simpa [Fifo.runOps, Fifo.apply, Fifo.receive, acceptedMessages, Op.accepted,
              receivedMessages] using ih []
          | cons front others =>
              simpa [Fifo.runOps, Fifo.apply, Fifo.receive, acceptedMessages, Op.accepted,
                receivedMessages] using ih others

/-- `IpcQueue` refines a FIFO of capacity `QUEUE_DEPTH - 1`. After any sequence of calls on
`IpcQueue::new()` no call has panicked, every call answered as the FIFO `Q` does (`send`
succeeds and appends iff `|Q| < 7`, `receive` returns the front of `Q` iff `Q` is not empty),
the queue holds `Q` (indices below 8, `(tail - head) mod 8 = |Q|`, slot `head + i` holds the
`i`-th message), a refused `send` and an empty `receive` change nothing, and the received
messages followed by `Q` are exactly the accepted ones, in order. -/
theorem ipcQueue_refines_fifo (ops : List Op) :
    ∃ queue, IpcQueue.new.runOps ops = some ((Fifo.runOps [] ops).1, queue) ∧
      Represents queue (Fifo.runOps [] ops).2 ∧
      (∀ message, (Fifo.runOps [] ops).2.length = queueDepth - 1 →
        queue.send message = some (.error message, queue)) ∧
      ((Fifo.runOps [] ops).2 = [] → queue.receive = some (none, queue)) ∧
      acceptedMessages ops (Fifo.runOps [] ops).1 =
        receivedMessages (Fifo.runOps [] ops).1 ++ (Fifo.runOps [] ops).2 := by
  obtain ⟨queue, hrun, hrep⟩ := runOps_refines represents_new ops
  refine ⟨queue, hrun, hrep, fun message hfull => ?_, fun hempty => ?_,
    by simpa using fifo_history [] ops⟩
  · obtain ⟨next, hsend, -, hsame⟩ := send_refines hrep message
    simpa [hsame hfull, Fifo.send, hfull] using hsend
  · obtain ⟨next, hreceive, -, hsame⟩ := receive_refines hrep
    simpa [hsame hempty, hempty, Fifo.receive] using hreceive

end SahneKarnal.Ipc
