import Mathlib.Logic.Function.Basic
import Mathlib.Data.List.Basic

/-!
# The channel record of `mpsc.c`

`struct mpsc_s` (`mpsc.c:80-109`) with the fields the channel's operations
read or write, the creation parameters `mpsc_create_params_t` (`mpsc.h`)
with their check `mpsc_create_params_validate` (`mpsc.c:533-561`), and the
producer wait queue: the array `producer_waiting_ids_queue` whose first
`n_producers_waiting` entries are live, appended to by
`mpsc_producer_subscribe_to_wait_queue` (`mpsc.c:379-410`) and shifted
from the head by `mpsc_shift_producer_wait_queue` (`mpsc.c:412-428`).
Both are refined here to `++ [id]` and `tail` on the list of live entries.
-/

namespace CMpsc

abbrev Bytes := List UInt8

/-- The threads of one channel: the creator (`parent_thread_id`), the
consumer thread, and the thread started for producer slot `i`. -/
inductive Tid where
  | main
  | consumer
  | producer (i : Nat)
  deriving DecidableEq, Repr

/-- The `abort()` sites of `mpsc.c` that the modelled functions can reach. -/
inductive Fatal where
  | nullConsumerCallback
  | nullConsumerErrorCallback
  | zeroMaxProducers
  | messageTooLarge
  | producerNotFound
  | alreadySubscribed
  | emptyQueue
  | joinThreadSafety
  | joinTwice
  | noProducers
  | mallocFailed
  | threadCreateFailed
  deriving DecidableEq, Repr

/-- `mpsc_register_producer_error_t` (`mpsc.h`). -/
inductive RegisterProducerError where
  | none
  | closed
  | nMaxProducersReached
  | eagain
  deriving DecidableEq, Repr

/-- `mpsc_create_params_t`; a callback is represented by whether it is non-NULL. -/
structure CreateParams where
  bufferSize : Nat
  nMaxProducers : Nat
  consumerCallback : Bool
  consumerErrorCallback : Bool
  errorHandlingEnabled : Bool
  createAndJoinThreadSafetyDisabled : Bool
  deriving DecidableEq, Repr

/-- `mpsc_create_params_validate` (`mpsc.c:533-561`). -/
def mpscCreateParamsValidate (p : CreateParams) : Except Fatal Unit :=
  if !p.consumerCallback then .error .nullConsumerCallback
  else if p.errorHandlingEnabled && !p.consumerErrorCallback then .error .nullConsumerErrorCallback
  else if p.nMaxProducers = 0 then .error .zeroMaxProducers
  else .ok ()

theorem validate_ok_iff (p : CreateParams) :
    mpscCreateParamsValidate p = .ok () ↔
      p.consumerCallback ∧ (p.errorHandlingEnabled → p.consumerErrorCallback) ∧
        0 < p.nMaxProducers := by
  unfold mpscCreateParamsValidate
  cases p.consumerCallback <;> cases p.errorHandlingEnabled <;>
    cases p.consumerErrorCallback <;> by_cases h : p.nMaxProducers = 0 <;>
    simp [h, Nat.pos_iff_ne_zero]

/-- `struct mpsc_producer_s`: of its fields the channel reads only `done`. -/
structure Producer where
  done : Bool

/-- `struct mpsc_s`. Arrays are functions on their index; a `producer_thread_ids`
entry is `none` while its value is indeterminate. -/
structure Mpsc where
  bufferSize : Nat
  nMaxProducers : Nat
  buffer : Bytes
  n : Nat
  pendingMessage : Bool
  joined : Bool
  closed : Bool
  nProducersClosed : Nat
  errorHandlingEnabled : Bool
  createAndJoinThreadSafetyDisabled : Bool
  parentThreadId : Tid
  nProducersWaiting : Nat
  nextWaitingProducerId : Int
  producerThreadIds : Nat → Option Tid
  producers : Nat → Producer
  producerCount : Nat
  producerWaitingIdsQueue : Nat → Nat

/-! ### Wait queue -/

/-- The live entries `producer_waiting_ids_queue[0 .. n_producers_waiting)`. -/
def waitQueue (m : Mpsc) : List Nat :=
  (List.range m.nProducersWaiting).map m.producerWaitingIdsQueue

/-- The search loop of `mpsc_producer_subscribe_to_wait_queue` (`mpsc.c:382-389`):
the first slot `i < n_max_producers` with `&producers[i] == self`. -/
def findProducer (nMaxProducers self : Nat) : Option Nat :=
  (List.range nMaxProducers).find? (· == self)

theorem findProducer_eq (nMaxProducers self : Nat) :
    findProducer nMaxProducers self = if self < nMaxProducers then some self else none := by
  split
  · rw [findProducer, List.find?_range_eq_some]
    exact ⟨by simp, List.mem_range.2 ‹_›, fun j hj => by simp; omega⟩
  · rw [findProducer, List.find?_range_eq_none]
    intro i hi
    simp only [Bool.not_eq_true', beq_eq_false_iff_ne]
    omega

/-- `mpsc_producer_subscribe_to_wait_queue` (`mpsc.c:379-410`). -/
def mpscProducerSubscribeToWaitQueue (m : Mpsc) (self : Nat) : Except Fatal (Mpsc × Nat) :=
  match findProducer m.nMaxProducers self with
  | none => .error .producerNotFound
  | some id =>
    if m.nProducersWaiting = m.nMaxProducers then .error .alreadySubscribed
    else .ok ({ m with
      producerWaitingIdsQueue :=
        Function.update m.producerWaitingIdsQueue m.nProducersWaiting id
      nProducersWaiting := m.nProducersWaiting + 1 }, id)

/-- The copy loop of `mpsc_shift_producer_wait_queue` (`mpsc.c:422-425`),
iterations `0 .. k-1` of `queue[i] = queue[i + 1]`. -/
def shiftLoop (q : Nat → Nat) : Nat → Nat → Nat
  | 0 => q
  | k + 1 => let a := shiftLoop q k; Function.update a k (a (k + 1))

/-- `mpsc_shift_producer_wait_queue` (`mpsc.c:412-428`). -/
def mpscShiftProducerWaitQueue (m : Mpsc) : Except Fatal Mpsc :=
  if m.nProducersWaiting = 0 then .error .emptyQueue
  else .ok { m with
    producerWaitingIdsQueue := shiftLoop m.producerWaitingIdsQueue (m.nProducersWaiting - 1)
    nProducersWaiting := m.nProducersWaiting - 1
    nextWaitingProducerId := -1 }

theorem shiftLoop_apply (q : Nat → Nat) (k j : Nat) :
    shiftLoop q k j = if j < k then q (j + 1) else q j := by
  induction k generalizing j with
  | zero => simp [shiftLoop]
  | succ k ih =>
    simp only [shiftLoop, Function.update_apply, ih]
    split_ifs <;> first | rfl | omega | (subst_vars; rfl)

theorem subscribe_eq (m : Mpsc) (self : Nat) :
    mpscProducerSubscribeToWaitQueue m self =
      if self < m.nMaxProducers then
        if m.nProducersWaiting = m.nMaxProducers then .error .alreadySubscribed
        else .ok ({ m with
          producerWaitingIdsQueue :=
            Function.update m.producerWaitingIdsQueue m.nProducersWaiting self
          nProducersWaiting := m.nProducersWaiting + 1 }, self)
      else .error .producerNotFound := by
  unfold mpscProducerSubscribeToWaitQueue
  rw [findProducer_eq]
  by_cases h : self < m.nMaxProducers <;> simp [h]

theorem subscribe_ok {m m' : Mpsc} {self id : Nat}
    (h : mpscProducerSubscribeToWaitQueue m self = .ok (m', id)) :
    id = self ∧ self < m.nMaxProducers ∧ m.nProducersWaiting ≠ m.nMaxProducers ∧
      m' = { m with
        producerWaitingIdsQueue :=
          Function.update m.producerWaitingIdsQueue m.nProducersWaiting self
        nProducersWaiting := m.nProducersWaiting + 1 } := by
  rw [subscribe_eq] at h
  split_ifs at h with h1 h2
  cases h
  exact ⟨rfl, h1, h2, rfl⟩

theorem shift_ok {m m' : Mpsc} (h : mpscShiftProducerWaitQueue m = .ok m') :
    0 < m.nProducersWaiting ∧ m' = { m with
      producerWaitingIdsQueue := shiftLoop m.producerWaitingIdsQueue (m.nProducersWaiting - 1)
      nProducersWaiting := m.nProducersWaiting - 1
      nextWaitingProducerId := -1 } := by
  unfold mpscShiftProducerWaitQueue at h
  split_ifs at h with h1
  cases h
  exact ⟨Nat.pos_of_ne_zero h1, rfl⟩

/-- Appending at index `n_producers_waiting` is `++ [id]` on the live entries. -/
theorem waitQueue_push (q : Nat → Nat) (w id : Nat) :
    (List.range (w + 1)).map (Function.update q w id) = (List.range w).map q ++ [id] := by
  rw [List.range_succ, List.map_append]
  congr 1
  · refine List.map_congr_left fun j hj => ?_
    exact Function.update_noteq (by simp at hj; omega) _ _
  · simp

/-- The shift loop followed by the decrement is `tail` on the live entries. -/
theorem waitQueue_shift (q : Nat → Nat) (w : Nat) :
    (List.range (w - 1)).map (shiftLoop q (w - 1)) = ((List.range w).map q).tail := by
  cases w with
  | zero => rfl
  | succ k =>
    rw [List.range_succ_eq_map, List.map_cons, List.tail_cons, List.map_map,
      Nat.add_sub_cancel]
    refine List.map_congr_left fun j hj => ?_
    simp only [shiftLoop_apply, Function.comp_apply, Nat.succ_eq_add_one]
    simp at hj
    simp [hj]

theorem waitQueue_length (m : Mpsc) : (waitQueue m).length = m.nProducersWaiting := by
  simp [waitQueue]

theorem waitQueue_head (m : Mpsc) (h : 0 < m.nProducersWaiting) :
    (waitQueue m).head? = some (m.producerWaitingIdsQueue 0) := by
  obtain ⟨k, hk⟩ := Nat.exists_eq_add_of_lt h
  simp [waitQueue, hk, List.range_succ_eq_map]

theorem mem_waitQueue (m : Mpsc) (i : Nat) :
    i ∈ waitQueue m ↔ ∃ k < m.nProducersWaiting, m.producerWaitingIdsQueue k = i := by
  simp [waitQueue]

end CMpsc
