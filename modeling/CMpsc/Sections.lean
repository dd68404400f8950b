import CMpsc.System

/-!
# The critical sections of `mpsc.c`

Every library call runs its body between `my_mutex_set_lock_state(mutex, true)`
and the unlock on each of its return paths; a wait loop leaves the section
in `pthread_cond_wait` and re-enters it once the thread holds the mutex
again. One definition per section, translated from the lines it cites, with
`unlock`, `signal` and `condWait` where the code calls
`my_mutex_set_lock_state(.., false)`, `my_condition_variable_signal` and
`my_condition_variable_wait`, and `setPc t (.user ..)` where it returns to
the application.
-/

namespace CMpsc
namespace Sys

/-- `memcpy(dst, src, n)` with `n = src.length`. -/
def memcpy (dst src : Bytes) : Bytes := src ++ dst.drop src.length

/-- `mpsc_producer_send`, lines 335-343: copy into the slot, mark it pending,
signal the consumer, unlock, return `true`. -/
def deposit (s : Sys) (i : Nat) (data : Bytes) (ticket : Nat) (subscribed : Bool) : Sys :=
  let m := s.mpsc
  let s := { s with
    mpsc := { m with
      buffer := if data.length > 0 then memcpy m.buffer data else m.buffer
      n := data.length
      pendingMessage := true }
    written := s.written ++ [Deposit.mk i ticket subscribed data] }
  (s.signal .main).unlock.setPc (.producer i) (.user .producerCallback (.send true))

/-- `mpsc_producer_send`, lines 317-334: the wait loop on
`producer_condition_variables[id]`, then the shift and the deposit. -/
def sendWaitLoop (s : Sys) (i : Nat) (data : Bytes) (id ticket : Nat) : Except Fatal Sys :=
  if !s.mpsc.closed && s.mpsc.nextWaitingProducerId != (id : Int) then
    .ok (s.condWait (.producer i) (.sendWait data id ticket))
  else if s.mpsc.closed then
    .ok (s.unlock.setPc (.producer i) (.user .producerCallback (.send false)))
  else
    (mpscShiftProducerWaitQueue s.mpsc).map fun m => deposit { s with mpsc := m } i data ticket true

/-- `mpsc_producer_send`, lines 295-316, for the producer of slot `i`; the
call takes ticket `clock`. -/
def sendEntry (s : Sys) (i : Nat) (data : Bytes) : Except Fatal Sys :=
  let ticket := s.clock
  let s := { s with clock := s.clock + 1 }
  if data.length > s.mpsc.bufferSize then .error .messageTooLarge
  else if s.mpsc.closed then
    .ok (s.unlock.setPc (.producer i) (.user .producerCallback (.send false)))
  else if s.mpsc.pendingMessage || s.mpsc.nextWaitingProducerId != -1 then
    match mpscProducerSubscribeToWaitQueue s.mpsc i with
    | .error e => .error e
    | .ok (m, id) => sendWaitLoop { s with mpsc := m } i data id ticket
  else .ok (deposit s i data ticket false)

/-- The outcomes of the entry section of `mpsc_producer_send` that do not abort:
a closed channel, a busy slot or an elected producer (subscribe, then the wait
loop), or a deposit into the free slot. -/
theorem sendEntry_cases {s s' : Sys} {i : Nat} {data : Bytes}
    (he : s.sendEntry i data = .ok s') :
    data.length ≤ s.mpsc.bufferSize ∧
    ((s.mpsc.closed = true ∧
        s' = { s with clock := s.clock + 1 }.unlock.setPc (.producer i)
          (.user .producerCallback (.send false))) ∨
      (s.mpsc.closed = false ∧
        (s.mpsc.pendingMessage = true ∨ s.mpsc.nextWaitingProducerId ≠ -1) ∧
        ∃ m j, mpscProducerSubscribeToWaitQueue s.mpsc i = .ok (m, j) ∧
          { s with clock := s.clock + 1, mpsc := m }.sendWaitLoop i data j s.clock = .ok s') ∨
      (s.mpsc.closed = false ∧ s.mpsc.pendingMessage = false ∧
        s.mpsc.nextWaitingProducerId = -1 ∧
        s' = { s with clock := s.clock + 1 }.deposit i data s.clock false)) := by
  unfold sendEntry at he
  dsimp only at he
  split_ifs at he with h1 h2 h3
  · cases he
    exact ⟨by omega, .inl ⟨h2, rfl⟩⟩
  · split at he
    · cases he
    · rename_i m j hsub
      simp only [Bool.or_eq_true, bne_iff_ne, ne_eq] at h3
      exact ⟨by omega, .inr (.inl ⟨by simpa using h2, h3, m, j, hsub, he⟩)⟩
  · cases he
    simp only [Bool.or_eq_true, bne_iff_ne, ne_eq, not_or, not_not, Bool.not_eq_true] at h3
    exact ⟨by omega, .inr (.inr ⟨by simpa using h2, h3.1, h3.2, rfl⟩)⟩

/-- `my_consumer_thread_callback`, lines 613-618: elect the head of the wait queue. -/
def elect (s : Sys) : Sys :=
  if s.mpsc.nProducersWaiting > 0 && !s.mpsc.closed then
    let id := s.mpsc.producerWaitingIdsQueue 0
    { s with mpsc := { s.mpsc with nextWaitingProducerId := id } }.signal (.producer id)
  else s

@[simp] theorem elect_pc (s : Sys) : s.elect.pc = s.pc := by
  unfold elect; split <;> rfl
@[simp] theorem elect_owner (s : Sys) : s.elect.owner = s.owner := by
  unfold elect; split <;> rfl

/-- The election changes `next_waiting_producer_id` and the woken flags only. -/
theorem elect_eq (s : Sys) :
    s.elect = { s with
      mpsc := { s.mpsc with
        nextWaitingProducerId :=
          if s.mpsc.nProducersWaiting > 0 && !s.mpsc.closed then
            (s.mpsc.producerWaitingIdsQueue 0 : Int)
          else s.mpsc.nextWaitingProducerId }
      woken := s.elect.woken } := by
  unfold elect; split <;> rfl

/-- One iteration of the loop of `my_consumer_thread_callback` (lines 581-621)
with the mutex held, run by thread `t`; `mallocOk` is the outcome of the
`my_malloc` at line 599. -/
def consumerLoop (s : Sys) (t : Tid) (mallocOk : Bool) : Except Fatal Sys :=
  let m := s.mpsc
  if !m.pendingMessage && !m.closed then .ok (s.condWait t .consumerLoop)
  else if m.closed && !m.pendingMessage then
    .ok ({ s.unlock with
      invocations := s.invocations ++ [Invocation.consumerCallback none 0 [] true]
      finalCalled := true }.setPc t (.user .consumerFinalCallback .none))
  else
    let n := m.n
    let msg := m.buffer.take n
    if n > 0 && !mallocOk then
      if m.errorHandlingEnabled then
        .ok ({ s with
          mpsc := { m with n := 0, pendingMessage := false }
          taken := s.taken ++ [msg]
          invocations := s.invocations ++ [Invocation.consumerErrorCallback] }.unlock.setPc t
            (.user .consumerErrorCallback .none))
      else .error .mallocFailed
    else
      let buffer : Option Nat := if n > 0 then some s.heap else none
      let s := elect { s with
        mpsc := { m with n := 0, pendingMessage := false }
        heap := if n > 0 then s.heap + 1 else s.heap
        taken := s.taken ++ [msg] }
      .ok ({ s.unlock with
        invocations := s.invocations ++ [Invocation.consumerCallback buffer n msg false] }.setPc t
          (.user .consumerCallback .none))

/-- The outcomes of one iteration of the consumer loop: back to
`pthread_cond_wait`, the final callback, the error callback after a failed
`my_malloc`, or a delivery (into a fresh block, or of an empty message) with
the election. -/
theorem consumerLoop_cases {s s' : Sys} {t : Tid} {ok : Bool}
    (he : s.consumerLoop t ok = .ok s') :
    (s.mpsc.pendingMessage = false ∧ s.mpsc.closed = false ∧ s' = s.condWait t .consumerLoop) ∨
    (s.mpsc.pendingMessage = false ∧ s.mpsc.closed = true ∧
      s' = { s.unlock with
        invocations := s.invocations ++ [Invocation.consumerCallback none 0 [] true]
        finalCalled := true }.setPc t (.user .consumerFinalCallback .none)) ∨
    (s.mpsc.pendingMessage = true ∧ 0 < s.mpsc.n ∧ ok = false ∧
      s.mpsc.errorHandlingEnabled = true ∧
      s' = { s with
        mpsc := { s.mpsc with n := 0, pendingMessage := false }
        taken := s.taken ++ [s.mpsc.buffer.take s.mpsc.n]
        invocations := s.invocations ++ [Invocation.consumerErrorCallback] }.unlock.setPc t
          (.user .consumerErrorCallback .none)) ∨
    (s.mpsc.pendingMessage = true ∧ 0 < s.mpsc.n ∧
      s' = { (elect { s with
          mpsc := { s.mpsc with n := 0, pendingMessage := false }
          heap := s.heap + 1
          taken := s.taken ++ [s.mpsc.buffer.take s.mpsc.n] }).unlock with
        invocations := s.invocations ++
          [Invocation.consumerCallback (some s.heap) s.mpsc.n (s.mpsc.buffer.take s.mpsc.n) false]
        }.setPc t (.user .consumerCallback .none)) ∨
    (s.mpsc.pendingMessage = true ∧ s.mpsc.n = 0 ∧
      s' = { (elect { s with
          mpsc := { s.mpsc with n := 0, pendingMessage := false }
          taken := s.taken ++ [s.mpsc.buffer.take s.mpsc.n] }).unlock with
        invocations := s.invocations ++
          [Invocation.consumerCallback none s.mpsc.n (s.mpsc.buffer.take s.mpsc.n) false]
        }.setPc t (.user .consumerCallback .none)) := by
  unfold consumerLoop at he
  dsimp only at he
  split_ifs at he with h1 h2 h3 h4 <;> cases he
  · simp only [Bool.and_eq_true, Bool.not_eq_true'] at h1
    exact .inl ⟨h1.1, h1.2, rfl⟩
  · simp only [Bool.and_eq_true, Bool.not_eq_true'] at h2
    exact .inr (.inl ⟨h2.2, h2.1, rfl⟩)
  all_goals
    have hp : s.mpsc.pendingMessage = true := by
      revert h1 h2; cases s.mpsc.pendingMessage <;> cases s.mpsc.closed <;> simp
  · simp only [Bool.and_eq_true, Bool.not_eq_true', decide_eq_true_eq] at h3
    exact .inr (.inr (.inl ⟨hp, h3.1, h3.2, h4, rfl⟩))
  · refine .inr (.inr (.inr (.inl ⟨hp, by omega, ?_⟩)))
    rw [elect_eq, elect_eq]
  · refine .inr (.inr (.inr (.inr ⟨hp, by omega, ?_⟩)))
    rw [elect_eq, elect_eq]

/-- `mpsc_register_producer` (lines 235-260) called by thread `t` from `caller`;
`created` is the outcome of `pthread_create`. -/
def registerProducer (s : Sys) (t : Tid) (caller : UserCode) (created : Bool) :
    Except Fatal Sys :=
  let m := s.mpsc
  if m.nMaxProducers = m.producerCount then
    .ok (s.unlock.setPc t (.user caller (.registerProducer .nMaxProducersReached)))
  else if m.closed then
    .ok (s.unlock.setPc t (.user caller (.registerProducer .closed)))
  else
    let i := m.producerCount
    let m := { m with producers := Function.update m.producers i ⟨false⟩ }
    if created then
      let s := { s with
        mpsc := { m with
          producerThreadIds := Function.update m.producerThreadIds i (some (.producer i))
          producerCount := i + 1 }
        registered := s.registered ++ [Tid.producer i] }
      .ok (((s.setPc (.producer i) (.user .producerCallback .none)).unlock).setPc t
        (.user caller (.registerProducer .none)))
    else if m.errorHandlingEnabled then
      .ok ({ s with
        mpsc := { m with producerThreadIds := Function.update m.producerThreadIds i none }
        }.unlock.setPc t (.user caller (.registerProducer .eagain)))
    else .error .threadCreateFailed

/-- The outcomes of `mpsc_register_producer`: no free slot, a closed channel, a
started producer thread, or `EAGAIN` from `pthread_create`. -/
theorem registerProducer_cases {s s' : Sys} {t : Tid} {caller : UserCode} {ok : Bool}
    (he : s.registerProducer t caller ok = .ok s') :
    (s.mpsc.nMaxProducers = s.mpsc.producerCount ∧
      s' = s.unlock.setPc t (.user caller (.registerProducer .nMaxProducersReached))) ∨
    (s.mpsc.nMaxProducers ≠ s.mpsc.producerCount ∧ s.mpsc.closed = true ∧
      s' = s.unlock.setPc t (.user caller (.registerProducer .closed))) ∨
    (s.mpsc.nMaxProducers ≠ s.mpsc.producerCount ∧ s.mpsc.closed = false ∧ ok = true ∧
      s' = (({ s with
        mpsc := { s.mpsc with
          producers := Function.update s.mpsc.producers s.mpsc.producerCount ⟨false⟩
          producerThreadIds := Function.update s.mpsc.producerThreadIds s.mpsc.producerCount
            (some (.producer s.mpsc.producerCount))
          producerCount := s.mpsc.producerCount + 1 }
        registered := s.registered ++ [Tid.producer s.mpsc.producerCount] }.setPc
          (.producer s.mpsc.producerCount) (.user .producerCallback .none)).unlock).setPc t
        (.user caller (.registerProducer .none))) ∨
    (s.mpsc.nMaxProducers ≠ s.mpsc.producerCount ∧ s.mpsc.closed = false ∧ ok = false ∧
      s.mpsc.errorHandlingEnabled = true ∧
      s' = { s with
        mpsc := { s.mpsc with
          producers := Function.update s.mpsc.producers s.mpsc.producerCount ⟨false⟩
          producerThreadIds :=
            Function.update s.mpsc.producerThreadIds s.mpsc.producerCount none } }.unlock.setPc t
        (.user caller (.registerProducer .eagain))) := by
  unfold registerProducer at he
  dsimp only at he
  split_ifs at he with h1 h2 h3 h4 <;> cases he
  · exact .inl ⟨h1, rfl⟩
  · exact .inr (.inl ⟨h1, h2, rfl⟩)
  · exact .inr (.inr (.inl ⟨h1, by simpa using h2, h3, rfl⟩))
  · exact .inr (.inr (.inr ⟨h1, by simpa using h2, by simpa using h3, h4, rfl⟩))

/-- `mpsc_producer_ping` (lines 283-290). -/
def producerPing (s : Sys) (i : Nat) : Sys :=
  let ok := !s.mpsc.closed
  s.unlock.setPc (.producer i) (.user .producerCallback (.ping ok))

/-- The loop of `mpsc_consumer_close` (lines 273-277): iterations `0 .. k-1` of
the signal on `producer_condition_variables[producer_waiting_ids_queue[i]]`. -/
def signalWaiting (s : Sys) : Nat → Sys
  | 0 => s
  | k + 1 => (signalWaiting s k).signal (.producer (s.mpsc.producerWaitingIdsQueue k))

/-- The signals of the loop change nothing but woken flags. -/
theorem signalWaiting_eq (s : Sys) (k : Nat) :
    s.signalWaiting k = { s with woken := (s.signalWaiting k).woken } := by
  have : ∃ w, s.signalWaiting k = { s with woken := w } := by
    induction k with
    | zero => exact ⟨_, rfl⟩
    | succ k ih =>
      obtain ⟨w, hw⟩ := ih
      exact ⟨_, by rw [signalWaiting, hw]; rfl⟩
  obtain ⟨w, hw⟩ := this
  rw [hw]

theorem signalWaiting_pc (s : Sys) (k : Nat) : (s.signalWaiting k).pc = s.pc := by
  rw [signalWaiting_eq]

/-- `mpsc_consumer_close` (lines 270-278), called by thread `t` from `caller`. -/
def consumerClose (s : Sys) (t : Tid) (caller : UserCode) : Sys :=
  let s := { s with mpsc := { s.mpsc with closed := true }, closeCalled := true }
  let s := s.signal .main
  (signalWaiting s s.mpsc.nProducersWaiting).unlock.setPc t (.user caller .none)

theorem consumerClose_pc (s : Sys) (t : Tid) (caller : UserCode) :
    (s.consumerClose t caller).pc = Function.update s.pc t (.user caller .none) := by
  unfold consumerClose
  rw [setPc_pc_eq, unlock_pc_eq, signalWaiting_pc]; rfl

/-- `mpsc_producer_done` (lines 353-366), run when the task of slot `i` returns. -/
def producerDone (s : Sys) (i : Nat) : Sys :=
  let m := s.mpsc
  let s :=
    if !(m.producers i).done then
      let m := { m with
        producers := Function.update m.producers i ⟨true⟩
        nProducersClosed := m.nProducersClosed + 1 }
      if m.nProducersClosed = m.producerCount ∧ m.joined then
        { s with mpsc := { m with closed := true } }.signal .main
      else { s with mpsc := m }
    else s
  s.unlock.setPc (.producer i) .exited

/-- The first lock section of `mpsc_join` (lines 186-221), called by `t`. -/
def join (s : Sys) (t : Tid) : Except Fatal Sys :=
  let m := s.mpsc
  if !m.createAndJoinThreadSafetyDisabled ∧ t ≠ m.parentThreadId then .error .joinThreadSafety
  else if m.joined then .error .joinTwice
  else
    let m := { m with joined := true }
    if m.producerCount = 0 then .error .noProducers
    else
      let s :=
        if m.producerCount = m.nProducersClosed then
          { s with mpsc := { m with closed := true } }.signal .main
        else { s with mpsc := m }
      .ok (s.unlock.setPc t .joinConsumer)

/-- The outcomes of the first section of `mpsc_join` that do not abort: it
closes the channel when every registered producer has finished. -/
theorem join_cases {s s' : Sys} {t : Tid} (he : s.join t = .ok s') :
    s.mpsc.joined = false ∧ s.mpsc.producerCount ≠ 0 ∧
    ((s.mpsc.producerCount = s.mpsc.nProducersClosed ∧
      s' = ({ s with mpsc := { s.mpsc with joined := true, closed := true } }.signal
        .main).unlock.setPc t .joinConsumer) ∨
     (s.mpsc.producerCount ≠ s.mpsc.nProducersClosed ∧
      s' = { s with mpsc := { s.mpsc with joined := true } }.unlock.setPc t .joinConsumer)) := by
  unfold join at he
  dsimp only at he
  split_ifs at he with h1 h2 h3 h4 <;> cases he
  · exact ⟨by simpa using h2, h3, .inl ⟨h4, rfl⟩⟩
  · exact ⟨by simpa using h2, h3, .inr ⟨h4, rfl⟩⟩

/-- The second lock section of `mpsc_join` (lines 223-225). -/
def joinClose (s : Sys) (t : Tid) : Sys :=
  { s with mpsc := { s.mpsc with closed := true } }.unlock.setPc t (.joinProducers 0)

/-- The critical section of call `c` run by thread `t`; `ok` is the outcome of
the `malloc` or `pthread_create` inside it. `none` when `t` cannot make `c`. -/
def runSection (s : Sys) (t : Tid) (ok : Bool) : Call → Option (Except Fatal Sys)
  | .send data => match t with
    | .producer i => some (sendEntry s i data)
    | _ => none
  | .sendWait data id ticket => match t with
    | .producer i => some (sendWaitLoop s i data id ticket)
    | _ => none
  | .ping => match t with
    | .producer i => some (.ok (producerPing s i))
    | _ => none
  | .producerDone => match t with
    | .producer i => some (.ok (producerDone s i))
    | _ => none
  | .registerProducer caller => some (registerProducer s t caller ok)
  | .consumerClose caller => some (.ok (consumerClose s t caller))
  | .consumerLoop => some (consumerLoop s t ok)
  | .join => some (join s t)
  | .joinClose => some (.ok (joinClose s t))

end Sys
end CMpsc
