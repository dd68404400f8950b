import CMpsc.Delivery
import CMpsc.Wakeup

/-!
# The hand-off of the slot

The consumer loop frees the slot and elects the head of the wait queue in one
critical section (`mpsc.c:595-618`); the elected producer shifts the queue and
writes the slot in another (`mpsc.c:317-343`). So while error handling is
disabled, or unless the consumer's latest callback reported a failed
allocation, an open channel whose slot is free and whose queue is not empty
has elected a producer, and some blocked thread can go on.

When the consumer thread cannot allocate the copy of a message and error
handling is enabled (`mpsc.c:599-607`), it clears the slot and goes on to the
error callback without the election of lines 613-618. A producer queued behind
that message is then neither elected nor signalled: with nothing else to send
it, the producer, the consumer and `mpsc_join` block for ever; and a producer
whose call enters the lock later finds the slot free and nobody elected, and
writes ahead of the queued one. Both runs below start from a channel created
with error handling enabled, a one-byte slot and two producer slots.
-/

namespace CMpsc

/-- Whether thread `t` might take a step. -/
def Sys.enabled (s : Sys) (t : Tid) : Bool :=
  match s.pc t with
  | .idle | .exited => false
  | .wait _ => s.woken t
  | .joinConsumer => s.pc .consumer == .exited
  | _ => true

/-- The threads of the channel: the creator, the consumer and the registered producers. -/
def Sys.threads (s : Sys) : List Tid :=
  .main :: .consumer :: (List.range s.mpsc.producerCount).map .producer

/-- A state in which no thread of the channel might take a step takes none. -/
theorem step_none_of_disabled {s : Sys} (hl : Lifecycle s)
    (h : ∀ t ∈ s.threads, s.enabled t = false) (e : Event) : s.step e = none := by
  have hd : ∀ t, s.enabled t = false := by
    intro t
    by_cases ht : t ∈ s.threads
    · exact h t ht
    · cases t with
      | main | consumer => simp [Sys.threads] at ht
      | producer i =>
        have hi : s.mpsc.producerCount ≤ i := by
          by_contra hlt
          exact ht (List.mem_cons_of_mem _ (List.mem_cons_of_mem _
            (List.mem_map.2 ⟨i, List.mem_range.2 (by omega), rfl⟩)))
        simp [Sys.enabled, hl.idle i hi]
  cases e with
  | call t _ | ret t | acquire t | run t _ | joined t =>
    have := hd t
    unfold Sys.enabled at this
    simp only [Sys.step]
    split <;> simp_all

/-! ### The hand-off until an allocation fails -/

/-- The consumer loop elected when it last took a message (`mpsc.c:599-618`). -/
def Sys.Electing (s : Sys) : Prop :=
  s.mpsc.errorHandlingEnabled = false ∨
    s.invocations.getLast? ≠ some .consumerErrorCallback

/-- No `my_malloc` of the consumer loop has failed with error handling enabled. -/
def Sys.NoFailedMalloc (s : Sys) : Prop :=
  s.mpsc.errorHandlingEnabled = false ∨ Invocation.consumerErrorCallback ∉ s.invocations

theorem Sys.NoFailedMalloc.electing {s : Sys} (h : s.NoFailedMalloc) : s.Electing :=
  h.imp_right fun hi hl => hi (List.mem_of_getLast?_eq_some hl)

theorem Sys.NoFailedMalloc.back {s s' : Sys} (h : s'.NoFailedMalloc)
    (heh : s'.mpsc.errorHandlingEnabled = s.mpsc.errorHandlingEnabled)
    (hinv : s.invocations ⊆ s'.invocations) : s.NoFailedMalloc :=
  h.imp heh.symm.trans fun hi hs => hi (hinv hs)

/-- While the consumer elects, an open channel with a free slot and a queue has an election. -/
def HandoffInv (s : Sys) : Prop :=
  s.Electing → s.mpsc.closed = false → s.mpsc.pendingMessage = false →
    0 < s.mpsc.nProducersWaiting → s.mpsc.nextWaitingProducerId ≠ -1

/-- The fields of `struct mpsc_s` the hand-off reads, besides `closed`. -/
def Sys.handoffView (s : Sys) : Bool × QueueView := (s.mpsc.errorHandlingEnabled, s.queueView)

section Handoff

variable {s s' : Sys}

theorem HandoffInv.frame (h : HandoffInv s) (hv : s'.handoffView = s.handoffView)
    (hinv : s'.invocations = s.invocations)
    (hopen : s'.mpsc.closed = false → s.mpsc.closed = false) : HandoffInv s' := by
  simp only [Sys.handoffView, Sys.queueView, Prod.mk.injEq, QueueView.mk.injEq] at hv
  obtain ⟨heh, hwait, -, hnext, hpend⟩ := hv
  intro he hc hp hw
  rw [hnext]
  exact h (by rwa [Sys.Electing, ← heh, ← hinv]) (hopen hc) (hpend ▸ hp) (hwait ▸ hw)

theorem HandoffInv.of_pending (hp : s.mpsc.pendingMessage = true) : HandoffInv s :=
  fun _ _ h => absurd hp (by simp [h])

/-- The elected producer's shift and deposit leave a message pending. -/
theorem pending_of_shift_deposit {m : Mpsc} {i ticket : Nat} {data : Bytes}
    (he : (mpscShiftProducerWaitQueue m).map
      (fun m => Sys.deposit { s with mpsc := m } i data ticket true) = .ok s') :
    s'.mpsc.pendingMessage = true := by
  cases hs : mpscShiftProducerWaitQueue m <;>
    simp only [hs, Except.map, reduceCtorEq, Except.ok.injEq] at he
  subst he
  rfl

theorem handoffInv_sendWaitLoop {i id ticket : Nat} {data : Bytes} (h : HandoffInv s)
    (he : s.sendWaitLoop i data id ticket = .ok s') : HandoffInv s' := by
  unfold Sys.sendWaitLoop at he
  split_ifs at he
  · cases he; exact h.frame rfl rfl fun hc => hc
  · cases he; exact h.frame rfl rfl fun hc => hc
  · exact .of_pending (pending_of_shift_deposit he)

theorem handoffInv_sendEntry {i : Nat} {data : Bytes} (h : HandoffInv s)
    (he : s.sendEntry i data = .ok s') : HandoffInv s' := by
  rcases Sys.sendEntry_cases he with ⟨-, ⟨-, rfl⟩ | ⟨hc, h3, m, j, hsub, he⟩ | ⟨-, -, -, rfl⟩⟩
  · exact h.frame rfl rfl id
  · -- slot busy or a producer elected: subscribe, then block
    obtain ⟨rfl, -, -, rfl⟩ := subscribe_ok hsub
    unfold Sys.sendWaitLoop at he
    split_ifs at he with h4 h5
    · cases he
      intro _ _ hp _
      dsimp only [Sys.condWait] at hp ⊢
      simpa [hp] using h3
    · exact nomatch hc.symm.trans h5
    · exact .of_pending (pending_of_shift_deposit he)
  · exact .of_pending rfl

theorem handoffInv_consumerLoop {t : Tid} {ok : Bool} (h : HandoffInv s)
    (he : s.consumerLoop t ok = .ok s') : HandoffInv s' := by
  rcases Sys.consumerLoop_cases he with ⟨-, -, rfl⟩ | ⟨-, hcl, rfl⟩ | ⟨-, -, -, heh, rfl⟩ |
    ⟨-, -, rfl⟩ | ⟨-, -, rfl⟩
  · exact h.frame rfl rfl id
  · exact fun _ hc => nomatch hcl.symm.trans hc
  · -- the failure is logged last, and reported only with error handling enabled
    exact fun hE => hE.elim (fun he' => nomatch heh.symm.trans he')
      fun hi => absurd (List.getLast?_concat _) hi
  all_goals
    -- delivery, then the election of the head of the queue
    rw [Sys.elect_eq]
    intro _ hc _ hw
    dsimp only [Sys.setPc, Sys.unlock] at hc hw ⊢
    rw [if_pos (by simp only [hc, hw, decide_True, Bool.not_false, Bool.and_self])]
    omega

theorem handoffInv_runSection {t : Tid} {ok : Bool} {c : Call} (hl : Lifecycle s)
    (h : HandoffInv s) (hown : s.pc t = .owns c) (he : s.runSection t ok c = some (.ok s')) :
    HandoffInv s' := by
  have hopen := (lifecycle_runSection hl hown he).keeps.open_of_open
  rcases Sys.runSection_cases he with ⟨i, data, rfl, rfl, hr⟩ | ⟨i, data, j, ticket, rfl, rfl, hr⟩ |
    ⟨i, rfl, rfl, hr⟩ | ⟨i, rfl, rfl, hr⟩ | ⟨caller, rfl, hr⟩ | ⟨caller, rfl, hr⟩ |
    ⟨rfl, hr⟩ | ⟨rfl, hr⟩ | ⟨rfl, hr⟩
  · exact handoffInv_sendEntry h hr.symm
  · exact handoffInv_sendWaitLoop h hr.symm
  · cases hr; exact h.frame rfl rfl hopen
  · cases hr
    refine h.frame ?_ ?_ hopen <;>
    · unfold Sys.producerDone
      dsimp only
      split_ifs <;> rfl
  · rcases Sys.registerProducer_cases hr.symm with ⟨-, rfl⟩ | ⟨-, -, rfl⟩ | ⟨-, -, -, rfl⟩ | ⟨-, -, -, -, rfl⟩ <;>
      exact h.frame rfl rfl hopen
  · cases hr
    refine h.frame ?_ ?_ hopen <;>
    · unfold Sys.consumerClose
      dsimp only
      rw [Sys.signalWaiting_eq]
      rfl
  · exact handoffInv_consumerLoop h hr.symm
  · rcases Sys.join_cases hr.symm with ⟨-, -, ⟨-, rfl⟩ | ⟨-, rfl⟩⟩ <;> exact h.frame rfl rfl hopen
  · cases hr; exact h.frame rfl rfl hopen

theorem handoffInv_step {e : Event} (hl : Lifecycle s) (h : HandoffInv s)
    (he : s.step e = some (.ok s')) : HandoffInv s' := by
  cases e with
  | call t op => obtain ⟨-, -, -, -, -, rfl⟩ := Sys.step_call he; exact h.frame rfl rfl id
  | ret t => obtain ⟨-, -, -, -, -, rfl⟩ := Sys.step_ret he; exact h.frame rfl rfl id
  | acquire t => obtain ⟨-, -, -, rfl⟩ := Sys.step_acquire he; exact h.frame rfl rfl id
  | run t ok =>
    obtain ⟨c, hown, hr⟩ := Sys.step_run he
    exact handoffInv_runSection hl h hown hr
  | joined t =>
    rcases Sys.step_joined he with ⟨-, -, rfl⟩ | ⟨-, -, -, -, -, -, rfl⟩ | ⟨-, -, -, rfl⟩ <;>
      exact h.frame rfl rfl id

theorem reachable_handoffInv (h : Reachable s) : HandoffInv s := by
  induction h with
  | init p buffer producers queue => exact fun _ _ _ hw => absurd hw (Nat.lt_irrefl 0)
  | step e hr he ih => exact handoffInv_step (reachable_lifecycle hr) ih he

/-- With the mutex free, a queued producer of an open channel is blocked in its wait loop. -/
theorem QueueInv.blocked_of_mem (hl : Lifecycle s) (hq : QueueInv s) (ho : s.owner = none)
    (hc : s.mpsc.closed = false) {j : Nat} (hj : j ∈ waitQueue s.mpsc) :
    ∃ data ticket, s.pc (.producer j) = .wait (.sendWait data j ticket) := by
  obtain ⟨⟨id, ticket⟩, hw⟩ := Option.isSome_iff_exists.1 ((hq.members hc j).1 hj)
  obtain ⟨hid, -⟩ := hq.slot j id ticket hw
  have hno : ∀ c, s.pc (.producer j) ≠ .owns c := fun c hown => by
    simpa [ho] using (hl.owner_iff _).2 ⟨c, hown⟩
  rw [hid] at hw
  generalize s.pc (.producer j) = p at hw hno ⊢
  cases p with
  | wait c =>
    cases c <;> simp only [Pc.waitCall, reduceCtorEq, Option.some.injEq, Prod.mk.injEq] at hw
    obtain ⟨rfl, rfl⟩ := hw
    exact ⟨_, _, rfl⟩
  | owns c => exact absurd rfl (hno c)
  | _ => cases hw

theorem QueueInv.waiting_pos (hl : Lifecycle s) (hq : QueueInv s) (hc : s.mpsc.closed = false)
    {i : Nat} {c : Call} (hi : s.pc (.producer i) = .wait c) : 0 < s.mpsc.nProducersWaiting := by
  obtain ⟨data, id, ticket, rfl⟩ : ∃ data id ticket, c = .sendWait data id ticket := by
    have hcv := hl.waits _ _ hi
    cases c <;> simp [Call.cv] at hcv
    · exact ⟨_, _, _, rfl⟩
    · exact absurd (hl.consumer_of_wait hi) nofun
  obtain ⟨k, hk, -⟩ := (mem_waitQueue _ _).1 ((hq.members hc i).2 (by rw [hi]; rfl))
  omega

theorem QueueInv.head_blocked (hl : Lifecycle s) (hq : QueueInv s) (ho : s.owner = none)
    (hc : s.mpsc.closed = false) (hw : 0 < s.mpsc.nProducersWaiting)
    (hnext : s.mpsc.nextWaitingProducerId = s.mpsc.producerWaitingIdsQueue 0) :
    ∃ j c, s.pc (.producer j) = .wait c ∧ s.waitGuard c = true := by
  obtain ⟨data, ticket, hhead⟩ :=
    hq.blocked_of_mem hl ho hc ((mem_waitQueue _ _).2 ⟨0, hw, rfl⟩)
  exact ⟨_, _, hhead, by simp [Sys.waitGuard, hnext]⟩

theorem QueueInv.elected_blocked (hl : Lifecycle s) (hq : QueueInv s) (hh : HandoffInv s)
    (he : s.Electing) (ho : s.owner = none)
    (hc : s.mpsc.closed = false) (hp : s.mpsc.pendingMessage = false) {i : Nat} {c : Call}
    (hi : s.pc (.producer i) = .wait c) :
    ∃ j c', s.pc (.producer j) = .wait c' ∧ s.waitGuard c' = true :=
  have hw := hq.waiting_pos hl hc hi
  hq.head_blocked hl ho hc hw (hq.next.resolve_left (hh he hc hp hw)).2

end Handoff

/-- While the consumer elects the hand-off is never lost. -/
theorem Reachable.handoff {s : Sys} (h : Reachable s) (he : s.Electing) :
    (s.mpsc.closed = false → s.mpsc.pendingMessage = false → 0 < s.mpsc.nProducersWaiting →
      s.mpsc.nextWaitingProducerId = s.mpsc.producerWaitingIdsQueue 0) ∧
    (s.owner = none → ∀ i c, s.pc (.producer i) = .wait c →
      s.waitGuard .consumerLoop = true ∨
        ∃ j c', s.pc (.producer j) = .wait c' ∧ s.waitGuard c' = true) := by
  have hl := reachable_lifecycle h
  have hq := reachable_queueInv h
  have hnext : s.mpsc.closed = false → s.mpsc.pendingMessage = false →
      0 < s.mpsc.nProducersWaiting →
      s.mpsc.nextWaitingProducerId = s.mpsc.producerWaitingIdsQueue 0 := fun hc hp hw =>
    ((hq.next.resolve_left (reachable_handoffInv h he hc hp hw))).2
  refine ⟨hnext, fun ho i c hi => ?_⟩
  cases hc : s.mpsc.closed
  case true => exact .inl (by simp [Sys.waitGuard, hc])
  cases hp : s.mpsc.pendingMessage
  case true => exact .inl (by simp [Sys.waitGuard, hp])
  exact .inr (hq.elected_blocked hl (reachable_handoffInv h) he ho hc hp hi)

/-- Without error handling the hand-off is never lost. -/
theorem handoff_without_error_handling {s : Sys} (h : Reachable s)
    (he : s.mpsc.errorHandlingEnabled = false) :
    (s.mpsc.closed = false → s.mpsc.pendingMessage = false → 0 < s.mpsc.nProducersWaiting →
      s.mpsc.nextWaitingProducerId = s.mpsc.producerWaitingIdsQueue 0) ∧
    (s.owner = none → ∀ i c, s.pc (.producer i) = .wait c →
      s.waitGuard .consumerLoop = true ∨
        ∃ j c', s.pc (.producer j) = .wait c' ∧ s.waitGuard c' = true) :=
  h.handoff (.inl he)

theorem handoff_without_error_handling_after_election :
    ∃ s, noErrorHandlingChannel.run electionRun = some s ∧ Reachable s ∧
      s.mpsc.errorHandlingEnabled = false ∧ s.mpsc.closed = false ∧
      s.mpsc.pendingMessage = false ∧ 0 < s.mpsc.nProducersWaiting ∧
      s.mpsc.nextWaitingProducerId = s.mpsc.producerWaitingIdsQueue 0 := by
  have hr : Reachable noErrorHandlingChannel := .init _ _ _ _ rfl rfl
  have hs := @Reachable.run _ _ hr electionRun rfl
  exact ⟨_, rfl, hs, rfl, rfl, rfl, by decide,
    (handoff_without_error_handling hs rfl).1 rfl rfl (by decide)⟩

/-! ### The hand-off lost after an allocation failure -/

/-- The creator registers two producers; producer 0 writes `[7]`; producer 1 finds
the slot busy and queues (ticket 1); the consumer's `my_malloc` fails; both go
back to waiting, producer 0 finishes, and the creator calls `mpsc_join`. -/
def lostWakeupRun : List Event :=
  [.call .main .registerProducer, .acquire .main, .run .main true,
   .call .main .registerProducer, .acquire .main, .run .main true,
   .call (.producer 0) (.send [7]), .acquire (.producer 0), .run (.producer 0) true,
   .call (.producer 1) (.send [8]), .acquire (.producer 1), .run (.producer 1) true,
   .acquire .consumer, .run .consumer false,
   .ret .consumer, .acquire .consumer, .run .consumer true,
   .ret (.producer 0), .acquire (.producer 0), .run (.producer 0) true,
   .call .main .join, .acquire .main, .run .main true]

/-- After the failed allocation the mutex is free, the channel open, the slot
empty and producer 1 queued, but nobody is elected; producer 1 and the consumer
are blocked on conditions that do not hold, and no thread can take a step. -/
theorem lost_wakeup_deadlock :
    ∃ s, errorHandlingChannel.run lostWakeupRun = some s ∧ Reachable s ∧
      (s.owner = none ∧ s.mpsc.closed = false ∧ s.mpsc.pendingMessage = false ∧
        0 < s.mpsc.nProducersWaiting ∧ s.mpsc.nextWaitingProducerId = -1 ∧
        s.mpsc.producerWaitingIdsQueue 0 = 1 ∧
        s.pc (.producer 1) = .wait (.sendWait [8] 1 1) ∧ s.waitGuard (.sendWait [8] 1 1) = false ∧
        s.pc .consumer = .wait .consumerLoop ∧ s.waitGuard .consumerLoop = false) ∧
      ∀ e, s.step e = none := by
  have hr : Reachable errorHandlingChannel := .init _ _ _ _ rfl rfl
  have hs := @Reachable.run _ _ hr lostWakeupRun rfl
  exact ⟨_, rfl, hs, by decide, step_none_of_disabled (reachable_lifecycle hs) (by decide)⟩

/-- As in the run above up to the failed allocation; then producer 0 sends `[9]`
(ticket 2) and writes it into the free slot; the consumer delivers `[9]` and
elects producer 1, which writes `[8]` last. -/
def overtakingRun : List Event :=
  [.call .main .registerProducer, .acquire .main, .run .main true,
   .call .main .registerProducer, .acquire .main, .run .main true,
   .call (.producer 0) (.send [7]), .acquire (.producer 0), .run (.producer 0) true,
   .call (.producer 1) (.send [8]), .acquire (.producer 1), .run (.producer 1) true,
   .acquire .consumer, .run .consumer false,
   .call (.producer 0) (.send [9]), .acquire (.producer 0), .run (.producer 0) true,
   .ret .consumer, .acquire .consumer, .run .consumer true,
   .acquire (.producer 1), .run (.producer 1) true]

/-- Producer 1 subscribed in its call of ticket 1, before producer 0's call of
ticket 2 entered the lock; both calls return `true`, and producer 0's payload is
written, and taken by the consumer, before producer 1's. -/
theorem subscriber_overtaken :
    ∃ s, errorHandlingChannel.run overtakingRun = some s ∧ Reachable s ∧
      s.written = [⟨0, 0, false, [7]⟩, ⟨0, 2, false, [9]⟩, ⟨1, 1, true, [8]⟩] ∧
      s.taken = [[7], [9]] ∧
      s.pc (.producer 0) = .user .producerCallback (.send true) ∧
      s.pc (.producer 1) = .user .producerCallback (.send true) := by
  have hr : Reachable errorHandlingChannel := .init _ _ _ _ rfl rfl
  exact ⟨_, rfl, @Reachable.run _ _ hr overtakingRun rfl, by decide⟩

/-- In either mode, the hand-off is lost only between a failed `my_malloc` of the
consumer and its next callback: the next delivery elects the head of the queue again. -/
theorem handoff_of_last_callback {s : Sys} (h : Reachable s) (he : s.Electing) :
    (s.mpsc.closed = false → s.mpsc.pendingMessage = false → 0 < s.mpsc.nProducersWaiting →
      s.mpsc.nextWaitingProducerId = s.mpsc.producerWaitingIdsQueue 0) ∧
    (s.owner = none → ∀ i c, s.pc (.producer i) = .wait c →
      s.waitGuard .consumerLoop = true ∨
        ∃ j c', s.pc (.producer j) = .wait c' ∧ s.waitGuard c' = true) :=
  h.handoff he

/-- `overtakingRun` up to the delivery of `[9]`: the allocation failed, and the
next delivery elected producer 1, still queued. -/
theorem handoff_of_last_callback_after_recovery :
    ∃ s, errorHandlingChannel.run (overtakingRun.take 20) = some s ∧ Reachable s ∧
      Invocation.consumerErrorCallback ∈ s.invocations ∧ s.mpsc.closed = false ∧
      s.mpsc.pendingMessage = false ∧ 0 < s.mpsc.nProducersWaiting ∧
      s.mpsc.nextWaitingProducerId = s.mpsc.producerWaitingIdsQueue 0 := by
  have hr : Reachable errorHandlingChannel := .init _ _ _ _ rfl rfl
  have hs := @Reachable.run _ _ hr (overtakingRun.take 20) rfl
  exact ⟨_, rfl, hs, by decide, rfl, rfl, by decide,
    (handoff_of_last_callback hs (.inr (by decide))).1 rfl rfl (by decide)⟩

end CMpsc
