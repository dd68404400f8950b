import CMpsc.Shutdown

/-!
# No deadlock while the consumer elects

A state is stuck when no thread can take a step. In a stuck state the mutex
is free, and every thread waits, unsignalled, on a condition variable, waits
in a `pthread_join` of `mpsc_join` on a thread that has not exited, is idle,
or has exited. While error handling is disabled that happens only once
`mpsc_join` has returned: the consumer loop waits only on an open channel
with a free slot; `mpsc_join` then waits on the consumer, has marked the
channel joined, and some registered producer has not finished, since the
last one closes a joined channel (`mpsc.c:358-363`); that producer is blocked
in the wait loop of `mpsc_producer_send`, so the head of the queue has been
elected and signalled (`Handoff`). Once `mpsc_join` waits on a producer thread
the channel is closed, and a producer blocked in its wait loop has been
signalled. Whatever the error-handling mode, a stuck state in which
`mpsc_join` has not returned is therefore one in which the hand-off of
`mpsc.c:599-607` was lost: producers are queued on an open channel with a
free slot, and none is elected. With error handling enabled the run
`lost_wakeup_deadlock` reaches such a state, but only right after the
consumer's `my_malloc` has failed: its next callback follows a delivery, which
elects again (`Sys.Electing`).
-/

namespace CMpsc

/-- No thread can take a step. -/
def Sys.Stuck (s : Sys) : Prop := ∀ e, s.step e = none

/-- The steps of a shutdown: application code only returns, except that the
creator's program calls `mpsc_join`; a thread takes the mutex, or runs its
critical section with every `malloc` and `pthread_create` succeeding; or a
`pthread_join` of `mpsc_join` returns. -/
def Event.Drain : Event → Bool
  | .call t op => t == .main && op == .join
  | .ret _ | .acquire _ | .joined _ => true
  | .run _ ok => ok

/-- No step of a shutdown is enabled. -/
def Sys.Parked (s : Sys) : Prop := ∀ e, e.Drain = true → s.step e = none

theorem Sys.Stuck.parked {s : Sys} (hs : s.Stuck) : s.Parked := fun e _ => hs e

section Progress

variable {s : Sys}

/-! ### What a parked state looks like -/

theorem Sys.Parked.owner (hs : s.Parked) (hl : Lifecycle s) : s.owner = none := by
  cases ho : s.owner with
  | none => rfl
  | some t =>
    obtain ⟨c, hown⟩ := (hl.owner_iff t).1 ho
    have hk := hl.runsOn_owns hown
    have hr := hs (.run t true) rfl
    simp only [Sys.step, hown] at hr
    cases c <;> first
      | (obtain ⟨i, rfl⟩ := hk; simp [Sys.runSection] at hr)
      | simp [Sys.runSection] at hr

/-- A thread blocked on a condition variable in a parked state has not been signalled. -/
theorem Sys.Parked.not_woken (hs : s.Parked) (hl : Lifecycle s) {t : Tid} {c : Call}
    (hc : s.pc t = .wait c) : s.woken t = false := by
  cases hw : s.woken t
  · rfl
  · have := hs (.acquire t) rfl; simp [Sys.step, hs.owner hl, hc, hw] at this

/-- In a parked state a thread is exited, idle, blocked unsignalled on a
condition variable, or in one of the `pthread_join` calls of `mpsc_join`. -/
theorem Sys.Parked.blocked (hs : s.Parked) (hl : Lifecycle s) (t : Tid) :
    s.pc t = .exited ∨ s.pc t = .idle ∨ (∃ c, s.pc t = .wait c ∧ s.woken t = false) ∨
      s.pc t = .joinConsumer ∨ ∃ k, s.pc t = .joinProducers k := by
  have ho := hs.owner hl
  cases hp : s.pc t with
  | exited => exact .inl rfl
  | idle => exact .inr (.inl rfl)
  | joinConsumer => exact .inr (.inr (.inr (.inl rfl)))
  | joinProducers k => exact .inr (.inr (.inr (.inr ⟨k, rfl⟩)))
  | wait c => exact .inr (.inr (.inl ⟨c, rfl, hs.not_woken hl hp⟩))
  | lock c => have := hs (.acquire t) rfl; simp [Sys.step, ho, hp] at this
  | owns c => have := (hl.owner_iff t).2 ⟨c, hp⟩; rw [ho] at this; cases this
  | user code r =>
    cases code
    case program =>
      obtain rfl : t = .main := by have := hl.kinds t; rwa [hp] at this
      have := hs (.call .main .join) rfl; simp [Sys.step, hp, UserCode.enter] at this
    all_goals have := hs (.ret t) rfl; simp [Sys.step, hp, UserCode.leave] at this

/-- A thread blocked in a parked state waits for a condition that does not hold. -/
theorem Sys.Parked.guard_false (hs : s.Parked) (hl : Lifecycle s) (hw : WakeInv s) {t : Tid}
    {c : Call} (hc : s.pc t = .wait c) : s.waitGuard c = false := by
  cases hg : s.waitGuard c
  · rfl
  · have := hs.not_woken hl hc; rw [hw t c hc hg] at this; cases this

/-- A registered producer of a parked state that has not exited is blocked
unsignalled in the wait loop of `mpsc_producer_send`. -/
theorem Sys.Parked.producer_waits (hs : s.Parked) (hl : Lifecycle s) (hj : JoinInv s) {i : Nat}
    (hi : i < s.mpsc.producerCount) (hne : s.pc (.producer i) ≠ .exited) :
    ∃ data id ticket, s.pc (.producer i) = .wait (.sendWait data id ticket) ∧
      s.woken (.producer i) = false := by
  have hk := hl.kinds (.producer i)
  rcases hs.blocked hl (.producer i) with h | h | ⟨c, hc, hn⟩ | h | ⟨k, h⟩
  · exact absurd h hne
  · exact absurd h (hj.started i hi)
  · have hcv := hl.waits _ _ hc
    rw [hc] at hk
    cases c <;> simp [Call.cv, Pc.runsOn, Call.runsOn] at hcv hk
    exact ⟨_, _, _, hc, hn⟩
  all_goals rw [h] at hk; simp [Pc.runsOn] at hk

/-- The consumer of a parked state that has not exited is blocked in its loop. -/
theorem Sys.Parked.consumer_waits (hs : s.Parked) (hl : Lifecycle s)
    (hce : s.pc .consumer ≠ .exited) : s.pc .consumer = .wait .consumerLoop := by
  have hkc := hl.kinds .consumer
  rcases hs.blocked hl .consumer with h | h | ⟨c, hc, -⟩ | h | ⟨k, h⟩
  · exact absurd h hce
  all_goals try (rw [h] at hkc; simp [Pc.runsOn] at hkc)
  have hcv := hl.waits _ _ hc
  rw [hc] at hkc
  cases c <;> simp [Call.cv, Pc.runsOn, Call.runsOn] at hcv hkc
  exact hc

/-- A parked state in which `mpsc_join` has not returned has lost the hand-off:
the consumer waits on an open channel with a free slot while `mpsc_join` waits
for it, some registered producer is blocked in its wait loop, and since the head
of the queue would be blocked with its condition holding if it were elected,
none is. -/
theorem Sys.Parked.lost_handoff (hs : s.Parked) (h : Reachable s) (hm : s.pc .main ≠ .exited) :
    s.mpsc.closed = false ∧ s.mpsc.pendingMessage = false ∧ 0 < s.mpsc.nProducersWaiting ∧
      s.mpsc.nextWaitingProducerId = -1 := by
  have hl := reachable_lifecycle h
  have hq := reachable_queueInv h
  have hw := reachable_wakeInv h
  have hj := reachable_joinInv h
  have ho := hs.owner hl
  have hkm := hl.kinds .main
  rcases hs.blocked hl .main with hx | hx | ⟨c, hx, -⟩ | hx | ⟨k, hx⟩
  · exact absurd hx hm
  · rw [hx] at hkm; simp [Pc.runsOn] at hkm
  · have hcv := hl.waits _ _ hx
    rw [hx] at hkm
    cases c <;> simp [Call.cv, Pc.runsOn, Call.runsOn] at hcv hkm
  · -- `mpsc_join` waits on the consumer thread, which is blocked on an open empty channel
    have hce : s.pc .consumer ≠ .exited := fun hce => by
      have := hs (.joined .main) rfl; simp [Sys.step, hx, hce] at this
    have hg := hs.guard_false hl hw (hs.consumer_waits hl hce)
    simp only [Sys.waitGuard, Bool.or_eq_false_iff] at hg
    -- the channel is joined and open, so some registered producer has not finished
    have hnc : s.mpsc.nProducersClosed ≠ s.mpsc.producerCount := fun hn => by
      have := hl.joined_closed (hj.joined (by rw [hx]; rfl)) hn; rw [hg.2] at this; cases this
    obtain ⟨i, hi, hd⟩ : ∃ i < s.mpsc.producerCount, (s.mpsc.producers i).done = false := by
      by_contra hall
      push_neg at hall
      exact hnc (hl.closed_count.trans ((doneCount_eq_iff _ _).2 fun i hi => by
        simpa using hall i hi))
    have hne : s.pc (.producer i) ≠ .exited := fun hx => by
      rw [(hl.done_iff i hi).2 hx] at hd; cases hd
    obtain ⟨data, id, ticket, hpw, -⟩ := hs.producer_waits hl hj hi hne
    have hwp := hq.waiting_pos hl hg.2 hpw
    refine ⟨hg.2, hg.1, hwp, hq.next.resolve_right fun ⟨_, hnext⟩ => ?_⟩
    obtain ⟨j, c', hjw, hjg⟩ := hq.head_blocked hl ho hg.2 hwp hnext
    rw [hs.guard_false hl hw hjw] at hjg
    cases hjg
  · -- `mpsc_join` waits on a producer thread of a closed channel
    exfalso
    obtain ⟨hclosed, -⟩ := hl.join_loop k hx
    have hkc : k < s.mpsc.producerCount := by
      by_contra hkc
      have := hs (.joined .main) rfl; simp [Sys.step, hx, hkc] at this
    have hne : s.pc (.producer k) ≠ .exited := fun he => by
      have := hs (.joined .main) rfl; simp [Sys.step, hx, hkc, hl.thread_ids k hkc, he] at this
    obtain ⟨data, id, ticket, hpw, -⟩ := hs.producer_waits hl hj hkc hne
    have hg := hs.guard_false hl hw hpw
    simp [Sys.waitGuard, hclosed] at hg

/-- While the consumer elects, a reachable state in which no step of a shutdown
is enabled is one in which `mpsc_join` has returned. -/
theorem Sys.Parked.main_exited (hs : s.Parked) (h : Reachable s) (he : s.Electing) :
    s.pc .main = .exited := by
  by_contra hm
  obtain ⟨hc, hp, hw, hn⟩ := hs.lost_handoff h hm
  exact reachable_handoffInv h he hc hp hw hn

end Progress

/-- A reachable state from which no thread can go on, while `mpsc_join` has not
returned, has lost the hand-off: the channel is open, the slot free, producers
are queued, and none is elected. -/
theorem stuck_before_join_returns {s : Sys} (h : Reachable s) (hs : s.Stuck)
    (hm : s.pc .main ≠ .exited) :
    s.mpsc.closed = false ∧ s.mpsc.pendingMessage = false ∧ 0 < s.mpsc.nProducersWaiting ∧
      s.mpsc.nextWaitingProducerId = -1 :=
  hs.parked.lost_handoff h hm

theorem stuck_before_join_returns_after_lost_wakeup :
    ∃ s, errorHandlingChannel.run lostWakeupRun = some s ∧ Reachable s ∧ s.Stuck ∧
      s.pc .main ≠ .exited ∧
      (s.mpsc.closed = false ∧ s.mpsc.pendingMessage = false ∧ 0 < s.mpsc.nProducersWaiting ∧
        s.mpsc.nextWaitingProducerId = -1) := by
  have hr : Reachable errorHandlingChannel := .init _ _ _ _ rfl rfl
  have hs := @Reachable.run _ _ hr lostWakeupRun rfl
  have hstuck : Sys.Stuck _ := step_none_of_disabled (reachable_lifecycle hs) (by decide)
  exact ⟨_, rfl, hs, hstuck, by decide, stuck_before_join_returns hs hstuck (by decide)⟩

/-- While error handling is disabled, a reachable state is stuck exactly when
`mpsc_join` has returned. -/
theorem stuck_iff_join_returned {s : Sys} (h : Reachable s)
    (he : s.mpsc.errorHandlingEnabled = false) : s.Stuck ↔ s.pc .main = .exited :=
  ⟨fun hs => hs.parked.main_exited h (.inl he),
    fun hm => step_none_of_quiet (reachable_lifecycle h) (quiet_of_join_returned h hm)⟩

theorem stuck_iff_join_returned_after_shutdownRun :
    ∃ s, noErrorHandlingChannel.run shutdownRun = some s ∧ Reachable s ∧
      s.mpsc.errorHandlingEnabled = false ∧ s.pc .main = .exited ∧ s.Stuck := by
  have hr : Reachable noErrorHandlingChannel := .init _ _ _ _ rfl rfl
  have hs := @Reachable.run _ _ hr shutdownRun rfl
  exact ⟨_, rfl, hs, rfl, rfl, (stuck_iff_join_returned hs rfl).2 rfl⟩

/-- In either mode, a reachable state in which the consumer elects is stuck
exactly when `mpsc_join` has returned: the deadlock of `lost_wakeup_deadlock`
needs the failed allocation to be the last thing the consumer reported. -/
theorem stuck_iff_join_returned_of_last_callback {s : Sys} (h : Reachable s) (he : s.Electing) :
    s.Stuck ↔ s.pc .main = .exited :=
  ⟨fun hs => hs.parked.main_exited h he,
    fun hm => step_none_of_quiet (reachable_lifecycle h) (quiet_of_join_returned h hm)⟩

/-- `overtakingRun` up to the delivery after the failed allocation is not stuck. -/
theorem stuck_iff_join_returned_of_last_callback_after_recovery :
    ∃ s, errorHandlingChannel.run (overtakingRun.take 20) = some s ∧ Reachable s ∧
      Invocation.consumerErrorCallback ∈ s.invocations ∧ ¬ s.Stuck := by
  have hr : Reachable errorHandlingChannel := .init _ _ _ _ rfl rfl
  have hs := @Reachable.run _ _ hr (overtakingRun.take 20) rfl
  exact ⟨_, rfl, hs, by decide, fun hst =>
    absurd ((stuck_iff_join_returned_of_last_callback hs (.inr (by decide))).1 hst) (by decide)⟩

end CMpsc
