import CMpsc.Handoff

/-!
# First in, first out without error handling

A producer that finds the slot busy or a producer elected subscribes to the
wait queue in the same critical section in which its call takes its ticket
(`mpsc.c:295-316`), and the queue is served from its head (`mpsc.c:412-428`,
`613-618`). With error handling disabled, or until the consumer's first failed
allocation, the slot is never left free with producers queued and nobody
elected (`HandoffInv`), so a call that enters the lock after a producer
subscribed queues behind it. The invariant: every
payload written so far comes from a call that entered the lock before every
producer still queued; hence a payload written by a producer that waited in
the queue follows every payload of a call that entered the lock later. The run
`subscriber_overtaken` shows both fail once an allocation failure skips the
election.
-/

namespace CMpsc

/-- The order of the writes: the tickets of the calls written so far are below
the clock; until an allocation fails they are below the ticket of every
producer queued in an open channel, and a call that waited in the queue writes
after every call written before it that entered the lock before it. -/
structure FifoInv (s : Sys) : Prop where
  ticket_lt : ∀ d ∈ s.written, d.ticket < s.clock
  queued : s.NoFailedMalloc → s.mpsc.closed = false →
    ∀ d ∈ s.written, ∀ j ∈ waitQueue s.mpsc, d.ticket < s.ticketOf j
  order : s.NoFailedMalloc →
    s.written.Pairwise fun d₁ d₂ => d₂.subscribed = true → d₁.ticket < d₂.ticket

section Fifo

variable {s s' : Sys}

theorem fifoInv_initial (p : CreateParams) (buffer : Bytes) (producers : Nat → Producer)
    (queue : Nat → Nat) : FifoInv (Sys.initial p buffer producers queue) where
  ticket_lt _ h := by cases h
  queued _ _ _ h := by cases h
  order _ := List.Pairwise.nil

/-- A step that writes nothing, moves no clock back and, while the channel stays
open, adds no producer to the queue and keeps the tickets of those in it. -/
theorem FifoInv.frame (h : FifoInv s) (hw : s'.written = s.written) (hclock : s.clock ≤ s'.clock)
    (hel : s'.NoFailedMalloc → s.NoFailedMalloc)
    (hopen : s'.mpsc.closed = false → s.mpsc.closed = false)
    (hq : s'.mpsc.closed = false → ∀ j ∈ waitQueue s'.mpsc,
      j ∈ waitQueue s.mpsc ∧ s'.ticketOf j = s.ticketOf j) : FifoInv s' where
  ticket_lt d hd := (h.ticket_lt d (hw ▸ hd)).trans_le hclock
  queued he hc d hd j hj := by
    obtain ⟨hj, ht⟩ := hq hc j hj
    rw [ht]
    exact h.queued (hel he) (hopen hc) d (hw ▸ hd) j hj
  order he := hw ▸ h.order (hel he)

/-- The frame of the sections that leave the queue data, the clock, the wait
loop and the log alone. -/
theorem FifoInv.of_queueFrame (h : FifoInv s) (hf : QueueFrame s s')
    (hw : s'.written = s.written)
    (heh : s'.mpsc.errorHandlingEnabled = s.mpsc.errorHandlingEnabled)
    (hinv : s'.invocations = s.invocations)
    (hopen : s'.mpsc.closed = false → s.mpsc.closed = false) : FifoInv s' := by
  obtain ⟨hv, hclock, hwc⟩ := hf
  simp only [Sys.queueView, QueueView.mk.injEq] at hv
  refine h.frame hw hclock.ge (·.back heh fun _ hx => hinv ▸ hx) hopen
    fun _ j hj => ⟨waitQueue_congr hv.1 hv.2.1 ▸ hj, ?_⟩
  rw [ticketOf_congr fun i => hwc (.producer i)]

/-- A deposit of a call with ticket `ticket` by a producer that is not queued,
below the ticket of every queued producer, or into an open channel with an
empty queue. -/
theorem FifoInv.deposit {i ticket : Nat} {data : Bytes} {sub : Bool} (h : FifoInv s)
    (ht : ticket < s.clock) (hni : i ∉ waitQueue s.mpsc)
    (hq : s.NoFailedMalloc → s.mpsc.closed = false → ∀ j ∈ waitQueue s.mpsc,
      ticket < s.ticketOf j)
    (hsub : sub = true → s.NoFailedMalloc → ∀ d ∈ s.written, d.ticket < ticket) :
    FifoInv (s.deposit i data ticket sub) := by
  have hticket : (s.deposit i data ticket sub).ticketOf = fun j =>
      if j = i then 0 else s.ticketOf j := by
    funext j
    simp only [Sys.ticketOf, deposit_pc, Function.update_apply, Tid.producer.injEq]
    split_ifs <;> rfl
  refine ⟨fun d hd => ?_, fun he hc d hd j hj => ?_, fun he => ?_⟩
  · rcases List.mem_append.1 hd with hd | hd
    · exact h.ticket_lt d hd
    · rw [List.mem_singleton.1 hd]; exact ht
  · have hji : j ≠ i := by rintro rfl; exact hni hj
    simp only [hticket, if_neg hji]
    rcases List.mem_append.1 hd with hd | hd
    · exact h.queued he hc d hd j hj
    · rw [List.mem_singleton.1 hd]; exact hq he hc j hj
  · refine List.pairwise_append.2 ⟨h.order he, List.pairwise_singleton _ _, fun d₁ hd₁ d₂ hd₂ hs => ?_⟩
    rw [List.mem_singleton.1 hd₂] at hs ⊢
    exact hsub hs he d₁ hd₁

theorem fifoInv_sendWaitLoop {i id ticket : Nat} {data : Bytes} (hq : QueueInv s) (h : FifoInv s)
    (hown : s.pc (.producer i) = .owns (.sendWait data id ticket))
    (he : s.sendWaitLoop i data id ticket = .ok s') : FifoInv s' := by
  have hslot := hq.slot i id ticket (by rw [hown]; rfl)
  unfold Sys.sendWaitLoop at he
  split_ifs at he with h1 h2
  · -- back to `pthread_cond_wait`: the call keeps its ticket
    cases he
    refine h.frame rfl le_rfl (fun he => he) (fun hc => hc) fun _ j hj => ⟨hj, ?_⟩
    rw [ticketOf_congr fun u =>
      waitCall_update (by rw [hown, Pc.waitCall_wait_owns]) (.producer u)]
  · -- closed while waiting
    cases he
    exact h.frame rfl le_rfl (fun he => he) (fun hc => hc) fun hc =>
      absurd (h2.symm.trans hc) (by decide)
  · -- elected: the head of the queue shifts it and writes
    simp only [Bool.and_eq_true, Bool.not_eq_true', bne_iff_ne, ne_eq, not_and, not_not] at h1 h2
    have hc : s.mpsc.closed = false := by simpa using h2
    obtain ⟨m, hs, hqe⟩ := hq.shift_head hown (h1 hc)
    obtain ⟨-, hm⟩ := shift_ok hs
    have hmeh : m.errorHandlingEnabled = s.mpsc.errorHandlingEnabled := by rw [hm]
    have hmc : m.closed = s.mpsc.closed := by rw [hm]
    simp only [hs, Except.map, Except.ok.injEq] at he
    subst he
    obtain ⟨rfl, hlt⟩ := hslot
    have hti : s.ticketOf id = ticket := by simp only [Sys.ticketOf, hown]; rfl
    have hord := hq.order hc
    rw [hqe, List.map_cons, List.pairwise_cons] at hord
    have hnd := hq.nodup
    rw [hqe, List.nodup_cons] at hnd
    have hmem : id ∈ waitQueue s.mpsc := by rw [hqe]; exact List.mem_cons_self _ _
    have hshift : FifoInv { s with mpsc := m } :=
      h.frame rfl le_rfl (·.back hmeh (List.Subset.refl _)) (hmc ▸ ·)
        fun _ j hj => ⟨hqe ▸ List.mem_cons_of_mem _ hj, rfl⟩
    refine hshift.deposit hlt hnd.1 (fun _ _ j hj => ?_) fun _ he d hd => ?_
    · rw [← hti]; exact hord.1 _ (List.mem_map_of_mem _ hj)
    · rw [← hti]; exact h.queued (he.back hmeh (List.Subset.refl _)) hc d hd id hmem

theorem fifoInv_sendEntry {i : Nat} {data : Bytes} (hq : QueueInv s) (hh : HandoffInv s) (h : FifoInv s) (hown : s.pc (.producer i) = .owns (.send data))
    (he : s.sendEntry i data = .ok s') : FifoInv s' := by
  have hni : (s.pc (.producer i)).waitCall = none := by rw [hown]; rfl
  have hleave : ∀ p : Pc, p.waitCall = none →
      (Sys.setPc s (.producer i) p).ticketOf = s.ticketOf := fun p hp =>
    ticketOf_congr fun u => waitCall_update (hp.trans hni.symm) (.producer u)
  rcases Sys.sendEntry_cases he with
    ⟨-, ⟨-, rfl⟩ | ⟨hc, -, m, j, hsub, he⟩ | ⟨hc, hp, hn, rfl⟩⟩
  · -- closed at entry
    exact h.frame rfl (Nat.le_succ _) id id fun _ j hj =>
      ⟨hj, congrFun (hleave (.user .producerCallback (.send false)) rfl) j⟩
  · -- subscribe, then block in the wait loop with ticket `clock`
    have hi : i ∉ waitQueue s.mpsc := hq.not_mem hc hni
    obtain ⟨hji, -, -, rfl⟩ := subscribe_ok hsub
    subst j
    unfold Sys.sendWaitLoop at he
    split_ifs at he with h4 h5
    · cases he
      refine ⟨fun d hd => Nat.lt_succ_of_lt (h.ticket_lt d hd), fun he hc' d hd j hj => ?_,
        h.order⟩
      simp only [Sys.condWait, waitQueue, waitQueue_push, List.mem_append,
        List.mem_singleton] at hj
      simp only [Sys.ticketOf, Sys.condWait_pc_eq, Function.update_apply, Tid.producer.injEq]
      rcases hj with hj | rfl
      · rw [if_neg (by rintro rfl; exact hi hj)]
        exact h.queued he hc d hd j hj
      · rw [if_pos rfl]; exact h.ticket_lt d hd
    · exact nomatch hc.symm.trans h5
    · -- the newcomer cannot be the elected producer: it was not queued
      simp only [hc, Bool.not_false, Bool.true_and, bne_iff_ne, ne_eq, not_not] at h4
      obtain ⟨hpos, hhead⟩ := hq.head_of_next h4
      exact absurd ((mem_waitQueue _ _).2 ⟨0, hpos, hhead⟩) hi
  · -- the slot is free and nobody elected, so the queue is empty
    have hempty : ∀ he : s.NoFailedMalloc, waitQueue s.mpsc = [] := fun he => by
      have : s.mpsc.nProducersWaiting = 0 := by
        by_contra hw
        exact hh he.electing hc hp (Nat.pos_of_ne_zero hw) hn
      simp [waitQueue, this]
    have htick : FifoInv { s with clock := s.clock + 1 } :=
      h.frame rfl (Nat.le_succ _) id id fun _ j hj => ⟨hj, rfl⟩
    refine htick.deposit (Nat.lt_succ_self _) (hq.not_mem hc hni) (fun he _ j hj => ?_) nofun
    simp [hempty he] at hj

theorem fifoInv_consumerLoop {t : Tid} {ok : Bool} (hl : Lifecycle s) (h : FifoInv s)
    (hown : s.pc t = .owns .consumerLoop) (he : s.consumerLoop t ok = .ok s') : FifoInv s' := by
  obtain rfl : t = .consumer := hl.runsOn_owns hown
  have ht : ∀ p : Pc, (Sys.setPc s .consumer p).ticketOf = s.ticketOf := fun p =>
    ticketOf_congr fun u => by simp [Function.update_apply]
  rcases Sys.consumerLoop_cases he with ⟨-, -, rfl⟩ | ⟨-, -, rfl⟩ | ⟨-, -, -, -, rfl⟩ |
    ⟨-, -, rfl⟩ | ⟨-, -, rfl⟩
  · exact h.frame rfl le_rfl id id fun _ j hj => ⟨hj, by
      simp only [Sys.ticketOf, Sys.condWait_pc_eq, Function.update_apply, reduceCtorEq, if_false]⟩
  -- the other iterations log a callback
  all_goals
    try rw [Sys.elect_eq]
    exact h.frame rfl le_rfl (·.back rfl (List.subset_append_left _ _)) id
      fun _ j hj => ⟨hj, congrFun (ht _) j⟩

theorem fifoInv_runSection {t : Tid} {ok : Bool} {c : Call} (hl : Lifecycle s) (hq : QueueInv s)
    (hh : HandoffInv s) (h : FifoInv s) (hown : s.pc t = .owns c)
    (he : s.runSection t ok c = some (.ok s')) : FifoInv s' := by
  have hopen := (lifecycle_runSection hl hown he).keeps.open_of_open
  rcases Sys.runSection_cases he with ⟨i, data, rfl, rfl, hr⟩ | ⟨i, data, j, ticket, rfl, rfl, hr⟩ |
    ⟨i, rfl, rfl, hr⟩ | ⟨i, rfl, rfl, hr⟩ | ⟨caller, rfl, hr⟩ | ⟨caller, rfl, hr⟩ |
    ⟨rfl, hr⟩ | ⟨rfl, hr⟩ | ⟨rfl, hr⟩
  · exact fifoInv_sendEntry hq hh h hown hr.symm
  · exact fifoInv_sendWaitLoop hq h hown hr.symm
  · cases hr
    exact h.of_queueFrame (queueFrame_update rfl rfl rfl (by rw [hown]; rfl)) rfl rfl rfl hopen
  · cases hr
    have hf := queueFrame_producerDone hown
    refine h.of_queueFrame hf ?_ ?_ ?_ hopen <;>
      (unfold Sys.producerDone; dsimp only; split_ifs <;> rfl)
  · have hf := queueFrame_registerProducer hl hown hr.symm
    rcases Sys.registerProducer_cases hr.symm with ⟨-, rfl⟩ | ⟨-, -, rfl⟩ | ⟨-, -, -, rfl⟩ |
      ⟨-, -, -, -, rfl⟩ <;> exact h.of_queueFrame hf rfl rfl rfl hopen
  · cases hr
    refine h.of_queueFrame (queueFrame_consumerClose hown) ?_ ?_ ?_ hopen <;>
      (dsimp only [Sys.consumerClose]; rw [Sys.signalWaiting_eq]; rfl)
  · exact fifoInv_consumerLoop hl h hown hr.symm
  · have hf := queueFrame_join hown hr.symm
    rcases Sys.join_cases hr.symm with ⟨-, -, ⟨-, rfl⟩ | ⟨-, rfl⟩⟩ <;>
      exact h.of_queueFrame hf rfl rfl rfl hopen
  · cases hr
    exact h.of_queueFrame (queueFrame_update rfl rfl rfl (by rw [hown]; rfl)) rfl rfl rfl hopen

theorem fifoInv_step {e : Event} (hl : Lifecycle s) (hq : QueueInv s) (hh : HandoffInv s)
    (h : FifoInv s) (he : s.step e = some (.ok s')) : FifoInv s' := by
  have hk := (lifecycle_step hl he).2
  cases e with
  | call t op =>
    obtain ⟨code, last, c, hpc, -, rfl⟩ := Sys.step_call he
    exact h.of_queueFrame (queueFrame_update rfl rfl rfl (by rw [hpc]; rfl)) rfl rfl rfl id
  | ret t =>
    obtain ⟨code, last, p, hpc, hp, rfl⟩ := Sys.step_ret he
    refine h.of_queueFrame (queueFrame_update rfl rfl rfl ?_) rfl rfl rfl id
    rw [hpc]; cases code <;> cases hp <;> rfl
  | acquire t =>
    obtain ⟨c, -, hc, rfl⟩ := Sys.step_acquire he
    exact h.of_queueFrame (queueFrame_update rfl rfl rfl
      (hl.waitCall_acquire (hc.imp_right And.left))) rfl rfl rfl id
  | run t ok =>
    obtain ⟨c, hown, hr⟩ := Sys.step_run he
    exact fifoInv_runSection hl hq hh h hown hr
  | joined t =>
    rcases Sys.step_joined he with ⟨hpc, -, rfl⟩ | ⟨i, u, hpc, -, -, -, rfl⟩ | ⟨i, hpc, -, rfl⟩ <;>
      exact h.of_queueFrame (queueFrame_update rfl rfl rfl (by rw [hpc]; rfl)) rfl rfl rfl id

theorem reachable_fifoInv (h : Reachable s) : FifoInv s := by
  induction h with
  | init p buffer producers queue => exact fifoInv_initial p buffer producers queue
  | step e hr he ih =>
    exact fifoInv_step (reachable_lifecycle hr) (reachable_queueInv hr) (reachable_handoffInv hr)
      ih he

end Fifo

/-- Without error handling, a call of `mpsc_producer_send` that waited in the
queue writes the slot after every call written before it that entered the lock
after it subscribed, and no call written so far entered the lock after a
producer that is still queued in an open channel. -/
theorem fifo_without_error_handling {s : Sys} (h : Reachable s)
    (he : s.mpsc.errorHandlingEnabled = false) :
    s.written.Pairwise (fun d₁ d₂ => d₂.subscribed = true → d₁.ticket < d₂.ticket) ∧
    (s.mpsc.closed = false → ∀ d ∈ s.written, ∀ j ∈ waitQueue s.mpsc, d.ticket < s.ticketOf j) :=
  ⟨(reachable_fifoInv h).order (.inl he), (reachable_fifoInv h).queued (.inl he)⟩

/-- After `electionRun`, producer 0 sends `[9]`: the slot is free but producer 1
is elected, so producer 0 queues behind it; producer 1 then writes `[8]`. -/
def queuedBehindRun : List Event :=
  electionRun ++
    [.call (.producer 0) (.send [9]), .acquire (.producer 0), .run (.producer 0) true,
     .acquire (.producer 1), .run (.producer 1) true]

theorem fifo_without_error_handling_after_queueing :
    ∃ s, noErrorHandlingChannel.run queuedBehindRun = some s ∧ Reachable s ∧
      s.mpsc.errorHandlingEnabled = false ∧
      s.written = [⟨0, 0, false, [7]⟩, ⟨1, 1, true, [8]⟩] ∧
      s.mpsc.closed = false ∧ waitQueue s.mpsc = [0] ∧ s.ticketOf 0 = 2 ∧
      s.written.Pairwise (fun d₁ d₂ => d₂.subscribed = true → d₁.ticket < d₂.ticket) ∧
      ∀ d ∈ s.written, ∀ j ∈ waitQueue s.mpsc, d.ticket < s.ticketOf j := by
  have hr : Reachable noErrorHandlingChannel := .init _ _ _ _ rfl rfl
  have hs := @Reachable.run _ _ hr queuedBehindRun rfl
  have hf := fifo_without_error_handling hs rfl
  exact ⟨_, rfl, hs, rfl, rfl, rfl, by decide, rfl, hf.1, hf.2 rfl⟩

/-- In either mode, the same order holds until the consumer's `my_malloc`
fails; `subscriber_overtaken` breaks it right after a failed allocation. -/
theorem fifo_until_malloc_fails {s : Sys} (h : Reachable s) (he : s.NoFailedMalloc) :
    s.written.Pairwise (fun d₁ d₂ => d₂.subscribed = true → d₁.ticket < d₂.ticket) ∧
    (s.mpsc.closed = false → ∀ d ∈ s.written, ∀ j ∈ waitQueue s.mpsc, d.ticket < s.ticketOf j) :=
  ⟨(reachable_fifoInv h).order he, (reachable_fifoInv h).queued he⟩

theorem fifo_until_malloc_fails_after_queueing :
    ∃ s, errorHandlingChannel.run queuedBehindRun = some s ∧ Reachable s ∧
      s.mpsc.errorHandlingEnabled = true ∧
      s.written = [⟨0, 0, false, [7]⟩, ⟨1, 1, true, [8]⟩] ∧
      s.mpsc.closed = false ∧ waitQueue s.mpsc = [0] ∧ s.ticketOf 0 = 2 ∧
      s.written.Pairwise (fun d₁ d₂ => d₂.subscribed = true → d₁.ticket < d₂.ticket) ∧
      ∀ d ∈ s.written, ∀ j ∈ waitQueue s.mpsc, d.ticket < s.ticketOf j := by
  have hr : Reachable errorHandlingChannel := .init _ _ _ _ rfl rfl
  have hs := @Reachable.run _ _ hr queuedBehindRun rfl
  have hf := fifo_until_malloc_fails hs (.inr (by decide))
  exact ⟨_, rfl, hs, rfl, rfl, rfl, by decide, rfl, hf.1, hf.2 rfl⟩

end CMpsc
