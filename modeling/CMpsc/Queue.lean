import CMpsc.Lifecycle
import Mathlib.Data.List.Nodup

/-!
# The producer wait queue

The invariant of the wait queue of `mpsc_producer_send` (`mpsc.c:293-344`),
of its subscription and shift (`mpsc.c:379-428`) and of the election at the
end of a delivery (`mpsc.c:613-618`). The live entries are distinct
registered producers. While the channel is open they are exactly the
producers inside the wait loop, in the order in which their calls entered
the lock. `next_waiting_producer_id` is `-1` or the head of the queue, and
it is `-1` while a message is pending. Once the channel is closed, no step
touches the queue.
-/

namespace CMpsc

/-- The slot id and the ticket of a call of `mpsc_producer_send` inside its wait loop. -/
def Pc.waitCall : Pc → Option (Nat × Nat)
  | .wait (.sendWait _ id ticket) => some (id, ticket)
  | .owns (.sendWait _ id ticket) => some (id, ticket)
  | _ => none

/-- The ticket of the call producer `i` makes in the wait loop. -/
def Sys.ticketOf (s : Sys) (i : Nat) : Nat :=
  match (s.pc (.producer i)).waitCall with
  | some (_, ticket) => ticket
  | none => 0

/-- The fields of `struct mpsc_s` the queue invariant reads, besides the counts. -/
structure QueueView where
  nProducersWaiting : Nat
  producerWaitingIdsQueue : Nat → Nat
  nextWaitingProducerId : Int
  pendingMessage : Bool

def Sys.queueView (s : Sys) : QueueView :=
  ⟨s.mpsc.nProducersWaiting, s.mpsc.producerWaitingIdsQueue, s.mpsc.nextWaitingProducerId,
    s.mpsc.pendingMessage⟩

/-- The queue invariant. -/
structure QueueInv (s : Sys) : Prop where
  below : ∀ i ∈ waitQueue s.mpsc, i < s.mpsc.producerCount
  nodup : (waitQueue s.mpsc).Nodup
  next : s.mpsc.nextWaitingProducerId = -1 ∨
    0 < s.mpsc.nProducersWaiting ∧
      s.mpsc.nextWaitingProducerId = s.mpsc.producerWaitingIdsQueue 0
  pending : s.mpsc.pendingMessage → s.mpsc.nextWaitingProducerId = -1
  slot : ∀ i id ticket, (s.pc (.producer i)).waitCall = some (id, ticket) →
    id = i ∧ ticket < s.clock
  members : s.mpsc.closed = false →
    ∀ i, i ∈ waitQueue s.mpsc ↔ ((s.pc (.producer i)).waitCall).isSome
  order : s.mpsc.closed = false → ((waitQueue s.mpsc).map s.ticketOf).Pairwise (· < ·)

/-! ### Helpers -/

section Helpers

variable {s s' : Sys}

theorem waitQueue_congr {m m' : Mpsc} (hw : m'.nProducersWaiting = m.nProducersWaiting)
    (hq : m'.producerWaitingIdsQueue = m.producerWaitingIdsQueue) : waitQueue m' = waitQueue m := by
  rw [waitQueue, waitQueue, hw, hq]

theorem Pc.waitCall_wait_owns (c : Call) : (Pc.wait c).waitCall = (Pc.owns c).waitCall := by
  cases c <;> rfl

/-- Updating one thread's program counter without changing its wait-loop call. -/
theorem waitCall_update {f : Tid → Pc} {t : Tid} {p : Pc} (hp : p.waitCall = (f t).waitCall)
    (u : Tid) : (Function.update f t p u).waitCall = (f u).waitCall := by
  rw [Function.update_apply]; split
  · subst_vars; exact hp
  · rfl

theorem ticketOf_congr (hw : ∀ i, (s'.pc (.producer i)).waitCall = (s.pc (.producer i)).waitCall) :
    s'.ticketOf = s.ticketOf := by
  funext i; simp only [Sys.ticketOf, hw]

theorem Keeps.open_of_open (hk : Keeps s s') (hc : s'.mpsc.closed = false) :
    s.mpsc.closed = false := by
  cases h : s.mpsc.closed
  · rfl
  · simp [hk.closed h] at hc

/-- The tickets in the queue of an open channel were handed out before the clock. -/
theorem QueueInv.ticket_lt (h : QueueInv s) (hc : s.mpsc.closed = false) {i : Nat}
    (hi : i ∈ waitQueue s.mpsc) : s.ticketOf i < s.clock := by
  obtain ⟨⟨id, ticket⟩, hw⟩ := Option.isSome_iff_exists.1 ((h.members hc i).1 hi)
  simp only [Sys.ticketOf, hw]
  exact (h.slot i id ticket hw).2

/-- A thread inside a library call other than the wait loop is not queued. -/
theorem QueueInv.not_mem (h : QueueInv s) (hc : s.mpsc.closed = false) {i : Nat}
    (hw : (s.pc (.producer i)).waitCall = none) : i ∉ waitQueue s.mpsc := by
  rw [h.members hc, hw]; simp

/-- The queue of an open channel with an elected producer starts with it. -/
theorem QueueInv.head_of_next (h : QueueInv s) {i : Nat}
    (hn : s.mpsc.nextWaitingProducerId = (i : Int)) :
    0 < s.mpsc.nProducersWaiting ∧ s.mpsc.producerWaitingIdsQueue 0 = i := by
  rcases h.next with h' | ⟨hw, h'⟩
  · omega
  · exact ⟨hw, by omega⟩

end Helpers

/-! ### Steps that keep the queue -/

section Frames

variable {s s' : Sys}

theorem queueInv_initial (p : CreateParams) (buffer : Bytes) (producers : Nat → Producer)
    (queue : Nat → Nat) : QueueInv (Sys.initial p buffer producers queue) where
  below i hi := by simp [Sys.initial, waitQueue] at hi
  nodup := List.nodup_nil
  next := .inl rfl
  pending h := by cases h
  slot i id ticket h := by simp [Sys.initial, Pc.waitCall] at h
  members _ i := by simp [Sys.initial, waitQueue, Pc.waitCall]
  order _ := List.Pairwise.nil

/-- A step that leaves the live queue alone, keeps `next_waiting_producer_id`
`-1` or the head, and changes no call in the wait loop, except for calls that
leave it once the channel is closed, keeps the invariant. -/
theorem QueueInv.of_queue (h : QueueInv s)
    (hwait : s'.mpsc.nProducersWaiting = s.mpsc.nProducersWaiting)
    (hqueue : s'.mpsc.producerWaitingIdsQueue = s.mpsc.producerWaitingIdsQueue)
    (hnext : s'.mpsc.nextWaitingProducerId = -1 ∨
      0 < s.mpsc.nProducersWaiting ∧
        s'.mpsc.nextWaitingProducerId = s.mpsc.producerWaitingIdsQueue 0)
    (hpend : s'.mpsc.pendingMessage → s'.mpsc.nextWaitingProducerId = -1)
    (hopen : s'.mpsc.closed = false → s.mpsc.closed = false)
    (hcount : s.mpsc.producerCount ≤ s'.mpsc.producerCount) (hclock : s.clock ≤ s'.clock)
    (hw : ∀ i, (s'.pc (.producer i)).waitCall = (s.pc (.producer i)).waitCall ∨
      s'.mpsc.closed ∧ (s'.pc (.producer i)).waitCall = none) :
    QueueInv s' ∧ (s.mpsc.closed → waitQueue s'.mpsc = waitQueue s.mpsc) := by
  have hq : waitQueue s'.mpsc = waitQueue s.mpsc := waitQueue_congr hwait hqueue
  have hw' : s'.mpsc.closed = false → ∀ i,
      (s'.pc (.producer i)).waitCall = (s.pc (.producer i)).waitCall := fun hc i => by
    rcases hw i with hw | ⟨hc', -⟩
    · exact hw
    · simp [hc] at hc'
  refine ⟨⟨fun i hi => ?_, hq ▸ h.nodup, ?_, hpend, fun i id ticket hi => ?_,
    fun hc i => ?_, fun hc => ?_⟩, fun _ => hq⟩
  · rw [hq] at hi; exact (h.below i hi).trans_le hcount
  · rwa [hwait, hqueue]
  · rcases hw i with hw | ⟨-, hw⟩ <;> rw [hw] at hi
    · exact ⟨(h.slot i id ticket hi).1, (h.slot i id ticket hi).2.trans_le hclock⟩
    · cases hi
  · rw [hq, hw' hc]; exact h.members (hopen hc) i
  · rw [hq, ticketOf_congr (hw' hc)]; exact h.order (hopen hc)

/-- The frame for steps that change no queue data, no clock and no call in the wait loop. -/
theorem QueueInv.frame (h : QueueInv s) (hk : Keeps s s') (hv : s'.queueView = s.queueView)
    (hclock : s'.clock = s.clock) (hw : ∀ u, (s'.pc u).waitCall = (s.pc u).waitCall) :
    QueueInv s' ∧ (s.mpsc.closed → waitQueue s'.mpsc = waitQueue s.mpsc) := by
  simp only [Sys.queueView, QueueView.mk.injEq] at hv
  obtain ⟨hwait, hqueue, hnext, hpend⟩ := hv
  refine h.of_queue hwait hqueue (by rw [hnext]; exact h.next)
    (by rw [hnext, hpend]; exact h.pending) hk.open_of_open hk.count_le hclock.ge
    fun i => .inl (hw _)

end Frames

/-! ### The two queue operations -/

section Operations

variable {s s' : Sys}

/-- Subscribing producer `i` (`mpsc_producer_subscribe_to_wait_queue`) and
blocking it in the wait loop with the current ticket appends it to the queue. -/
theorem QueueInv.of_push {i : Nat} {p : Pc} (h : QueueInv s) (hc : s.mpsc.closed = false)
    (hi : i < s.mpsc.producerCount) (hni : (s.pc (.producer i)).waitCall = none)
    (hq : waitQueue s'.mpsc = waitQueue s.mpsc ++ [i])
    (hwait : s'.mpsc.nProducersWaiting = s.mpsc.nProducersWaiting + 1)
    (hhead : 0 < s.mpsc.nProducersWaiting →
      s'.mpsc.producerWaitingIdsQueue 0 = s.mpsc.producerWaitingIdsQueue 0)
    (hnext : s'.mpsc.nextWaitingProducerId = s.mpsc.nextWaitingProducerId)
    (hpend : s'.mpsc.pendingMessage = s.mpsc.pendingMessage)
    (hcount : s'.mpsc.producerCount = s.mpsc.producerCount) (hclock : s'.clock = s.clock + 1)
    (hpc : s'.pc = Function.update s.pc (.producer i) p) (hp : p.waitCall = some (i, s.clock)) :
    QueueInv s' := by
  have hnm : i ∉ waitQueue s.mpsc := h.not_mem hc hni
  have hpc' : ∀ u, (s'.pc (.producer u)).waitCall =
      if u = i then some (i, s.clock) else (s.pc (.producer u)).waitCall := fun u => by
    rw [hpc, Function.update_apply]; split_ifs <;> simp_all
  refine ⟨fun u hu => ?_, ?_, ?_, fun hu => ?_, fun u id ticket hu => ?_, fun _ u => ?_, fun _ => ?_⟩
  · rw [hq, List.mem_append, List.mem_singleton] at hu
    rw [hcount]
    rcases hu with hu | rfl
    exacts [h.below u hu, hi]
  · rw [hq, List.nodup_append]
    exact ⟨h.nodup, List.nodup_singleton i, by simpa using hnm⟩
  · rw [hnext, hwait]
    rcases h.next with hn | ⟨hw, hn⟩
    exacts [.inl hn, .inr ⟨Nat.succ_pos _, by rw [hn, hhead hw]⟩]
  · rw [hnext]; exact h.pending (hpend ▸ hu)
  · rw [hpc', hclock] at *
    split_ifs at hu with hui
    · cases hu; exact ⟨hui.symm, Nat.lt_succ_self _⟩
    · exact ⟨(h.slot u id ticket hu).1, (h.slot u id ticket hu).2.trans (Nat.lt_succ_self _)⟩
  · rw [hq, hpc', List.mem_append, List.mem_singleton]
    split_ifs with hui
    · simp [hui]
    · rw [h.members hc u]; simp [hui]
  · have hticket : s'.ticketOf = fun u => if u = i then s.clock else s.ticketOf u := by
      funext u; simp only [Sys.ticketOf, hpc']; split_ifs <;> rfl
    rw [hq, hticket, List.map_append, List.map_singleton, if_pos rfl, List.pairwise_append]
    refine ⟨?_, List.pairwise_singleton _ _, fun a ha b hb => ?_⟩
    · rw [List.map_congr_left fun u hu => if_neg (by rintro rfl; exact hnm hu)]
      exact h.order hc
    · rw [List.mem_singleton] at hb
      subst hb
      obtain ⟨u, hu, rfl⟩ := List.mem_map.1 ha
      rw [if_neg (by rintro rfl; exact hnm hu)]
      exact h.ticket_lt hc hu

/-- The shift of `mpsc_shift_producer_wait_queue` by the elected head `i`, which
then leaves the wait loop, removes it from the queue. -/
theorem QueueInv.of_leave_head {i : Nat} {p : Pc} (h : QueueInv s) (hc : s.mpsc.closed = false)
    (hq : waitQueue s.mpsc = i :: waitQueue s'.mpsc)
    (hnext : s'.mpsc.nextWaitingProducerId = -1)
    (hcount : s'.mpsc.producerCount = s.mpsc.producerCount) (hclock : s'.clock = s.clock)
    (hpc : s'.pc = Function.update s.pc (.producer i) p) (hp : p.waitCall = none) :
    QueueInv s' := by
  have hnd := h.nodup
  rw [hq, List.nodup_cons] at hnd
  have hpc' : ∀ u, u ≠ i → (s'.pc (.producer u)).waitCall = (s.pc (.producer u)).waitCall :=
    fun u hu => by rw [hpc, Function.update_noteq (by simpa using hu)]
  have hpi : (s'.pc (.producer i)).waitCall = none := by rw [hpc, Function.update_same, hp]
  refine ⟨fun u hu => ?_, hnd.2, .inl hnext, fun _ => hnext, fun u id ticket hu => ?_,
    fun _ u => ?_, fun _ => ?_⟩
  · rw [hcount]; exact h.below u (hq ▸ List.mem_cons_of_mem i hu)
  · by_cases hui : u = i
    · subst hui; rw [hpi] at hu; cases hu
    · rw [hpc' u hui, hclock] at *; exact h.slot u id ticket hu
  · by_cases hui : u = i
    · subst hui; simp [hpi, hnd.1]
    · rw [hpc' u hui, ← h.members hc u, hq]; simp [hui]
  · have hord := h.order hc
    rw [hq, List.map_cons, List.pairwise_cons] at hord
    have hticket : ∀ u ∈ waitQueue s'.mpsc, s'.ticketOf u = s.ticketOf u := fun u hu => by
      simp only [Sys.ticketOf, hpc' u (by rintro rfl; exact hnd.1 hu)]
    rw [List.map_congr_left hticket]
    exact hord.2

end Operations

/-! ### Critical sections -/

section Sections

variable {s s' : Sys}

/-- The program counters a deposit leaves. -/
theorem deposit_pc (s : Sys) (i : Nat) (data : Bytes) (ticket : Nat) (sub : Bool) :
    (s.deposit i data ticket sub).pc =
      Function.update s.pc (.producer i) (.user .producerCallback (.send true)) := rfl

theorem queueInv_sendWaitLoop {i j ticket : Nat} {data : Bytes} (h : QueueInv s) (hown : s.pc (.producer i) = .owns (.sendWait data j ticket))
    (he : s.sendWaitLoop i data j ticket = .ok s') :
    QueueInv s' ∧ (s.mpsc.closed → waitQueue s'.mpsc = waitQueue s.mpsc) := by
  have hji : j = i := (h.slot i j ticket (by rw [hown]; rfl)).1
  subst hji
  unfold Sys.sendWaitLoop at he
  split_ifs at he with h1 h2
  · -- back to `pthread_cond_wait`
    cases he
    exact h.frame (Keeps.of_life rfl) rfl rfl
      (waitCall_update (by rw [hown, Pc.waitCall_wait_owns]))
  · -- closed while waiting: return `false`
    cases he
    refine h.of_queue rfl rfl h.next h.pending (fun hc => hc) le_rfl le_rfl fun u => ?_
    simp only [Sys.setPc_pc_eq, Sys.unlock_pc_eq, Function.update_apply]
    split
    · exact .inr ⟨h2, rfl⟩
    · exact .inl rfl
  · -- elected: shift, then deposit
    simp only [Bool.and_eq_true, Bool.not_eq_true', bne_iff_ne, ne_eq, not_and, not_not] at h1 h2
    have hc : s.mpsc.closed = false := by simpa using h2
    have hn := h1 hc
    obtain ⟨hpos, hhead⟩ := h.head_of_next hn
    cases hs : mpscShiftProducerWaitQueue s.mpsc with
    | error e => simp [hs, Except.map] at he
    | ok m =>
      simp only [hs, Except.map, Except.ok.injEq] at he
      subst he
      obtain ⟨-, rfl⟩ := shift_ok hs
      have hq : waitQueue s.mpsc = j :: (waitQueue s.mpsc).tail := by
        have := waitQueue_head s.mpsc hpos
        rw [hhead] at this
        exact (List.cons_head?_tail this).symm
      refine ⟨h.of_leave_head hc ?_ rfl rfl rfl rfl rfl, fun hc' => by simp [hc] at hc'⟩
      rw [hq]
      exact congrArg _ (waitQueue_shift _ _).symm

theorem queueInv_sendEntry {i : Nat} {data : Bytes} (hl : Lifecycle s) (h : QueueInv s)
    (hown : s.pc (.producer i) = .owns (.send data)) (he : s.sendEntry i data = .ok s') :
    QueueInv s' ∧ (s.mpsc.closed → waitQueue s'.mpsc = waitQueue s.mpsc) := by
  have hi : i < s.mpsc.producerCount := (hl.running hown).1
  have hni : (s.pc (.producer i)).waitCall = none := by rw [hown]; rfl
  have hw : ∀ p : Pc, p.waitCall = none → ∀ u,
      ((Function.update s.pc (.producer i) p) u).waitCall = (s.pc u).waitCall :=
    fun p hp => waitCall_update (hp.trans hni.symm)
  rcases Sys.sendEntry_cases he with
    ⟨-, ⟨-, rfl⟩ | ⟨hc, -, m, j, hsub, he⟩ | ⟨-, -, hn, rfl⟩⟩
  · -- closed at entry: return `false`
    exact h.of_queue rfl rfl h.next h.pending id le_rfl (Nat.le_succ _)
      fun u => .inl (hw _ (by rfl) _)
  · -- slot busy: subscribe, then block in the wait loop
    obtain ⟨rfl, -, -, rfl⟩ := subscribe_ok hsub
    unfold Sys.sendWaitLoop at he
    split_ifs at he with h4 h5
    · cases he
      exact ⟨h.of_push hc hi hni (waitQueue_push _ _ _) rfl
        (fun hw => Function.update_noteq (by omega) _ _) rfl rfl rfl rfl rfl rfl,
        fun hc' => by simp [hc] at hc'⟩
    · exact nomatch hc.symm.trans h5
    · -- the newcomer cannot be the elected producer: it was not queued
      simp only [hc, Bool.not_false, Bool.true_and, bne_iff_ne, ne_eq, not_not] at h4
      obtain ⟨hpos, hhead⟩ := h.head_of_next h4
      exact absurd ((mem_waitQueue _ _).2 ⟨0, hpos, hhead⟩) (h.not_mem hc hni)
  · -- slot free and nobody elected: deposit at once
    exact h.of_queue rfl rfl (.inl hn) (fun _ => hn) id le_rfl (Nat.le_succ _)
      fun u => .inl (hw _ (by rfl) _)

theorem queueInv_consumerLoop {t : Tid} {ok : Bool} (hl : Lifecycle s) (h : QueueInv s)
    (hown : s.pc t = .owns .consumerLoop) (he : s.consumerLoop t ok = .ok s') :
    QueueInv s' ∧ (s.mpsc.closed → waitQueue s'.mpsc = waitQueue s.mpsc) := by
  obtain rfl : t = .consumer := hl.runsOn_owns hown
  rcases Sys.consumerLoop_cases he with ⟨-, -, rfl⟩ | ⟨-, -, rfl⟩ | ⟨-, -, -, -, rfl⟩ |
    ⟨-, -, rfl⟩ | ⟨-, -, rfl⟩
  · exact h.of_queue rfl rfl h.next h.pending id le_rfl le_rfl
      fun u => .inl (by simp [Function.update_apply])
  · exact h.of_queue rfl rfl h.next h.pending id le_rfl le_rfl
      fun u => .inl (by simp [Function.update_apply])
  · exact h.of_queue rfl rfl h.next (fun hp => by cases hp) id le_rfl le_rfl
      fun u => .inl (by simp [Function.update_apply])
  all_goals
    -- delivery, then the election of the head of the queue
    rw [Sys.elect_eq]
    refine h.of_queue rfl rfl ?_ (fun hp => by cases hp) id le_rfl le_rfl
      fun u => .inl (by simp [Function.update_apply])
    split
    · exact .inr ⟨by simp_all, rfl⟩
    · exact h.next

/-- The sections that do not touch the wait queue: their queue data, clock
and wait-loop calls. -/
def QueueFrame (s s' : Sys) : Prop :=
  s'.queueView = s.queueView ∧ s'.clock = s.clock ∧ ∀ u, (s'.pc u).waitCall = (s.pc u).waitCall

theorem QueueInv.of_frame (h : QueueInv s) (hk : Keeps s s') (hf : QueueFrame s s') :
    QueueInv s' ∧ (s.mpsc.closed → waitQueue s'.mpsc = waitQueue s.mpsc) :=
  h.frame hk hf.1 hf.2.1 hf.2.2

theorem queueFrame_update {t : Tid} {p : Pc} (hv : s'.queueView = s.queueView)
    (hclock : s'.clock = s.clock) (hpc : s'.pc = Function.update s.pc t p)
    (hp : p.waitCall = (s.pc t).waitCall) : QueueFrame s s' :=
  ⟨hv, hclock, by rw [hpc]; exact waitCall_update hp⟩

theorem queueFrame_registerProducer {t : Tid} {caller : UserCode} {ok : Bool}
    (hl : Lifecycle s) (hown : s.pc t = .owns (.registerProducer caller))
    (he : s.registerProducer t caller ok = .ok s') : QueueFrame s s' := by
  have ht : (Pc.user caller (.registerProducer .none)).waitCall = (s.pc t).waitCall := by
    rw [hown]; rfl
  rcases Sys.registerProducer_cases he with ⟨-, rfl⟩ | ⟨-, -, rfl⟩ | ⟨-, -, -, rfl⟩ | ⟨-, -, -, -, rfl⟩ <;>
    refine ⟨rfl, rfl, ?_⟩ <;>
    simp only [Sys.setPc_pc_eq, Sys.unlock_pc_eq]
  · exact waitCall_update ht
  · exact waitCall_update ht
  · have hti : t ≠ .producer s.mpsc.producerCount := by
      rintro rfl; rw [hl.idle _ le_rfl] at hown; cases hown
    exact fun u => (waitCall_update (by rw [Function.update_noteq hti]; exact ht) u).trans
      (waitCall_update (by rw [hl.idle _ le_rfl]; rfl) u)
  · exact waitCall_update ht

theorem queueFrame_producerDone {i : Nat} (hown : s.pc (.producer i) = .owns .producerDone) :
    QueueFrame s (s.producerDone i) := by
  have hp : Pc.exited.waitCall = (s.pc (.producer i)).waitCall := by rw [hown]; rfl
  unfold Sys.producerDone
  dsimp only
  split
  · split
    · exact queueFrame_update rfl rfl rfl hp
    · exact queueFrame_update rfl rfl rfl hp
  · exact queueFrame_update rfl rfl rfl hp

theorem queueFrame_consumerClose {t : Tid} {caller : UserCode}
    (hown : s.pc t = .owns (.consumerClose caller)) : QueueFrame s (s.consumerClose t caller) := by
  dsimp only [Sys.consumerClose]
  rw [Sys.signalWaiting_eq]
  exact queueFrame_update rfl rfl rfl (by rw [hown]; rfl)

theorem queueFrame_join {t : Tid} (hown : s.pc t = .owns .join) (he : s.join t = .ok s') :
    QueueFrame s s' := by
  have hp : Pc.joinConsumer.waitCall = (s.pc t).waitCall := by rw [hown]; rfl
  rcases Sys.join_cases he with ⟨-, -, ⟨-, rfl⟩ | ⟨-, rfl⟩⟩
  · exact queueFrame_update rfl rfl rfl hp
  · exact queueFrame_update rfl rfl rfl hp

theorem queueInv_runSection {t : Tid} {ok : Bool} {c : Call} (hl : Lifecycle s) (h : QueueInv s)
    (hown : s.pc t = .owns c) (he : s.runSection t ok c = some (.ok s')) :
    QueueInv s' ∧ (s.mpsc.closed → waitQueue s'.mpsc = waitQueue s.mpsc) := by
  have hk := (lifecycle_runSection hl hown he).keeps
  rcases Sys.runSection_cases he with ⟨i, data, rfl, rfl, hr⟩ | ⟨i, data, j, ticket, rfl, rfl, hr⟩ |
    ⟨i, rfl, rfl, hr⟩ | ⟨i, rfl, rfl, hr⟩ | ⟨caller, rfl, hr⟩ | ⟨caller, rfl, hr⟩ |
    ⟨rfl, hr⟩ | ⟨rfl, hr⟩ | ⟨rfl, hr⟩
  · exact queueInv_sendEntry hl h hown hr.symm
  · exact queueInv_sendWaitLoop h hown hr.symm
  · cases hr
    exact h.of_frame hk (queueFrame_update rfl rfl rfl (by rw [hown]; rfl))
  · cases hr; exact h.of_frame hk (queueFrame_producerDone hown)
  · exact h.of_frame hk (queueFrame_registerProducer hl hown hr.symm)
  · cases hr; exact h.of_frame hk (queueFrame_consumerClose hown)
  · exact queueInv_consumerLoop hl h hown hr.symm
  · exact h.of_frame hk (queueFrame_join hown hr.symm)
  · cases hr
    exact h.of_frame hk (queueFrame_update rfl rfl rfl (by rw [hown]; rfl))

end Sections

/-! ### Every step -/

section Steps

variable {s s' : Sys}

/-- A thread that obtains the mutex keeps its call. -/
theorem Lifecycle.waitCall_acquire (hl : Lifecycle s) {t : Tid} {c : Call}
    (hq : s.pc t = .lock c ∨ s.pc t = .wait c) : (Pc.owns c).waitCall = (s.pc t).waitCall := by
  rcases hq with hq | hq <;> rw [hq]
  · have := hl.locks t c hq
    cases c <;> first | rfl | simp [Call.cv] at this
  · exact (Pc.waitCall_wait_owns c).symm

theorem queueInv_step {e : Event} (hl : Lifecycle s) (h : QueueInv s)
    (he : s.step e = some (.ok s')) :
    QueueInv s' ∧ (s.mpsc.closed → waitQueue s'.mpsc = waitQueue s.mpsc) := by
  cases e with
  | call t op =>
    obtain ⟨code, last, c, hq, -, rfl⟩ := Sys.step_call he
    exact h.of_frame (Keeps.of_life rfl) (queueFrame_update rfl rfl rfl (by rw [hq]; rfl))
  | ret t =>
    obtain ⟨code, last, p, hq, hp, rfl⟩ := Sys.step_ret he
    refine h.of_frame (Keeps.of_life rfl) (queueFrame_update rfl rfl rfl ?_)
    rw [hq]; cases code <;> cases hp <;> rfl
  | acquire t =>
    obtain ⟨c, -, hq, rfl⟩ := Sys.step_acquire he
    exact h.of_frame (Keeps.of_life rfl)
      (queueFrame_update rfl rfl rfl (hl.waitCall_acquire (hq.imp_right And.left)))
  | run t ok =>
    obtain ⟨c, hown, hr⟩ := Sys.step_run he
    exact queueInv_runSection hl h hown hr
  | joined t =>
    have hk := (lifecycle_joined hl he).2
    rcases Sys.step_joined he with ⟨hq, -, rfl⟩ | ⟨i, u, hq, -, -, -, rfl⟩ | ⟨i, hq, -, rfl⟩
    · exact h.of_frame hk (queueFrame_update rfl rfl rfl (by rw [hq]; rfl))
    · exact h.of_frame hk (queueFrame_update rfl rfl rfl (by rw [hq]; rfl))
    · exact h.of_frame hk (queueFrame_update rfl rfl rfl (by rw [hq]; rfl))

end Steps

theorem reachable_queueInv {s : Sys} (h : Reachable s) : QueueInv s := by
  induction h with
  | init p buffer producers queue => exact queueInv_initial p buffer producers queue
  | step e hr he ih => exact (queueInv_step (reachable_lifecycle hr) ih he).1

/-- Once the channel is closed, no run changes the queue. -/
theorem waitQueue_run_of_closed {s s' : Sys} (h : Reachable s) (hc : s.mpsc.closed) :
    ∀ {es : List Event}, s.run es = some s' → waitQueue s'.mpsc = waitQueue s.mpsc
  | [], he => by cases he; rfl
  | e :: es, he => by
    simp only [Sys.run] at he
    split at he
    · rename_i s₁ h₁
      have hl := reachable_lifecycle h
      have hq := (queueInv_step hl (reachable_queueInv h) h₁).2 hc
      rw [waitQueue_run_of_closed (h.step e h₁) ((lifecycle_step hl h₁).2.closed hc) he, hq]
    · cases he

/-! ### Consequences -/

section Consequences

variable {s : Sys}

theorem QueueInv.waiting_le (h : QueueInv s) :
    s.mpsc.nProducersWaiting ≤ s.mpsc.producerCount := by
  have := (List.subperm_of_subset h.nodup fun i hi => List.mem_range.2 (h.below i hi)).length_le
  rwa [waitQueue_length, List.length_range] at this

/-- With a registered producer outside the wait loop, the queue of an open
channel has room for it. -/
theorem QueueInv.waiting_lt (h : QueueInv s) (hc : s.mpsc.closed = false) {i : Nat}
    (hi : i < s.mpsc.producerCount) (hni : (s.pc (.producer i)).waitCall = none) :
    s.mpsc.nProducersWaiting < s.mpsc.producerCount := by
  have hsub : waitQueue s.mpsc ⊆ (List.range s.mpsc.producerCount).erase i := fun j hj =>
    (List.mem_erase_of_ne (by rintro rfl; exact h.not_mem hc hni hj)).2
      (List.mem_range.2 (h.below j hj))
  have := (List.subperm_of_subset h.nodup hsub).length_le
  rw [List.length_erase_of_mem (List.mem_range.2 hi), List.length_range, waitQueue_length] at this
  omega

/-- The wait loop never aborts in the shift: an elected producer finds a non-empty queue. -/
theorem sendWaitLoop_ne_error {i id ticket : Nat} {data : Bytes} {f : Fatal}
    (hn : s.mpsc.nextWaitingProducerId = -1 ∨ 0 < s.mpsc.nProducersWaiting) :
    s.sendWaitLoop i data id ticket ≠ .error f := by
  unfold Sys.sendWaitLoop
  split_ifs with h1 h2
  · nofun
  · nofun
  · simp only [Bool.and_eq_true, Bool.not_eq_true', bne_iff_ne, ne_eq, not_and, not_not] at h1 h2
    have hw : s.mpsc.nProducersWaiting ≠ 0 := by
      rcases hn with hn | hn
      · have := h1 (by simpa using h2); omega
      · omega
    simp [mpscShiftProducerWaitQueue, hw, Except.map]

/-- `mpsc_producer_send` aborts only on a message larger than the slot. -/
theorem QueueInv.sendEntry_error {i : Nat} {data : Bytes} {f : Fatal} (hl : Lifecycle s)
    (h : QueueInv s) (hown : s.pc (.producer i) = .owns (.send data))
    (he : s.sendEntry i data = .error f) :
    f = .messageTooLarge ∧ s.mpsc.bufferSize < data.length := by
  have hi : i < s.mpsc.producerCount := (hl.running hown).1
  have hni : (s.pc (.producer i)).waitCall = none := by rw [hown]; rfl
  unfold Sys.sendEntry at he
  dsimp only at he
  split_ifs at he with h1 h2 h3
  · cases he; exact ⟨rfl, h1⟩
  · have hc : s.mpsc.closed = false := by simpa using h2
    have hlt := h.waiting_lt hc hi hni
    have hmax := hl.count_le
    rw [subscribe_eq, if_pos (by omega), if_neg (by omega)] at he
    exact absurd he (sendWaitLoop_ne_error (.inr (Nat.succ_pos _)))

/-- The aborts of the queue operations are unreachable. -/
theorem QueueInv.step_error {e : Event} {f : Fatal} (hl : Lifecycle s) (h : QueueInv s)
    (he : s.step e = some (.error f)) :
    f ≠ .producerNotFound ∧ f ≠ .alreadySubscribed ∧ f ≠ .emptyQueue := by
  obtain ⟨t, ok, c, -, hown, hr⟩ := Sys.step_error he
  rcases Sys.runSection_cases hr with ⟨i, data, rfl, rfl, hx⟩ | ⟨i, data, j, ticket, rfl, rfl, hx⟩ |
    ⟨i, rfl, rfl, hx⟩ | ⟨i, rfl, rfl, hx⟩ | ⟨caller, rfl, hx⟩ | ⟨caller, rfl, hx⟩ |
    ⟨rfl, hx⟩ | ⟨rfl, hx⟩ | ⟨rfl, hx⟩
  · rw [(h.sendEntry_error hl hown hx.symm).1]; decide
  · exact absurd hx.symm (sendWaitLoop_ne_error (h.next.imp_right And.left))
  · cases hx
  · cases hx
  · unfold Sys.registerProducer at hx
    dsimp only at hx
    split_ifs at hx
    cases hx; decide
  · cases hx
  · unfold Sys.consumerLoop at hx
    dsimp only at hx
    split_ifs at hx
    cases hx; decide
  · unfold Sys.join at hx
    dsimp only at hx
    split_ifs at hx <;> cases hx <;> decide
  · cases hx

/-- The shift of an elected producer succeeds and removes exactly that producer,
from the head of the queue. -/
theorem QueueInv.shift_head {i id ticket : Nat} {data : Bytes} (h : QueueInv s)
    (hown : s.pc (.producer i) = .owns (.sendWait data id ticket))
    (hn : s.mpsc.nextWaitingProducerId = id) :
    ∃ m, mpscShiftProducerWaitQueue s.mpsc = .ok m ∧ waitQueue s.mpsc = i :: waitQueue m := by
  obtain rfl := (h.slot i id ticket (by rw [hown]; rfl)).1
  obtain ⟨hpos, hhead⟩ := h.head_of_next hn
  unfold mpscShiftProducerWaitQueue
  rw [if_neg (Nat.pos_iff_ne_zero.1 hpos)]
  refine ⟨_, rfl, ?_⟩
  have hh := waitQueue_head s.mpsc hpos
  rw [hhead] at hh
  rw [← List.cons_head?_tail hh]
  exact congrArg _ (waitQueue_shift _ _).symm

end Consequences

/-- The queue laws: in every reachable state where the mutex is free, the
live entries of `producer_waiting_ids_queue` are distinct registered
producers, `next_waiting_producer_id` is `-1` or the head, a pending message
has no elected producer, and while the channel is open the queue lists the
producers blocked in the wait loop of `mpsc_producer_send`, by the order in
which their calls entered the lock (and subscribed); once closed, no run
changes the queue; the aborts of the queue operations are unreachable; and
the shift of an elected producer removes exactly that producer, from the head. -/
theorem wait_queue_laws {s : Sys} (h : Reachable s) :
    (s.owner = none →
      (waitQueue s.mpsc).Nodup ∧ (∀ i ∈ waitQueue s.mpsc, i < s.mpsc.producerCount) ∧
      s.mpsc.nProducersWaiting ≤ s.mpsc.producerCount ∧
      s.mpsc.producerCount ≤ s.mpsc.nMaxProducers ∧
      (s.mpsc.nextWaitingProducerId = -1 ∨
        0 < s.mpsc.nProducersWaiting ∧
          s.mpsc.nextWaitingProducerId = s.mpsc.producerWaitingIdsQueue 0) ∧
      (s.mpsc.pendingMessage → s.mpsc.nextWaitingProducerId = -1) ∧
      (s.mpsc.closed = false →
        (∀ i, i ∈ waitQueue s.mpsc ↔
          ∃ data ticket, s.pc (.producer i) = .wait (.sendWait data i ticket)) ∧
        ((waitQueue s.mpsc).map s.ticketOf).Pairwise (· < ·))) ∧
    (s.mpsc.closed → ∀ es s', s.run es = some s' → waitQueue s'.mpsc = waitQueue s.mpsc) ∧
    (∀ e f, s.step e = some (.error f) →
      f ≠ .producerNotFound ∧ f ≠ .alreadySubscribed ∧ f ≠ .emptyQueue) ∧
    (∀ i data id ticket, s.pc (.producer i) = .owns (.sendWait data id ticket) →
      s.mpsc.nextWaitingProducerId = id →
      ∃ m, mpscShiftProducerWaitQueue s.mpsc = .ok m ∧ waitQueue s.mpsc = i :: waitQueue m) := by
  have hl := reachable_lifecycle h
  have hq := reachable_queueInv h
  refine ⟨fun ho => ⟨hq.nodup, hq.below, hq.waiting_le, hl.count_le, hq.next, hq.pending,
    fun hc => ⟨fun i => ?_, hq.order hc⟩⟩, fun hc es s' hr => waitQueue_run_of_closed h hc hr,
    fun e f he => hq.step_error hl he, fun i data id ticket hown hn => hq.shift_head hown hn⟩
  rw [hq.members hc i]
  constructor
  · intro hs
    cases hp : s.pc (.producer i) with
    | wait c =>
      rw [hp] at hs
      cases c with
      | sendWait data id ticket =>
        obtain rfl := (hq.slot i id ticket (by rw [hp]; rfl)).1
        exact ⟨data, ticket, rfl⟩
      | _ => cases hs
    | owns c =>
      have := (hl.owner_iff (.producer i)).2 ⟨c, hp⟩
      simp [ho] at this
    | _ => rw [hp] at hs; cases hs
  · rintro ⟨data, ticket, hp⟩
    rw [hp]; rfl

/-- After `electionRun` the queue holds producer 1, blocked in its wait loop and
elected. -/
theorem wait_queue_laws_after_election :
    ∃ s, noErrorHandlingChannel.run electionRun = some s ∧ Reachable s ∧ s.owner = none ∧
      waitQueue s.mpsc = [1] ∧ (waitQueue s.mpsc).Nodup ∧
      (s.mpsc.nextWaitingProducerId = -1 ∨
        0 < s.mpsc.nProducersWaiting ∧
          s.mpsc.nextWaitingProducerId = s.mpsc.producerWaitingIdsQueue 0) ∧
      (1 ∈ waitQueue s.mpsc ↔ ∃ data ticket, s.pc (.producer 1) = .wait (.sendWait data 1 ticket)) := by
  have hr : Reachable noErrorHandlingChannel := .init _ _ _ _ rfl rfl
  have hs := @Reachable.run _ _ hr electionRun rfl
  have hq := (wait_queue_laws hs).1 rfl
  exact ⟨_, rfl, hs, rfl, rfl, hq.1, hq.2.2.2.2.1, (hq.2.2.2.2.2.2 rfl).1 1⟩

end CMpsc
