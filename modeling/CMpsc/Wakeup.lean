import CMpsc.Queue

/-!
# No lost wake-up

`pthread_cond_wait` returns only after a `pthread_cond_signal` on its own
variable, and a signal that finds no waiter is lost
(`my_condition_variable_signal`, `mpsc.c:669-680`). The consumer loop
(`mpsc.c:583-589`) and the wait loop of `mpsc_producer_send`
(`mpsc.c:317-323`) block until their condition holds. The invariant: a
thread blocked on a variable whose condition holds has been signalled since
it began to wait. So every step that makes a condition true signals its
waiter: the deposit of `mpsc_producer_send`, the election of the consumer
loop and `mpsc_consumer_close` do; the closures of `mpsc_producer_done` and
`mpsc_join` signal the consumer only, and they run only when every producer
has finished, so that no producer is left blocked.
-/

namespace CMpsc

/-- The condition the wait loop of a call waits for: the negation of the
loop guard at lines 583-584 and at lines 318-319. -/
def Sys.waitGuard (s : Sys) : Call → Bool
  | .consumerLoop => s.mpsc.pendingMessage || s.mpsc.closed
  | .sendWait _ id _ => s.mpsc.closed || s.mpsc.nextWaitingProducerId == (id : Int)
  | _ => false

/-- No lost wake-up: a thread blocked on a variable whose condition holds has
been signalled since it began to wait. -/
def WakeInv (s : Sys) : Prop :=
  ∀ t c, s.pc t = .wait c → s.waitGuard c → s.woken t

/-! ### Signals -/

section Signals

theorem woken_signal_iff (s : Sys) (cv : Cv) (u : Tid) :
    (s.signal cv).woken u = true ↔
      s.woken u = true ∨ u = cv.waiter ∧ (s.pc u).waitsOn cv = true := by
  unfold Sys.signal
  split <;> rename_i hw
  · by_cases hu : u = cv.waiter
    · subst hu; simp [hw]
    · simp [Function.update_noteq hu, hu]
  · refine ⟨.inl, ?_⟩
    rintro (h | ⟨rfl, h⟩)
    exacts [h, absurd h hw]

/-- The loop of `mpsc_consumer_close` wakes every producer blocked on the
variable of one of the first `k` queue entries. -/
theorem woken_signalWaiting (s : Sys) (k : Nat) (u : Tid)
    (h : s.woken u = true ∨ ∃ j < k, u = .producer (s.mpsc.producerWaitingIdsQueue j) ∧
      (s.pc u).waitsOn (.producer (s.mpsc.producerWaitingIdsQueue j)) = true) :
    (s.signalWaiting k).woken u = true := by
  induction k with
  | zero =>
    rcases h with h | ⟨j, hj, -⟩
    exacts [h, absurd hj (Nat.not_lt_zero _)]
  | succ k ih =>
    rw [Sys.signalWaiting, woken_signal_iff, Sys.signalWaiting_pc]
    rcases h with h | ⟨j, hj, hu, hw⟩
    · exact .inl (ih (.inl h))
    · by_cases hjk : j < k
      · exact .inl (ih (.inr ⟨j, hjk, hu, hw⟩))
      · obtain rfl : j = k := by omega
        exact .inr ⟨hu, hw⟩

/-- The election wakes the producer it elects, when that producer is blocked. -/
theorem woken_elect (s : Sys) (u : Tid)
    (h : s.woken u = true ∨
      (s.mpsc.nProducersWaiting > 0 && !s.mpsc.closed) = true ∧
        u = .producer (s.mpsc.producerWaitingIdsQueue 0) ∧
        (s.pc u).waitsOn (.producer (s.mpsc.producerWaitingIdsQueue 0)) = true) :
    s.elect.woken u = true := by
  unfold Sys.elect
  split <;> rename_i hc
  · rw [woken_signal_iff]
    rcases h with h | ⟨-, hu, hw⟩
    exacts [.inl h, .inr ⟨hu, hw⟩]
  · rcases h with h | ⟨h, -⟩
    exacts [h, absurd h hc]

end Signals

/-! ### Frames -/

section Frames

variable {s s' : Sys}

theorem wakeInv_initial (p : CreateParams) (buffer : Bytes) (producers : Nat → Producer)
    (queue : Nat → Nat) : WakeInv (Sys.initial p buffer producers queue) := by
  intro t c h
  cases t <;> cases h

/-- Each thread blocked after the step either was blocked before on the same
call with its condition already holding (and keeps its flag), or has been woken. -/
theorem WakeInv.frame (h : WakeInv s)
    (hstep : ∀ u c, s'.pc u = .wait c → s'.waitGuard c →
      (s.pc u = .wait c ∧ s.waitGuard c ∧ (s.woken u → s'.woken u)) ∨ s'.woken u) :
    WakeInv s' := by
  intro u c hw hg
  rcases hstep u c hw hg with ⟨hw₀, hg₀, hm⟩ | hk
  exacts [hm (h u c hw₀ hg₀), hk]

/-- A step that makes no condition true, keeps the flags of the blocked threads,
and blocks a thread only on a condition that does not hold. -/
theorem WakeInv.quiet (h : WakeInv s) (hg : ∀ c, s'.waitGuard c → s.waitGuard c)
    (hw : ∀ u c, s.pc u = .wait c → s.woken u → s'.woken u)
    (hpc : ∀ u c, s'.pc u = .wait c → s.pc u = .wait c ∨ s'.waitGuard c = false) :
    WakeInv s' :=
  h.frame fun u c hw' hg' => by
    rcases hpc u c hw' with hold | hf
    · exact .inl ⟨hold, hg c hg', hw u c hold⟩
    · simp [hf] at hg'

/-- One thread's new program counter blocks it at most on a condition that does not hold. -/
theorem wait_update {f : Tid → Pc} {t : Tid} {p : Pc} {P : Call → Prop}
    (hp : ∀ c, p = .wait c → P c) (u : Tid) (c : Call) (hu : Function.update f t p u = .wait c) :
    (u ≠ t ∧ f u = .wait c) ∨ P c := by
  rw [Function.update_apply] at hu
  split at hu
  exacts [.inr (hp c hu), .inl ⟨‹_›, hu⟩]

/-- Conditions read only `pending_message`, `closed` and `next_waiting_producer_id`. -/
theorem waitGuard_of (hp : s'.mpsc.pendingMessage → s.mpsc.pendingMessage)
    (hc : s'.mpsc.closed → s.mpsc.closed)
    (hn : s'.mpsc.nextWaitingProducerId = s.mpsc.nextWaitingProducerId ∨
      s'.mpsc.nextWaitingProducerId = -1) (c : Call) :
    s'.waitGuard c → s.waitGuard c := by
  cases c <;> simp only [Sys.waitGuard, Bool.or_eq_true, beq_iff_eq, imp_self]
  · rintro (h | h)
    · exact .inl (hc h)
    · rcases hn with hn | hn
      · exact .inr (hn ▸ h)
      · omega
  · rintro (h | h)
    exacts [.inl (hp h), .inr (hc h)]

theorem waitGuard_congr (hm : s'.mpsc = s.mpsc) : s'.waitGuard = s.waitGuard := by
  unfold Sys.waitGuard; rw [hm]

/-- Steps that change neither the conditions nor any flag. -/
theorem WakeInv.move {t : Tid} {p : Pc} (h : WakeInv s) (hmpsc : s'.mpsc = s.mpsc)
    (hwoken : s'.woken = s.woken) (hpc : s'.pc = Function.update s.pc t p)
    (hp : ∀ c, p ≠ .wait c) : WakeInv s' :=
  h.quiet (waitGuard_of (by rw [hmpsc]; exact id) (by rw [hmpsc]; exact id) (.inl (by rw [hmpsc])))
    (fun u _ _ hw => hwoken ▸ hw)
    (fun u c hu => wait_update (P := fun _ => False) (fun c hc => hp c hc) u c (hpc ▸ hu)
      |>.imp And.right False.elim)

/-- A critical section that makes no condition true, and blocks its own thread
at most on a condition that does not hold. -/
theorem WakeInv.leave {t : Tid} {c : Call} {p : Pc} (h : WakeInv s) (hown : s.pc t = .owns c)
    (hg : ∀ c, s'.waitGuard c → s.waitGuard c) (hwoken : ∀ u, u ≠ t → s'.woken u = s.woken u)
    (hpc : s'.pc = Function.update s.pc t p) (hp : ∀ c, p = .wait c → s'.waitGuard c = false) :
    WakeInv s' :=
  h.quiet hg (fun u c hu hw => by
      rw [hwoken u (by rintro rfl; rw [hown] at hu; cases hu)]; exact hw)
    (fun u c hu => (wait_update hp u c (hpc ▸ hu)).imp_left And.right)

/-- Steps that move no thread and change no flag, and only make conditions false. -/
theorem WakeInv.weaken (h : WakeInv s) (hpc : s'.pc = s.pc) (hwoken : s'.woken = s.woken)
    (hg : ∀ c, s'.waitGuard c → s.waitGuard c) : WakeInv s' :=
  fun u c hu hg' => hwoken ▸ h u c (hpc ▸ hu) (hg c hg')

theorem wait_update_user {f : Tid → Pc} {t u : Tid} {code : UserCode} {r : Ret} {c : Call}
    (hu : Function.update f t (.user code r) u = .wait c) : f u = .wait c := by
  rcases wait_update (P := fun _ => False) (fun _ h => by cases h) u c hu with ⟨-, hu⟩ | hf
  exacts [hu, hf.elim]

end Frames

/-! ### Who waits on what -/

section Waiters

variable {s : Sys}

theorem Lifecycle.consumer_of_wait (h : Lifecycle s) {u : Tid} (hu : s.pc u = .wait .consumerLoop) :
    u = .consumer := by
  have := h.kinds u; rwa [hu] at this

/-- The thread blocked in the wait loop of slot `id` is the producer of slot `id`. -/
theorem QueueInv.producer_of_wait (hl : Lifecycle s) (h : QueueInv s) {u : Tid} {data : Bytes}
    {id ticket : Nat} (hu : s.pc u = .wait (.sendWait data id ticket)) : u = .producer id := by
  obtain ⟨i, rfl⟩ : ∃ i, u = .producer i := by have := hl.kinds u; rwa [hu] at this
  rw [(h.slot i id ticket (by rw [hu]; rfl)).1]

/-- A producer that has finished, or whose slot is not registered, is not blocked. -/
theorem Lifecycle.not_wait_of_done (h : Lifecycle s) {j : Nat}
    (hj : j < s.mpsc.producerCount → (s.mpsc.producers j).done = true) (c : Call) :
    s.pc (.producer j) ≠ .wait c := by
  intro hw
  by_cases hlt : j < s.mpsc.producerCount
  · rw [(h.done_iff j hlt).1 (hj hlt)] at hw; cases hw
  · rw [h.idle j (by omega)] at hw; cases hw

/-- When `mpsc_producer_done` of slot `i` brings `n_producers_closed` up to
`producer_count`, every other producer has finished. -/
theorem Lifecycle.finished_of_last (h : Lifecycle s) {i : Nat}
    (hown : s.pc (.producer i) = .owns .producerDone) (hd : (s.mpsc.producers i).done = false)
    (hlast : s.mpsc.nProducersClosed + 1 = s.mpsc.producerCount) (j : Nat) (c : Call) :
    s.pc (.producer j) ≠ .wait c := by
  have hi := (h.running hown).1
  have hall := (doneCount_eq_iff _ _).1
    (by rw [doneCount_finish _ _ _ hi hd, ← h.closed_count, hlast])
  by_cases hji : j = i
  · subst hji; rw [hown]; nofun
  · exact h.not_wait_of_done (fun hj => by simpa [Function.update_noteq hji] using hall j hj) c

/-- When `n_producers_closed = producer_count`, no producer is blocked. -/
theorem Lifecycle.finished_of_all (h : Lifecycle s)
    (hall : s.mpsc.producerCount = s.mpsc.nProducersClosed) (j : Nat) (c : Call) :
    s.pc (.producer j) ≠ .wait c :=
  h.not_wait_of_done ((doneCount_eq_iff _ _).1 (by rw [← h.closed_count, hall]) j) c

end Waiters

/-! ### The signalling sections -/

section Signalling

variable {s s' : Sys}

theorem deposit_woken (s : Sys) (i : Nat) (data : Bytes) (ticket : Nat) (sub : Bool) (u : Tid) :
    (s.deposit i data ticket sub).woken u = true ↔
      s.woken u = true ∨ u = .consumer ∧ (s.pc u).waitsOn .main = true :=
  woken_signal_iff _ _ _

/-- The deposit of `mpsc_producer_send` makes the consumer's condition true and
signals `condition_variable`. -/
theorem WakeInv.deposit {i ticket : Nat} {data : Bytes} {sub : Bool}
    (hk : ∀ u, s.pc u = .wait .consumerLoop → u = .consumer) (h : WakeInv s) :
    WakeInv (s.deposit i data ticket sub) := by
  refine h.frame fun u c hw hg => ?_
  rw [deposit_pc] at hw
  rcases wait_update (P := fun _ => False) (fun c h => by cases h) u c hw with ⟨hne, hw⟩ | hf
  · cases c with
    | consumerLoop =>
      obtain rfl := hk u hw
      exact .inr ((deposit_woken _ _ _ _ _ _).2 (.inr ⟨rfl, by rw [hw]; rfl⟩))
    | sendWait d id tk =>
      exact .inl ⟨hw, hg, fun hk => (deposit_woken _ _ _ _ _ _).2 (.inl hk)⟩
    | _ => cases hg
  · exact hf.elim

/-- The signals of `mpsc_consumer_close`: on `condition_variable`, then on the
variable of every queue entry. -/
theorem consumerClose_woken (s : Sys) (t : Tid) (caller : UserCode) (u : Tid)
    (h : s.woken u = true ∨ u = .consumer ∧ (s.pc u).waitsOn .main = true ∨
      ∃ j < s.mpsc.nProducersWaiting, u = .producer (s.mpsc.producerWaitingIdsQueue j) ∧
        (s.pc u).waitsOn (.producer (s.mpsc.producerWaitingIdsQueue j)) = true) :
    (s.consumerClose t caller).woken u = true := by
  unfold Sys.consumerClose
  refine woken_signalWaiting _ _ _ ?_
  rcases h with h | h | h
  exacts [.inl ((woken_signal_iff _ _ _).2 (.inl h)), .inl ((woken_signal_iff _ _ _).2 (.inr h)),
    .inr h]

/-- `mpsc_consumer_close` makes every condition true and signals the consumer and
every queued producer. -/
theorem WakeInv.consumerClose {t : Tid} {caller : UserCode} (hl : Lifecycle s) (hq : QueueInv s)
    (h : WakeInv s) : WakeInv (s.consumerClose t caller) := by
  refine h.frame fun u c hw hg => ?_
  rw [Sys.consumerClose_pc] at hw
  rcases wait_update (P := fun _ => False) (fun c h => by cases h) u c hw with ⟨hne, hw⟩ | hf
  · cases c with
    | consumerLoop =>
      obtain rfl := hl.consumer_of_wait hw
      exact .inr (consumerClose_woken _ _ _ _ (.inr (.inl ⟨rfl, by rw [hw]; rfl⟩)))
    | sendWait d id tk =>
      obtain rfl := hq.producer_of_wait hl hw
      cases hc : s.mpsc.closed
      · obtain ⟨j, hj, hqj⟩ := (mem_waitQueue _ _).1 ((hq.members hc id).2 (by rw [hw]; rfl))
        exact .inr (consumerClose_woken _ _ _ _ (.inr (.inr ⟨j, hj, by rw [hqj],
          by rw [hw, hqj]; simp [Pc.waitsOn, Call.cv]⟩)))
      · exact .inl ⟨hw, by simp [Sys.waitGuard, hc],
          fun hk => consumerClose_woken _ _ _ _ (.inl hk)⟩
    | _ => cases hg
  · exact hf.elim

/-- The delivery branch of the consumer loop clears the slot and elects the head
of the queue, signalling its variable. -/
theorem WakeInv.elect (X : Sys) {inv : List Invocation} (hl : Lifecycle s) (hq : QueueInv s)
    (h : WakeInv s) (hX : X.pc = s.pc) (hXw : X.woken = s.woken)
    (hXm : X.mpsc.closed = s.mpsc.closed ∧
      X.mpsc.nextWaitingProducerId = s.mpsc.nextWaitingProducerId ∧
      X.mpsc.nProducersWaiting = s.mpsc.nProducersWaiting ∧
      X.mpsc.producerWaitingIdsQueue = s.mpsc.producerWaitingIdsQueue) :
    WakeInv ({ X.elect.unlock with invocations := inv }.setPc .consumer
      (.user .consumerCallback .none)) := by
  obtain ⟨hc, hn, hw₀, hq₀⟩ := hXm
  refine h.frame fun u c hw hg => ?_
  simp only [Sys.setPc_pc_eq, Sys.unlock_pc_eq, Sys.elect_pc, hX] at hw
  rcases wait_update (P := fun _ => False) (fun c h => by cases h) u c hw with ⟨hne, hw⟩ | hf
  · cases c with
    | consumerLoop => exact absurd (hl.consumer_of_wait hw) hne
    | sendWait d id tk =>
      obtain rfl := hq.producer_of_wait hl hw
      by_cases hg₀ : s.waitGuard (.sendWait d id tk)
      · exact .inl ⟨hw, hg₀, fun hk => woken_elect X _ (.inl (hXw ▸ hk))⟩
      · right
        simp only [Sys.waitGuard, Bool.or_eq_true, beq_iff_eq, not_or] at hg₀ hg
        simp only [Sys.setPc_mpsc, Sys.unlock_mpsc] at hg
        rw [Sys.elect_eq] at hg
        simp only [hc, hn, hw₀, hq₀] at hg
        split at hg
        · rename_i hcond
          rcases hg with hg | hg
          · exact absurd hg hg₀.1
          · have hid : s.mpsc.producerWaitingIdsQueue 0 = id := by exact_mod_cast hg
            refine woken_elect X _ (.inr ⟨by simpa [hc, hw₀] using hcond, ?_, ?_⟩) <;>
              rw [hq₀, hid]
            rw [hX, hw]; simp [Pc.waitsOn, Call.cv]
        · rcases hg with hg | hg
          exacts [absurd hg hg₀.1, absurd hg hg₀.2]
    | _ => cases hg
  · exact hf.elim

/-- A closure by `mpsc_producer_done` or `mpsc_join` signals only the consumer;
it keeps the invariant when no producer is blocked. -/
theorem WakeInv.close_finished (X : Sys) {t : Tid} {p : Pc} (hl : Lifecycle s) (h : WakeInv s)
    (hnone : ∀ j c, s.pc (.producer j) ≠ .wait c) (hX : X.pc = s.pc) (hp : ∀ c, p ≠ .wait c) :
    WakeInv ((X.signal .main).unlock.setPc t p) := by
  refine h.frame fun u c hw hg => ?_
  simp only [Sys.setPc_pc_eq, Sys.unlock_pc_eq, Sys.signal_pc_eq, hX] at hw
  rcases wait_update (P := fun _ => False) (fun c h => hp c h) u c hw with ⟨-, hw⟩ | hf
  · right
    show (X.signal .main).woken u = true
    rw [woken_signal_iff, hX]
    cases c with
    | consumerLoop =>
      obtain rfl := hl.consumer_of_wait hw
      exact .inr ⟨rfl, by rw [hw]; rfl⟩
    | sendWait d id tk =>
      obtain ⟨i, rfl⟩ : ∃ i, u = .producer i := by have := hl.kinds u; rwa [hw] at this
      exact absurd hw (hnone i _)
    | _ => cases hg
  · exact hf.elim

end Signalling

/-! ### Every critical section -/

section Sections

variable {s s' : Sys}

theorem wakeInv_sendWaitLoop {i j ticket : Nat} {data : Bytes} {c : Call}
    (hk : ∀ u, s.pc u = .wait .consumerLoop → u = .consumer) (h : WakeInv s)
    (hown : s.pc (.producer i) = .owns c) (he : s.sendWaitLoop i data j ticket = .ok s') :
    WakeInv s' := by
  unfold Sys.sendWaitLoop at he
  split_ifs at he with h1 h2
  · -- back to `pthread_cond_wait`, on a condition that does not hold
    cases he
    refine h.leave hown (fun _ => id) (fun u hu => Function.update_noteq hu _ _) rfl ?_
    rintro c ⟨⟩
    simpa [Sys.waitGuard] using h1
  · cases he
    exact h.leave hown (fun _ => id) (fun _ _ => rfl) rfl nofun
  · cases hs : mpscShiftProducerWaitQueue s.mpsc with
    | error e => simp [hs, Except.map] at he
    | ok m =>
      simp only [hs, Except.map, Except.ok.injEq] at he
      subst he
      obtain ⟨-, rfl⟩ := shift_ok hs
      refine WakeInv.deposit ?_ ?_
      exacts [hk, h.weaken rfl rfl (waitGuard_of id id (.inr rfl))]

theorem wakeInv_sendEntry {i : Nat} {data : Bytes}
    (hk : ∀ u, s.pc u = .wait .consumerLoop → u = .consumer) (h : WakeInv s)
    (hown : s.pc (.producer i) = .owns (.send data)) (he : s.sendEntry i data = .ok s') :
    WakeInv s' := by
  rcases Sys.sendEntry_cases he with ⟨-, ⟨-, rfl⟩ | ⟨-, -, m, j, hsub, he⟩ | ⟨-, -, -, rfl⟩⟩
  · exact h.leave hown (fun _ => id) (fun _ _ => rfl) rfl nofun
  · obtain ⟨rfl, -, -, rfl⟩ := subscribe_ok hsub
    refine wakeInv_sendWaitLoop (c := .send data) ?_ ?_ ?_ he
    exacts [hk, h.weaken rfl rfl (waitGuard_of id id (.inl rfl)), hown]
  · exact WakeInv.deposit hk h

theorem wakeInv_consumerLoop {t : Tid} {ok : Bool} (hl : Lifecycle s) (hq : QueueInv s)
    (h : WakeInv s) (hown : s.pc t = .owns .consumerLoop) (he : s.consumerLoop t ok = .ok s') :
    WakeInv s' := by
  obtain rfl : t = .consumer := hl.runsOn_owns hown
  rcases Sys.consumerLoop_cases he with ⟨hp, hc, rfl⟩ | ⟨-, -, rfl⟩ | ⟨-, -, -, -, rfl⟩ |
    ⟨-, -, rfl⟩ | ⟨-, -, rfl⟩
  · -- back to `pthread_cond_wait`, with nothing to take
    refine h.leave hown (fun _ => id) (fun u hu => Function.update_noteq hu _ _) rfl ?_
    rintro c ⟨⟩
    simp [Sys.waitGuard, hp, hc]
  · exact h.leave hown (fun _ => id) (fun _ _ => rfl) rfl nofun
  · -- the message goes to the error callback: the slot is cleared, no election
    exact h.leave hown (waitGuard_of (fun h => by cases h) id (.inl rfl)) (fun _ _ => rfl) rfl nofun
  -- delivery, with or without a block for the copy
  all_goals exact WakeInv.elect _ hl hq h rfl rfl ⟨rfl, rfl, rfl, rfl⟩

theorem wakeInv_registerProducer {t : Tid} {caller : UserCode} {ok : Bool} (h : WakeInv s)
    (hown : s.pc t = .owns (.registerProducer caller))
    (he : s.registerProducer t caller ok = .ok s') : WakeInv s' := by
  rcases Sys.registerProducer_cases he with ⟨-, rfl⟩ | ⟨-, -, rfl⟩ | ⟨-, -, -, rfl⟩ | ⟨-, -, -, -, rfl⟩
  · exact h.leave hown (fun _ => id) (fun _ _ => rfl) rfl nofun
  · exact h.leave hown (fun _ => id) (fun _ _ => rfl) rfl nofun
  · -- the new producer thread starts in its task
    exact h.quiet (fun _ => id) (fun _ _ _ => id)
      fun u c hu => .inl (wait_update_user (wait_update_user hu))
  · exact h.leave hown (fun _ => id) (fun _ _ => rfl) rfl nofun

theorem wakeInv_producerDone {i : Nat} (hl : Lifecycle s) (h : WakeInv s)
    (hown : s.pc (.producer i) = .owns .producerDone) : WakeInv (s.producerDone i) := by
  obtain ⟨-, hd, -⟩ := hl.running hown
  unfold Sys.producerDone
  simp only [hd, Bool.not_false, if_true]
  split
  · -- the last producer of a joined channel closes it
    rename_i hc
    exact WakeInv.close_finished _ hl h (hl.finished_of_last hown hd hc.1) rfl nofun
  · exact h.leave hown (fun _ => id) (fun _ _ => rfl) rfl nofun

theorem wakeInv_join {t : Tid} (hl : Lifecycle s) (h : WakeInv s) (hown : s.pc t = .owns .join)
    (he : s.join t = .ok s') : WakeInv s' := by
  rcases Sys.join_cases he with ⟨-, -, ⟨h4, rfl⟩ | ⟨-, rfl⟩⟩
  · exact WakeInv.close_finished _ hl h (hl.finished_of_all h4) rfl nofun
  · exact h.leave hown (fun _ => id) (fun _ _ => rfl) rfl nofun

theorem wakeInv_runSection {t : Tid} {ok : Bool} {c : Call} (hl : Lifecycle s) (hq : QueueInv s)
    (h : WakeInv s) (hown : s.pc t = .owns c) (he : s.runSection t ok c = some (.ok s')) :
    WakeInv s' := by
  have hk : ∀ u, s.pc u = .wait .consumerLoop → u = .consumer := fun _ => hl.consumer_of_wait
  rcases Sys.runSection_cases he with ⟨i, data, rfl, rfl, hr⟩ | ⟨i, data, j, ticket, rfl, rfl, hr⟩ |
    ⟨i, rfl, rfl, hr⟩ | ⟨i, rfl, rfl, hr⟩ | ⟨caller, rfl, hr⟩ | ⟨caller, rfl, hr⟩ |
    ⟨rfl, hr⟩ | ⟨rfl, hr⟩ | ⟨rfl, hr⟩
  · exact wakeInv_sendEntry hk h hown hr.symm
  · exact wakeInv_sendWaitLoop hk h hown hr.symm
  · cases hr; exact h.leave hown (fun _ => id) (fun _ _ => rfl) rfl nofun
  · cases hr; exact wakeInv_producerDone hl h hown
  · exact wakeInv_registerProducer h hown hr.symm
  · cases hr; exact WakeInv.consumerClose hl hq h
  · exact wakeInv_consumerLoop hl hq h hown hr.symm
  · exact wakeInv_join hl h hown hr.symm
  · -- `mpsc_join` sets a flag that is already set
    cases hr
    obtain rfl := hl.main_of_owns_join hown (.inr rfl)
    have hc : s.mpsc.closed := hl.final_closed (hl.join_close (.inr hown))
    exact h.leave hown (waitGuard_of id (fun _ => hc) (.inl rfl)) (fun _ _ => rfl) rfl nofun

end Sections

theorem wakeInv_step {s s' : Sys} {e : Event} (hl : Lifecycle s) (hq : QueueInv s) (h : WakeInv s)
    (he : s.step e = some (.ok s')) : WakeInv s' := by
  cases e with
  | call t op =>
    obtain ⟨code, last, c, -, -, rfl⟩ := Sys.step_call he
    exact h.move rfl rfl rfl nofun
  | ret t =>
    obtain ⟨code, last, p, -, hp, rfl⟩ := Sys.step_ret he
    refine h.move rfl rfl rfl ?_
    cases code <;> cases hp <;> nofun
  | acquire t =>
    obtain ⟨c, -, -, rfl⟩ := Sys.step_acquire he
    exact h.move rfl rfl rfl nofun
  | run t ok =>
    obtain ⟨c, hown, hr⟩ := Sys.step_run he
    exact wakeInv_runSection hl hq h hown hr
  | joined t =>
    rcases Sys.step_joined he with ⟨-, -, rfl⟩ | ⟨i, u, -, -, -, -, rfl⟩ | ⟨i, -, -, rfl⟩ <;>
      exact h.move rfl rfl rfl nofun

theorem reachable_wakeInv {s : Sys} (h : Reachable s) : WakeInv s := by
  induction h with
  | init p buffer producers queue => exact wakeInv_initial p buffer producers queue
  | step e hr he ih => exact wakeInv_step (reachable_lifecycle hr) (reachable_queueInv hr) ih he

/-- No lost wake-up, and a blocked thread whose condition holds can take the
mutex as soon as it is free. The closures of `mpsc_producer_done` (line 359)
and `mpsc_join` (line 209), which signal only `condition_variable`, run only
when no producer is blocked. -/
theorem no_lost_wakeup {s : Sys} (h : Reachable s) :
    (∀ t c, s.pc t = .wait c → s.waitGuard c = true → s.woken t = true) ∧
    (∀ t c, s.pc t = .wait c → s.waitGuard c = true → s.owner = none →
      ∃ s', s.step (.acquire t) = some (.ok s')) ∧
    (∀ i, s.pc (.producer i) = .owns .producerDone → (s.mpsc.producers i).done = false →
      s.mpsc.nProducersClosed + 1 = s.mpsc.producerCount →
      ∀ j c, s.pc (.producer j) ≠ .wait c) ∧
    (∀ t, s.pc t = .owns .join → s.mpsc.producerCount = s.mpsc.nProducersClosed →
      ∀ j c, s.pc (.producer j) ≠ .wait c) := by
  have hw := reachable_wakeInv h
  have hl := reachable_lifecycle h
  refine ⟨hw, fun t c hc hg ho => ?_, fun i hown hd hlast => hl.finished_of_last hown hd hlast,
    fun _ _ hall => hl.finished_of_all hall⟩
  exact ⟨{ s.setPc t (.owns c) with owner := some t },
    by simp only [Sys.step, ho, hc, hw t c hc hg, if_true]⟩

/-- After `electionRun` producer 1 waits with its condition true: it has been
signalled, and can take the free mutex. -/
theorem no_lost_wakeup_after_election :
    ∃ s, noErrorHandlingChannel.run electionRun = some s ∧ Reachable s ∧
      s.pc (.producer 1) = .wait (.sendWait [8] 1 1) ∧ s.waitGuard (.sendWait [8] 1 1) = true ∧
      s.woken (.producer 1) = true ∧ ∃ s', s.step (.acquire (.producer 1)) = some (.ok s') := by
  have hr : Reachable noErrorHandlingChannel := .init _ _ _ _ rfl rfl
  have hs := @Reachable.run _ _ hr electionRun rfl
  have hw := no_lost_wakeup hs
  exact ⟨_, rfl, hs, rfl, rfl, hw.1 _ _ rfl rfl, hw.2.1 _ _ rfl rfl rfl⟩

end CMpsc
