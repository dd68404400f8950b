import CMpsc.Handoff

/-!
# Signalled waiters find their condition true

The converse of `Wakeup`: a thread blocked on a condition variable has been
signalled only if its condition holds. Every signal of `mpsc.c` follows the
write that makes its waiter's condition true: the deposit of
`mpsc_producer_send` sets `pending_message` before it signals the consumer
(lines 335-341), the consumer loop sets `next_waiting_producer_id` before it
signals the elected producer (lines 613-618), and `mpsc_consumer_close`,
`mpsc_producer_done` and `mpsc_join` set `closed` first (lines 271, 361,
219). No step makes a signalled condition false again: only the consumer
clears `pending_message`, and it is not blocked when it does; only the
elected producer shifts the queue and resets `next_waiting_producer_id`; and
a new election picks the head of the queue, which is the producer already
elected. So a thread that leaves `pthread_cond_wait` after a signal never goes
round its wait loop again.

POSIX also lets `pthread_cond_wait` return without a signal. `Sys.step` leaves
such returns out, and `spurious_return_stutters` says what one does: the thread
takes the mutex as a signalled one would, or it finds its condition false,
waits again, and leaves the state as it was.
-/

namespace CMpsc

/-- A thread blocked on a variable that has been signalled since it began to
wait finds its condition true. -/
def SignalInv (s : Sys) : Prop :=
  ∀ t c, s.pc t = .wait c → s.woken t = true → s.waitGuard c = true

/-- Only the two wait loops block on a condition variable. -/
theorem Call.eq_of_cv {c : Call} (hc : c.cv.isSome) :
    c = .consumerLoop ∨ ∃ data id ticket, c = .sendWait data id ticket := by
  cases c <;> simp [Call.cv] at hc
  exacts [.inr ⟨_, _, _, rfl⟩, .inl rfl]

/-- One thread's new program counter, which is not a wait, blocks nobody new. -/
theorem wait_of_update {f : Tid → Pc} {t u : Tid} {p : Pc} {c : Call} (hp : ∀ c, p ≠ .wait c)
    (hu : Function.update f t p u = .wait c) : f u = .wait c := by
  rcases wait_update (P := fun _ => False) (fun c h => hp c h) u c hu with ⟨-, hu⟩ | hf
  exacts [hu, hf.elim]

/-! ### Frames -/

section Frames

variable {s s' : Sys}

theorem signalInv_initial (p : CreateParams) (buffer : Bytes) (producers : Nat → Producer)
    (queue : Nat → Nat) : SignalInv (Sys.initial p buffer producers queue) := by
  intro t c h
  cases t <;> cases h

/-- Conditions read only `pending_message`, `closed` and `next_waiting_producer_id`;
a step that clears none of them keeps every condition that holds. -/
theorem waitGuard_mono (hp : s.mpsc.pendingMessage = true → s'.mpsc.pendingMessage = true)
    (hc : s.mpsc.closed = true → s'.mpsc.closed = true)
    (hn : s'.mpsc.nextWaitingProducerId = s.mpsc.nextWaitingProducerId) (c : Call) :
    s.waitGuard c = true → s'.waitGuard c = true := by
  cases c <;> simp only [Sys.waitGuard, Bool.or_eq_true, beq_iff_eq, hn, imp_self]
  · exact Or.imp_left hc
  · exact Or.imp hp hc

/-- Once the channel is closed the condition of every wait loop holds. -/
theorem waitGuard_of_closed (hc : s.mpsc.closed = true) {c : Call} (hcv : c.cv.isSome) :
    s.waitGuard c = true := by
  rcases Call.eq_of_cv hcv with rfl | ⟨data, id, ticket, rfl⟩ <;> simp [Sys.waitGuard, hc]

/-- A step after which the channel is closed, and which blocks no thread anew. -/
theorem SignalInv.of_closed (hl : Lifecycle s) (hc : s'.mpsc.closed = true)
    (hpc : ∀ u c, s'.pc u = .wait c → s.pc u = .wait c) : SignalInv s' :=
  fun u c hu _ => waitGuard_of_closed hc (hl.waits u c (hpc u c hu))

/-- Steps that change neither the conditions nor any flag. -/
theorem SignalInv.move {t : Tid} {p : Pc} (h : SignalInv s) (hmpsc : s'.mpsc = s.mpsc)
    (hwoken : s'.woken = s.woken) (hpc : s'.pc = Function.update s.pc t p)
    (hp : ∀ c, p ≠ .wait c) : SignalInv s' := fun u c hu hk =>
  waitGuard_mono (by rw [hmpsc]; exact id) (by rw [hmpsc]; exact id) (by rw [hmpsc]) c
    (h u c (wait_of_update hp (hpc ▸ hu)) (hwoken ▸ hk))

/-- A critical section of `t` that signals no one, keeps the condition of every
other blocked thread, and blocks `t` at most with its flag cleared. -/
theorem SignalInv.leave {t : Tid} {p : Pc} (h : SignalInv s)
    (hg : ∀ u c, u ≠ t → s.pc u = .wait c → s.waitGuard c = true → s'.waitGuard c = true)
    (hwoken : ∀ u, u ≠ t → s'.woken u = s.woken u) (hpc : s'.pc = Function.update s.pc t p)
    (hp : ∀ c, p = .wait c → s'.woken t = false) : SignalInv s' := by
  intro u c hu hk
  rw [hpc] at hu
  by_cases hut : u = t
  · subst hut
    rw [Function.update_same] at hu
    rw [hp c hu] at hk
    cases hk
  · rw [Function.update_noteq hut] at hu
    exact hg u c hut hu (h u c hu (hwoken u hut ▸ hk))

end Frames

/-! ### The signalling sections -/

section Signalling

variable {s : Sys}

/-- The deposit of `mpsc_producer_send` sets `pending_message`, then signals the consumer. -/
theorem SignalInv.deposit {i ticket : Nat} {data : Bytes} {sub : Bool} (h : SignalInv s) :
    SignalInv (s.deposit i data ticket sub) := by
  intro u c hu hk
  have hu₀ := wait_of_update (fun _ h => by cases h) (deposit_pc s i data ticket sub ▸ hu)
  rcases (deposit_woken _ _ _ _ _ _).1 hk with hk | ⟨-, hw⟩
  · exact waitGuard_mono (fun _ => by simp [Sys.deposit]) (fun h => by simpa [Sys.deposit] using h)
      (by simp [Sys.deposit]) c (h u c hu₀ hk)
  · rw [hu₀] at hw
    obtain rfl : c = .consumerLoop := by cases c <;> simp_all [Pc.waitsOn, Call.cv]
    simp [Sys.waitGuard, Sys.deposit]

/-- The shift of the queue by the elected producer resets
`next_waiting_producer_id`, which no other blocked producer was signalled for. -/
theorem SignalInv.shift {i : Nat} {c : Call} {m : Mpsc} (h : SignalInv s)
    (hown : s.pc (.producer i) = .owns c)
    (hslot : ∀ u data k ticket, s.pc u = .wait (.sendWait data k ticket) → u = .producer k)
    (hc : s.mpsc.closed = false) (hn : s.mpsc.nextWaitingProducerId = (i : Int))
    (hm : mpscShiftProducerWaitQueue s.mpsc = .ok m) : SignalInv { s with mpsc := m } := by
  obtain ⟨-, rfl⟩ := shift_ok hm
  intro u c' hu hk
  have hg := h u c' hu hk
  cases c' with
  | sendWait data k ticket =>
    obtain rfl := hslot u data k ticket hu
    simp only [Sys.waitGuard, hc, hn, Bool.false_or, beq_iff_eq] at hg
    obtain rfl : i = k := by omega
    rw [hown] at hu
    cases hu
  | _ => exact hg

/-- The signal of the election reaches a thread that was not signalled before
only if it is the elected head of the queue. -/
theorem woken_of_elect (X : Sys) (u : Tid) (h : X.elect.woken u = true) :
    X.woken u = true ∨ (X.mpsc.nProducersWaiting > 0 && !X.mpsc.closed) = true ∧
      u = .producer (X.mpsc.producerWaitingIdsQueue 0) := by
  unfold Sys.elect at h
  split at h
  · rcases (woken_signal_iff _ _ _).1 h with h | ⟨rfl, -⟩
    exacts [.inl h, .inr ⟨‹_›, rfl⟩]
  · exact .inl h

/-- The delivery branch of the consumer loop clears the slot and elects the head
of the queue. A producer signalled before is the head when it was elected, so
the election keeps its condition; the head is signalled after its election. -/
theorem SignalInv.elect (X : Sys) {inv : List Invocation} (hl : Lifecycle s) (hq : QueueInv s)
    (h : SignalInv s) (hX : X.pc = s.pc) (hXw : X.woken = s.woken)
    (hXm : X.mpsc.closed = s.mpsc.closed ∧
      X.mpsc.nextWaitingProducerId = s.mpsc.nextWaitingProducerId ∧
      X.mpsc.nProducersWaiting = s.mpsc.nProducersWaiting ∧
      X.mpsc.producerWaitingIdsQueue = s.mpsc.producerWaitingIdsQueue) :
    SignalInv ({ X.elect.unlock with invocations := inv }.setPc .consumer
      (.user .consumerCallback .none)) := by
  obtain ⟨hc, hn, hw₀, hq₀⟩ := hXm
  intro u c hu hk
  simp only [Sys.setPc_pc_eq, Sys.unlock_pc_eq, Sys.elect_pc, hX] at hu
  rcases wait_update (P := fun _ => False) (fun c h => by cases h) u c hu with ⟨hne, hu⟩ | hf
  swap; · exact hf.elim
  rcases Call.eq_of_cv (hl.waits u c hu) with rfl | ⟨data, k, ticket, rfl⟩
  · exact absurd (hl.consumer_of_wait hu) hne
  obtain rfl := hq.producer_of_wait hl hu
  simp only [Sys.setPc_mpsc, Sys.unlock_mpsc, Sys.waitGuard, Bool.or_eq_true, beq_iff_eq]
  rw [Sys.elect_eq]
  simp only [hc, hn, hw₀, hq₀]
  rcases woken_of_elect X _ hk with hk | ⟨hcond, hk⟩
  · -- signalled before: the channel was closed, or `k` was elected as the head
    have hg := h _ _ hu (hXw ▸ hk)
    simp only [Sys.waitGuard, Bool.or_eq_true, beq_iff_eq] at hg
    rcases hg with hg | hg
    · exact .inl hg
    · obtain ⟨hpos, hhead⟩ := hq.head_of_next hg
      cases hcl : s.mpsc.closed
      · right
        simp [hpos, hcl, hhead]
      · exact .inl rfl
  · -- signalled by this election
    simp only [hc, hw₀, hq₀, Tid.producer.injEq] at hcond hk
    right
    simp [hcond, hk]

end Signalling

/-! ### Every critical section -/

section Sections

variable {s s' : Sys}

theorem signalInv_sendWaitLoop {i j ticket : Nat} {data : Bytes} {c : Call}
    (he : s.sendWaitLoop i data j ticket = .ok s') (h : SignalInv s)
    (hown : s.pc (.producer i) = .owns c) (hj : j = i)
    (hslot : ∀ u data k ticket, s.pc u = .wait (.sendWait data k ticket) → u = .producer k) :
    SignalInv s' := by
  unfold Sys.sendWaitLoop at he
  split_ifs at he with h1 h2
  · -- back to `pthread_cond_wait`, with the flag cleared
    cases he
    exact h.leave (t := .producer i) (fun _ _ _ _ => id) (fun u hu => Function.update_noteq hu _ _)
      rfl fun _ _ => Function.update_same _ _ _
  · cases he
    exact h.leave (fun _ _ _ _ => id) (fun _ _ => rfl) rfl nofun
  · cases hs : mpscShiftProducerWaitQueue s.mpsc with
    | error e => simp [hs, Except.map] at he
    | ok m =>
      simp only [hs, Except.map, Except.ok.injEq] at he
      subst he hj
      have hc : s.mpsc.closed = false := by simpa using h2
      have hn : s.mpsc.nextWaitingProducerId = (j : Int) := by simpa [hc] using h1
      exact (h.shift hown hslot hc hn hs).deposit

theorem signalInv_sendEntry {i : Nat} {data : Bytes} (hl : Lifecycle s) (hq : QueueInv s)
    (h : SignalInv s) (hown : s.pc (.producer i) = .owns (.send data))
    (he : s.sendEntry i data = .ok s') : SignalInv s' := by
  rcases Sys.sendEntry_cases he with ⟨-, ⟨-, rfl⟩ | ⟨-, -, m, j, hsub, he⟩ | ⟨-, -, -, rfl⟩⟩
  · exact h.leave (fun _ _ _ _ => id) (fun _ _ => rfl) rfl nofun
  · -- the subscription touches the queue only
    obtain ⟨rfl, -, -, rfl⟩ := subscribe_ok hsub
    exact signalInv_sendWaitLoop he h hown rfl fun u _ _ _ hu => hq.producer_of_wait hl hu
  · exact SignalInv.deposit h

theorem signalInv_consumerLoop {t : Tid} {ok : Bool} (hl : Lifecycle s) (hq : QueueInv s)
    (h : SignalInv s) (hown : s.pc t = .owns .consumerLoop) (he : s.consumerLoop t ok = .ok s') :
    SignalInv s' := by
  obtain rfl : t = .consumer := hl.runsOn_owns hown
  rcases Sys.consumerLoop_cases he with ⟨-, -, rfl⟩ | ⟨-, -, rfl⟩ | ⟨-, -, -, -, rfl⟩ |
    ⟨-, -, rfl⟩ | ⟨-, -, rfl⟩
  · exact h.leave (t := .consumer) (fun _ _ _ _ => id) (fun u hu => Function.update_noteq hu _ _)
      rfl fun _ _ => by simp
  · exact h.leave (fun _ _ _ _ => id) (fun _ _ => rfl) rfl nofun
  · -- the error callback: only the consumer's own condition is cleared
    refine h.leave (fun u c hu hw hg => ?_) (fun _ _ => rfl) rfl nofun
    rcases Call.eq_of_cv (hl.waits u c hw) with rfl | ⟨data, id, ticket, rfl⟩
    exacts [absurd (hl.consumer_of_wait hw) hu, hg]
  all_goals exact SignalInv.elect _ hl hq h rfl rfl ⟨rfl, rfl, rfl, rfl⟩

theorem signalInv_registerProducer {t : Tid} {caller : UserCode} {ok : Bool} (h : SignalInv s)
    (he : s.registerProducer t caller ok = .ok s') : SignalInv s' := by
  rcases Sys.registerProducer_cases he with ⟨-, rfl⟩ | ⟨-, -, rfl⟩ | ⟨-, -, -, rfl⟩ |
    ⟨-, -, -, -, rfl⟩
  · exact h.leave (fun _ _ _ _ => id) (fun _ _ => rfl) rfl nofun
  · exact h.leave (fun _ _ _ _ => id) (fun _ _ => rfl) rfl nofun
  · -- the new producer thread starts in its task
    exact fun u c hu hk => h u c (wait_update_user (wait_update_user hu)) hk
  · exact h.leave (fun _ _ _ _ => id) (fun _ _ => rfl) rfl nofun

theorem signalInv_producerDone {i : Nat} (hl : Lifecycle s) (h : SignalInv s)
    (hown : s.pc (.producer i) = .owns .producerDone) : SignalInv (s.producerDone i) := by
  obtain ⟨-, hd, -⟩ := hl.running hown
  unfold Sys.producerDone
  simp only [hd, Bool.not_false, if_true]
  split
  · -- the last producer of a joined channel closes it
    exact SignalInv.of_closed hl rfl fun u c hu => wait_of_update (fun _ h => by cases h) hu
  · exact h.leave (fun _ _ _ _ => id) (fun _ _ => rfl) rfl nofun

theorem signalInv_runSection {t : Tid} {ok : Bool} {c : Call} (hl : Lifecycle s) (hq : QueueInv s)
    (h : SignalInv s) (hown : s.pc t = .owns c) (he : s.runSection t ok c = some (.ok s')) :
    SignalInv s' := by
  have hclosed : ∀ u c, Function.update s.pc t (.user .consumerCallback .none) u = .wait c →
      s.pc u = .wait c := fun _ _ => wait_update_user
  rcases Sys.runSection_cases he with ⟨i, data, rfl, rfl, hr⟩ | ⟨i, data, j, ticket, rfl, rfl, hr⟩ |
    ⟨i, rfl, rfl, hr⟩ | ⟨i, rfl, rfl, hr⟩ | ⟨caller, rfl, hr⟩ | ⟨caller, rfl, hr⟩ |
    ⟨rfl, hr⟩ | ⟨rfl, hr⟩ | ⟨rfl, hr⟩
  · exact signalInv_sendEntry hl hq h hown hr.symm
  · exact signalInv_sendWaitLoop hr.symm h hown (hq.slot i j ticket (by rw [hown]; rfl)).1
      fun u _ _ _ hu => hq.producer_of_wait hl hu
  · cases hr; exact h.leave (fun _ _ _ _ => id) (fun _ _ => rfl) rfl nofun
  · cases hr; exact signalInv_producerDone hl h hown
  · exact signalInv_registerProducer h hr.symm
  · -- `mpsc_consumer_close` closes the channel first
    cases hr
    refine SignalInv.of_closed hl ?_ fun u c hu => ?_
    · dsimp only [Sys.consumerClose]; rw [Sys.signalWaiting_eq]; rfl
    · rw [Sys.consumerClose_pc] at hu; exact wait_update_user hu
  · exact signalInv_consumerLoop hl hq h hown hr.symm
  · rcases Sys.join_cases hr.symm with ⟨-, -, ⟨-, rfl⟩ | ⟨-, rfl⟩⟩
    · exact SignalInv.of_closed hl rfl fun u c hu => wait_of_update (fun _ h => by cases h) hu
    · exact h.leave (fun _ _ _ _ => id) (fun _ _ => rfl) rfl nofun
  · cases hr
    exact SignalInv.of_closed hl rfl fun u c hu => wait_of_update (fun _ h => by cases h) hu

end Sections

theorem signalInv_step {s s' : Sys} {e : Event} (hl : Lifecycle s) (hq : QueueInv s)
    (h : SignalInv s) (he : s.step e = some (.ok s')) : SignalInv s' := by
  cases e with
  | call t op =>
    obtain ⟨code, last, c, -, -, rfl⟩ := Sys.step_call he
    exact h.move rfl rfl rfl nofun
  | ret t =>
    obtain ⟨code, last, p, -, hp, rfl⟩ := Sys.step_ret he
    refine h.move rfl rfl rfl ?_
    cases code <;> cases hp <;> nofun
  | acquire t =>
    obtain ⟨c, -, -, rfl⟩ := Sys.step_acquire he
    exact h.move rfl rfl rfl nofun
  | run t ok =>
    obtain ⟨c, hown, hr⟩ := Sys.step_run he
    exact signalInv_runSection hl hq h hown hr
  | joined t =>
    rcases Sys.step_joined he with ⟨-, -, rfl⟩ | ⟨i, u, -, -, -, -, rfl⟩ | ⟨i, -, -, rfl⟩ <;>
      exact h.move rfl rfl rfl nofun

theorem reachable_signalInv {s : Sys} (h : Reachable s) : SignalInv s := by
  induction h with
  | init p buffer producers queue => exact signalInv_initial p buffer producers queue
  | step e hr he ih => exact signalInv_step (reachable_lifecycle hr) (reachable_queueInv hr) ih he

/-- A thread blocked on a condition variable has been signalled exactly when the
condition of its wait loop holds, so a thread that leaves `pthread_cond_wait`
after a signal does not wait again in the same call. -/
theorem woken_iff_waitGuard {s : Sys} (h : Reachable s) {t : Tid} {c : Call}
    (hw : s.pc t = .wait c) : s.woken t = true ↔ s.waitGuard c = true :=
  ⟨reachable_signalInv h t c hw, reachable_wakeInv h t c hw⟩

theorem woken_iff_waitGuard_after_election :
    ∃ s, noErrorHandlingChannel.run electionRun = some s ∧ Reachable s ∧
      s.pc (.producer 1) = .wait (.sendWait [8] 1 1) ∧ s.woken (.producer 1) = true ∧
      (s.woken (.producer 1) = true ↔ s.waitGuard (.sendWait [8] 1 1) = true) := by
  have hr : Reachable noErrorHandlingChannel := .init _ _ _ _ rfl rfl
  have hs := @Reachable.run _ _ hr electionRun rfl
  exact ⟨_, rfl, hs, rfl, rfl, woken_iff_waitGuard hs rfl⟩

/-! ### Returns from `pthread_cond_wait` without a signal -/

/-- `pthread_cond_wait` returning without a signal, which POSIX allows: the
blocked thread takes the free mutex all the same. -/
def Sys.spuriousReturn (s : Sys) (t : Tid) : Option Sys :=
  match s.owner, s.pc t with
  | none, .wait c => some { s.setPc t (.owns c) with owner := some t }
  | _, _ => none

section Spurious

variable {s : Sys}

/-- A wait loop whose condition is false waits again. -/
theorem runSection_of_waitGuard {t : Tid} {c : Call} (ok : Bool) (hk : c.runsOn t)
    (hcv : c.cv.isSome) (hg : s.waitGuard c = false) :
    s.runSection t ok c = some (.ok (s.condWait t c)) := by
  rcases Call.eq_of_cv hcv with rfl | ⟨data, id, ticket, rfl⟩
  · simp only [Sys.waitGuard, Bool.or_eq_false_iff] at hg
    simp [Sys.runSection, Sys.consumerLoop, hg]
  · obtain ⟨i, rfl⟩ := hk
    simp only [Sys.waitGuard, Bool.or_eq_false_iff, beq_eq_false_iff_ne] at hg
    simp [Sys.runSection, Sys.sendWaitLoop, hg]

theorem Sys.step_run_of_owns {t : Tid} {c : Call} {ok : Bool} (hown : s.pc t = .owns c) :
    s.step (.run t ok) = s.runSection t ok c := by
  simp [Sys.step, hown]

/-- Waiting again, unsignalled, where the thread already waited gives back the state. -/
theorem condWait_self {t : Tid} {c : Call} (ho : s.owner = none) (hw : s.pc t = .wait c)
    (hk : s.woken t = false) (p : Pc) (o : Option Tid) :
    { s.setPc t p with owner := o }.condWait t c = s := by
  cases s
  simp_all [Sys.condWait, Sys.setPc, Function.update_eq_self_iff]

end Spurious

/-- A return from `pthread_cond_wait` without a signal is the step of a thread
already signalled, or is followed by a critical section that finds the
condition false (`no_lost_wakeup`), waits again and gives back the state before
the return, whatever its allocations do. -/
theorem spurious_return_stutters {s s₁ : Sys} (h : Reachable s) {t : Tid}
    (hs : s.spuriousReturn t = some s₁) :
    s.step (.acquire t) = some (.ok s₁) ∨ ∀ ok, s₁.step (.run t ok) = some (.ok s) := by
  unfold Sys.spuriousReturn at hs
  split at hs
  · rename_i c ho hw
    cases hs
    cases hk : s.woken t
    · -- not signalled: the condition is false, and the section waits again
      have hl := reachable_lifecycle h
      have hg : s.waitGuard c = false :=
        Bool.eq_false_iff.2 fun hg => by simpa [hk] using reachable_wakeInv h t c hw hg
      have hkind : c.runsOn t := by simpa [hw, Pc.runsOn] using hl.kinds t
      have hpc : ({ s.setPc t (.owns c) with owner := some t } : Sys).pc t = .owns c := by simp
      refine .inr fun ok => ?_
      rw [Sys.step_run_of_owns hpc, runSection_of_waitGuard (s := { s.setPc t (.owns c) with
        owner := some t }) ok hkind (hl.waits t c hw) hg, condWait_self ho hw hk]
    · exact .inl (by simp [Sys.step, ho, hw, hk])
  · cases hs

/-- In the deadlock of `lostWakeupRun`, producer 1 may leave `pthread_cond_wait`
without a signal; its wait loop blocks it again and the state is as before. -/
theorem spurious_return_stutters_in_deadlock :
    ∃ s s₁, errorHandlingChannel.run lostWakeupRun = some s ∧
      s.spuriousReturn (.producer 1) = some s₁ ∧ s.step (.acquire (.producer 1)) = none ∧
      ∀ ok, s₁.step (.run (.producer 1) ok) = some (.ok s) := by
  have hr : Reachable errorHandlingChannel := .init _ _ _ _ rfl rfl
  have hs := @Reachable.run _ _ hr lostWakeupRun rfl
  have hst := spurious_return_stutters hs (t := .producer 1) rfl
  exact ⟨_, _, rfl, rfl, rfl, hst.resolve_left fun he =>
    Option.noConfusion (he.symm.trans (show _ = none from rfl))⟩

end CMpsc
