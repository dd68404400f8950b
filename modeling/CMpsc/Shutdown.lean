import CMpsc.Refinement
import CMpsc.Handoff

/-!
# When `mpsc_join` returns

`mpsc_join` (`mpsc.c:184-231`) marks the channel joined, waits for the
consumer thread, closes the channel, and waits for the thread of every
registered producer in turn. A step moves only the thread that takes it (and,
for a registration, starts the thread of the first free slot), so a thread
that has exited stays exited and a registered producer's thread is never idle
again. Hence when `mpsc_join` returns every thread of the channel has exited:
no step is possible, the consumer callback has been called with
`closed = true`, and every payload an accepted `mpsc_producer_send` wrote was
taken out of the slot and reported, in order, to the consumer callback (or,
under error handling, to the error callback).
-/

namespace CMpsc

/-- What one step by thread `t` does to the threads: `t` was neither idle nor
exited and is not idle afterwards; every other thread stays where it was,
except that a registration starts the thread of the first free producer slot;
and `joined` is never reset. -/
structure Moves (s s' : Sys) (t : Tid) : Prop where
  active : s.pc t ≠ .idle ∧ s.pc t ≠ .exited
  moved : s'.pc t ≠ .idle
  others : ∀ u, u ≠ t → s'.pc u = s.pc u ∨ s.pc u = .idle
  started : ∀ i < s'.mpsc.producerCount, s.mpsc.producerCount ≤ i → s'.pc (.producer i) ≠ .idle
  joined : s.mpsc.joined = true → s'.mpsc.joined = true

section Moves

variable {s s' : Sys} {t : Tid}

/-- The common case: only `t`'s program counter changes. -/
theorem Moves.update {p : Pc} (hact : s.pc t ≠ .idle ∧ s.pc t ≠ .exited)
    (hpc : s'.pc = Function.update s.pc t p) (hp : p ≠ .idle)
    (hcount : s'.mpsc.producerCount = s.mpsc.producerCount)
    (hj : s.mpsc.joined = true → s'.mpsc.joined = true) : Moves s s' t where
  active := hact
  moved := by rw [hpc, Function.update_same]; exact hp
  others u hu := .inl (by rw [hpc, Function.update_noteq hu])
  started i hi hle := absurd (hcount ▸ hi) (Nat.not_lt.2 hle)
  joined := hj

/-- The same thread moves from a state that differs only in data the frame does not read. -/
theorem Moves.congr {s₁ : Sys} (h : Moves s₁ s' t) (hpc : s₁.pc = s.pc)
    (hcount : s₁.mpsc.producerCount = s.mpsc.producerCount)
    (hj : s₁.mpsc.joined = s.mpsc.joined) : Moves s s' t :=
  ⟨hpc ▸ h.active, h.moved, hpc ▸ h.others, hcount ▸ h.started, hj ▸ h.joined⟩

theorem active_of_owns {c : Call} (hown : s.pc t = .owns c) : s.pc t ≠ .idle ∧ s.pc t ≠ .exited := by
  rw [hown]; exact ⟨nofun, nofun⟩

theorem moves_sendWaitLoop {i j ticket : Nat} {data : Bytes} {c : Call}
    (hown : s.pc (.producer i) = .owns c) (he : s.sendWaitLoop i data j ticket = .ok s') :
    Moves s s' (.producer i) := by
  have hact := active_of_owns hown
  unfold Sys.sendWaitLoop at he
  split_ifs at he
  · cases he; exact .update hact rfl nofun rfl id
  · cases he; exact .update hact rfl nofun rfl id
  · cases hs : mpscShiftProducerWaitQueue s.mpsc with
    | error e => simp [hs, Except.map] at he
    | ok m =>
      simp only [hs, Except.map, Except.ok.injEq] at he
      subst he
      obtain ⟨-, rfl⟩ := shift_ok hs
      exact .update hact (deposit_pc _ _ _ _ _) nofun rfl id

theorem moves_sendEntry {i : Nat} {data : Bytes} (hown : s.pc (.producer i) = .owns (.send data))
    (he : s.sendEntry i data = .ok s') : Moves s s' (.producer i) := by
  rcases Sys.sendEntry_cases he with ⟨-, ⟨-, rfl⟩ | ⟨-, -, m, j, hsub, he⟩ | ⟨-, -, -, rfl⟩⟩
  · exact .update (active_of_owns hown) rfl nofun rfl id
  · obtain ⟨-, -, -, rfl⟩ := subscribe_ok hsub
    exact (moves_sendWaitLoop (s := { s with clock := s.clock + 1, mpsc := _ }) hown he).congr
      rfl rfl rfl
  · exact .update (active_of_owns hown) (deposit_pc _ _ _ _ _) nofun rfl id

theorem moves_consumerLoop {ok : Bool} (hown : s.pc t = .owns .consumerLoop)
    (he : s.consumerLoop t ok = .ok s') : Moves s s' t := by
  have hact := active_of_owns hown
  rcases Sys.consumerLoop_cases he with ⟨-, -, rfl⟩ | ⟨-, -, rfl⟩ | ⟨-, -, -, -, rfl⟩ |
    ⟨-, -, rfl⟩ | ⟨-, -, rfl⟩
  · exact .update hact rfl nofun rfl id
  · exact .update hact rfl nofun rfl id
  · exact .update hact rfl nofun rfl id
  all_goals
    rw [Sys.elect_eq]
    exact .update hact rfl nofun rfl id

theorem moves_registerProducer {caller : UserCode} {ok : Bool} (hl : Lifecycle s)
    (hown : s.pc t = .owns (.registerProducer caller))
    (he : s.registerProducer t caller ok = .ok s') : Moves s s' t := by
  have hact := active_of_owns hown
  rcases Sys.registerProducer_cases he with ⟨-, rfl⟩ | ⟨-, -, rfl⟩ | ⟨-, -, -, rfl⟩ |
    ⟨-, -, -, -, rfl⟩
  · exact .update hact rfl nofun rfl id
  · exact .update hact rfl nofun rfl id
  · -- the thread of the first free slot starts in the producer task
    have hidle := hl.idle _ le_rfl
    have hne : .producer s.mpsc.producerCount ≠ t := by rintro rfl; rw [hidle] at hown; cases hown
    refine ⟨hact, by simp, fun u hu => ?_, fun i hi hle => ?_, id⟩
    · by_cases hu' : u = .producer s.mpsc.producerCount
      · exact .inr (hu' ▸ hidle)
      · exact .inl (by simp [Function.update_noteq hu, Function.update_noteq hu'])
    · obtain rfl : i = s.mpsc.producerCount := by simp only [Sys.setPc_mpsc, Sys.unlock_mpsc] at hi; omega
      simp [Function.update_noteq hne]
  · exact .update hact rfl nofun rfl id

theorem moves_producerDone {i : Nat} (hown : s.pc (.producer i) = .owns .producerDone) :
    Moves s (s.producerDone i) (.producer i) := by
  refine .update (p := .exited) (active_of_owns hown) ?_ nofun ?_ ?_ <;>
    (dsimp only [Sys.producerDone]; split_ifs <;> first | rfl | exact id)

theorem moves_consumerClose {caller : UserCode} (hown : s.pc t = .owns (.consumerClose caller)) :
    Moves s (s.consumerClose t caller) t := by
  refine .update (active_of_owns hown) (Sys.consumerClose_pc s t caller) nofun ?_ ?_ <;>
    (dsimp only [Sys.consumerClose]; rw [Sys.signalWaiting_eq]; first | rfl | exact id)

theorem moves_runSection {ok : Bool} {c : Call} (hl : Lifecycle s) (hown : s.pc t = .owns c)
    (he : s.runSection t ok c = some (.ok s')) : Moves s s' t := by
  have hact := active_of_owns hown
  rcases Sys.runSection_cases he with ⟨i, data, rfl, rfl, hr⟩ | ⟨i, data, j, ticket, rfl, rfl, hr⟩ |
    ⟨i, rfl, rfl, hr⟩ | ⟨i, rfl, rfl, hr⟩ | ⟨caller, rfl, hr⟩ | ⟨caller, rfl, hr⟩ |
    ⟨rfl, hr⟩ | ⟨rfl, hr⟩ | ⟨rfl, hr⟩
  · exact moves_sendEntry hown hr.symm
  · exact moves_sendWaitLoop hown hr.symm
  · cases hr; exact .update hact rfl nofun rfl id
  · cases hr; exact moves_producerDone hown
  · exact moves_registerProducer hl hown hr.symm
  · cases hr; exact moves_consumerClose hown
  · exact moves_consumerLoop hown hr.symm
  · rcases Sys.join_cases hr.symm with ⟨-, -, ⟨-, rfl⟩ | ⟨-, rfl⟩⟩ <;>
      exact .update hact rfl nofun rfl fun _ => rfl
  · cases hr; exact .update hact rfl nofun rfl id

end Moves

/-! ### How far `mpsc_join` has got -/

/-- `main` is past the first critical section of `mpsc_join`. -/
def Pc.joining : Pc → Bool
  | .joinConsumer | .lock .joinClose | .owns .joinClose | .joinProducers _ | .exited => true
  | _ => false

/-- `main` has joined the consumer thread. -/
def Pc.consumerJoined : Pc → Bool
  | .lock .joinClose | .owns .joinClose | .joinProducers _ | .exited => true
  | _ => false

/-- The threads `mpsc_join` has waited for have exited, the channel it has
passed is joined, and a registered producer's thread has started. -/
structure JoinInv (s : Sys) : Prop where
  started : ∀ i < s.mpsc.producerCount, s.pc (.producer i) ≠ .idle
  joined : (s.pc .main).joining → s.mpsc.joined = true
  consumer : (s.pc .main).consumerJoined → s.pc .consumer = .exited
  producers : ∀ i < joinedUpTo (s.pc .main) s.mpsc.producerCount, s.pc (.producer i) = .exited

section Join

variable {s s' : Sys} {t : Tid}

theorem joinInv_initial (p : CreateParams) (buffer : Bytes) (producers : Nat → Producer)
    (queue : Nat → Nat) : JoinInv (Sys.initial p buffer producers queue) where
  started _ h := absurd h (Nat.not_lt_zero _)
  joined h := by cases h
  consumer h := by cases h
  producers _ h := absurd h (Nat.not_lt_zero _)

/-- A thread that has exited stays exited. -/
theorem Moves.exited (hm : Moves s s' t) {u : Tid} (hu : s.pc u = .exited) : s'.pc u = .exited := by
  have hut : u ≠ t := by rintro rfl; exact hm.active.2 hu
  rcases hm.others u hut with h | h
  · rw [h, hu]
  · rw [hu] at h; cases h

/-- What `main`'s program counter claims after a step, checked against the
channel after it and the threads before it. -/
def MainClaims (s s' : Sys) : Prop :=
  ((s'.pc .main).joining → s'.mpsc.joined = true) ∧
  ((s'.pc .main).consumerJoined → s.pc .consumer = .exited) ∧
  ∀ i < joinedUpTo (s'.pc .main) s'.mpsc.producerCount, s.pc (.producer i) = .exited

/-- A program counter before the first section of `mpsc_join` claims nothing. -/
theorem MainClaims.plain {p : Pc} (hpm : s'.pc .main = p)
    (hp : p.joining = false ∧ p.consumerJoined = false ∧ ∀ n, joinedUpTo p n = 0) :
    MainClaims s s' := by
  subst hpm
  exact ⟨fun h => by simp [hp.1] at h, fun h => by simp [hp.2.1] at h,
    fun i hi => by rw [hp.2.2] at hi; omega⟩

theorem Pc.plain_lock {c : Call} (hc : c ≠ .joinClose) :
    (Pc.lock c).joining = false ∧ (Pc.lock c).consumerJoined = false ∧
      ∀ n, joinedUpTo (.lock c) n = 0 := by
  cases c <;> first | exact absurd rfl hc | exact ⟨rfl, rfl, fun _ => rfl⟩

/-- Obtaining the mutex changes nothing `main`'s program counter claims. -/
theorem Pc.owns_lock (c : Call) :
    (Pc.owns c).joining = (Pc.lock c).joining ∧
      (Pc.owns c).consumerJoined = (Pc.lock c).consumerJoined ∧
      joinedUpTo (.owns c) = joinedUpTo (.lock c) := by
  cases c <;> exact ⟨rfl, rfl, rfl⟩

/-- A step keeps the invariant when `main`'s new program counter is justified:
the channel it passed is joined, and the threads it has waited for had exited. -/
theorem JoinInv.move (h : JoinInv s) (hl : Lifecycle s) (hk : Keeps s s') (hm : Moves s s' t)
    (hmain : t = .main → MainClaims s s') :
    JoinInv s' := by
  refine ⟨fun i hi => ?_, fun hj => ?_, fun hc => ?_, fun i hi => ?_⟩
  · -- a registered producer's thread is not idle
    by_cases hle : s.mpsc.producerCount ≤ i
    · exact hm.started i hi hle
    by_cases hit : .producer i = t
    · exact hit ▸ hm.moved
    · rcases hm.others _ hit with he | he
      · rw [he]; exact h.started i (by omega)
      · exact absurd he (h.started i (by omega))
  all_goals by_cases htm : t = .main
  all_goals
    first
    | (have hmm := hmain htm)
    | (have hpm : s'.pc .main = s.pc .main := by
        rcases hm.others .main (fun h => htm h.symm) with he | he
        · exact he
        · have := hl.kinds .main; rw [he] at this; obtain ⟨_, ⟨⟩⟩ := this)
  · exact hmm.1 hj
  · exact hm.joined (h.joined (hpm ▸ hj))
  · exact hm.exited (hmm.2.1 hc)
  · exact hm.exited (h.consumer (hpm ▸ hc))
  · exact hm.exited (hmm.2.2 i hi)
  · -- `main` did not move: the producers it waited for stay exited
    rw [hpm] at hi
    have hcount : joinedUpTo (s.pc .main) s'.mpsc.producerCount =
        joinedUpTo (s.pc .main) s.mpsc.producerCount := by
      unfold joinedUpTo; split
      · rfl
      · rename_i hx; rw [hk.count (hl.main_exited hx)]
      · rfl
    exact hm.exited (h.producers i (hcount ▸ hi))

/-- `main`'s critical sections: a registration or `mpsc_consumer_close` returns it
to the program, the first section of `mpsc_join` marks the channel joined, the
second starts the join loop. -/
theorem main_runSection {ok : Bool} {c : Call} (hl : Lifecycle s) (hown : s.pc .main = .owns c)
    (he : s.runSection .main ok c = some (.ok s')) :
    (∃ code r, s'.pc .main = .user code r) ∨
    (s'.pc .main = .joinConsumer ∧ s'.mpsc.joined = true) ∨
    (c = .joinClose ∧ s'.pc .main = .joinProducers 0) := by
  rcases Sys.runSection_cases he with ⟨i, data, hm, -⟩ | ⟨i, data, j, ticket, hm, -⟩ |
    ⟨i, hm, -⟩ | ⟨i, hm, -⟩ | ⟨caller, rfl, hr⟩ | ⟨caller, rfl, hr⟩ |
    ⟨rfl, hr⟩ | ⟨rfl, hr⟩ | ⟨rfl, hr⟩
  any_goals cases hm
  · rcases Sys.registerProducer_cases hr.symm with ⟨-, rfl⟩ | ⟨-, -, rfl⟩ | ⟨-, -, -, rfl⟩ |
      ⟨-, -, -, -, rfl⟩ <;> exact .inl ⟨_, _, by rw [Sys.setPc_pc_eq, Function.update_same]⟩
  · cases hr; exact .inl ⟨_, _, by rw [Sys.consumerClose_pc, Function.update_same]⟩
  · exact absurd (hl.runsOn_owns hown) nofun
  · rcases Sys.join_cases hr.symm with ⟨-, -, ⟨-, rfl⟩ | ⟨-, rfl⟩⟩ <;>
      exact .inr (.inl ⟨by simp, rfl⟩)
  · cases hr; exact .inr (.inr ⟨rfl, by simp [Sys.joinClose]⟩)

theorem joinInv_step {e : Event} (hl : Lifecycle s) (h : JoinInv s)
    (he : s.step e = some (.ok s')) : JoinInv s' := by
  have hk := (lifecycle_step hl he).2
  cases e with
  | call t op =>
    obtain ⟨code, last, c, hpc, hc, rfl⟩ := Sys.step_call he
    refine h.move hl hk (.update (by rw [hpc]; exact ⟨nofun, nofun⟩) rfl nofun rfl id) fun htm => ?_
    subst htm
    exact .plain (by simp) (Pc.plain_lock (UserCode.enter_ne_joinClose hc))
  | ret t =>
    obtain ⟨code, last, p, hpc, hp, rfl⟩ := Sys.step_ret he
    refine h.move hl hk (.update (by rw [hpc]; exact ⟨nofun, nofun⟩) rfl
      (by cases code <;> cases hp <;> nofun) rfl id) fun htm => ?_
    -- the creator's program does not return
    subst htm
    have hk := hl.kinds .main
    rw [hpc] at hk
    cases code <;> simp_all [Pc.runsOn, UserCode.runsOn, UserCode.leave]
  | acquire t =>
    obtain ⟨c, -, hc, rfl⟩ := Sys.step_acquire he
    have hact : s.pc t ≠ .idle ∧ s.pc t ≠ .exited := by
      rcases hc with hc | ⟨hc, -⟩ <;> rw [hc] <;> exact ⟨nofun, nofun⟩
    refine h.move hl hk (.update hact rfl nofun rfl id) fun htm => ?_
    subst htm
    -- `main` waits for the mutex, never on a condition variable
    have hlock : s.pc .main = .lock c := by
      rcases hc with hc | ⟨hc, -⟩
      · exact hc
      · have hw := hl.waits _ _ hc
        have hk := hl.kinds .main
        rw [hc] at hk
        cases c <;> simp_all [Call.cv, Pc.runsOn, Call.runsOn]
    have hm : ({ s.setPc .main (.owns c) with owner := some .main } : Sys).pc .main = .owns c := by
      simp
    rw [MainClaims, hm, (Pc.owns_lock c).1, (Pc.owns_lock c).2.1, (Pc.owns_lock c).2.2, ← hlock]
    exact ⟨h.joined, h.consumer, h.producers⟩
  | run t ok =>
    obtain ⟨c, hown, hr⟩ := Sys.step_run he
    have hm := moves_runSection hl hown hr
    refine h.move hl hk hm fun htm => ?_
    subst htm
    rcases main_runSection hl hown hr with ⟨code, r, hpm⟩ | ⟨hpm, hj⟩ | ⟨rfl, hpm⟩
    · exact .plain hpm ⟨rfl, rfl, fun _ => rfl⟩
    · exact ⟨fun _ => hj, fun hc => by simp [hpm, Pc.consumerJoined] at hc,
        fun i hi => by simp [hpm, joinedUpTo] at hi⟩
    · exact ⟨fun _ => hm.joined (h.joined (by rw [hown]; rfl)), fun _ => h.consumer (by rw [hown]; rfl),
        fun i hi => by simp [hpm, joinedUpTo] at hi⟩
  | joined t =>
    rcases Sys.step_joined he with ⟨hpc, hce, rfl⟩ | ⟨i, u, hpc, hi, hu, hue, rfl⟩ |
      ⟨i, hpc, hle, rfl⟩ <;>
      refine h.move hl hk (.update (by rw [hpc]; exact ⟨nofun, nofun⟩) rfl nofun rfl id)
        fun htm => ?_ <;>
      subst htm
    · -- the consumer thread has exited
      exact ⟨fun _ => h.joined (by rw [hpc]; rfl), fun _ => hce,
        fun i hi => by simp [joinedUpTo] at hi⟩
    · -- the thread of slot `i` has exited
      obtain rfl : u = .producer i := Option.some.inj (hu.symm.trans (hl.thread_ids i hi))
      refine ⟨fun _ => h.joined (by rw [hpc]; rfl), fun _ => h.consumer (by rw [hpc]; rfl),
        fun j hj => ?_⟩
      simp only [Sys.setPc_pc_eq, Function.update_same, joinedUpTo] at hj
      rcases Nat.lt_succ_iff_lt_or_eq.1 hj with hj | rfl
      exacts [h.producers j (by rw [hpc]; exact hj), hue]
    · -- every registered thread has been joined
      refine ⟨fun _ => h.joined (by rw [hpc]; rfl), fun _ => h.consumer (by rw [hpc]; rfl),
        fun j hj => h.producers j ?_⟩
      simp only [Sys.setPc_pc_eq, Sys.setPc_mpsc, Function.update_same, joinedUpTo] at hj
      rw [hpc]
      exact Nat.lt_of_lt_of_le hj hle

theorem reachable_joinInv (h : Reachable s) : JoinInv s := by
  induction h with
  | init p buffer producers queue => exact joinInv_initial p buffer producers queue
  | step e hr he ih => exact joinInv_step (reachable_lifecycle hr) ih he

end Join

/-- A state where every thread has exited or was never started takes no step. -/
theorem step_none_of_quiet {s : Sys} (hl : Lifecycle s)
    (h : ∀ t, s.pc t = .exited ∨ s.pc t = .idle) (e : Event) : s.step e = none :=
  step_none_of_disabled hl (fun t _ => by rcases h t with h | h <;> simp [Sys.enabled, h]) e

/-- When `mpsc_join` has returned, every thread has exited or was never started. -/
theorem quiet_of_join_returned {s : Sys} (h : Reachable s) (hm : s.pc .main = .exited) (t : Tid) :
    s.pc t = .exited ∨ s.pc t = .idle := by
  have hj := reachable_joinInv h
  cases t with
  | main => exact .inl hm
  | consumer => exact .inl (hj.consumer (by rw [hm]; rfl))
  | producer i =>
    by_cases hi : i < s.mpsc.producerCount
    exacts [.inl (hj.producers i (by rw [hm]; exact hi)),
      .inr ((reachable_lifecycle h).idle i (by omega))]

/-- When `mpsc_join` has returned, the consumer thread and the thread of every
registered producer have exited and been joined, and no step is possible; every
payload written was taken out of the slot and reported in order, and the last
call of the consumer callback was its call with `closed = true`. -/
theorem join_returned {s : Sys} (h : Reachable s) (hm : s.pc .main = .exited) :
    s.pc .consumer = .exited ∧
    (∀ i < s.mpsc.producerCount, s.pc (.producer i) = .exited) ∧
    s.joinedThreads = s.registered ∧
    s.written.map Deposit.data = s.taken ∧
    (∃ ds, s.invocations = ds ++ [.consumerCallback none 0 [] true] ∧
      List.Forall₂ (Reported s.mpsc.errorHandlingEnabled) s.taken ds) ∧
    ∀ e, s.step e = none := by
  have hl := reachable_lifecycle h
  have hq := quiet_of_join_returned h hm
  have hc : s.pc .consumer = .exited := (reachable_joinInv h).consumer (by rw [hm]; rfl)
  have hf : s.finalCalled = true := hl.consumer_final (by rw [hc]; trivial)
  refine ⟨hc, fun i hi => (hq (.producer i)).resolve_right fun hx => ?_,
    by rw [hl.joined_threads, hl.registered, hm]; rfl,
    (reachable_buffer h).sent_eq_taken hf, ?_, step_none_of_quiet hl hq⟩
  · exact (reachable_joinInv h).started i hi hx
  · obtain ⟨ds, hi, hr⟩ := (reachable_delivery h).calls
    exact ⟨ds, by simpa [Sys.finalCall, hf] using hi, hr⟩

theorem join_returned_after_shutdownRun :
    ∃ s, noErrorHandlingChannel.run shutdownRun = some s ∧ Reachable s ∧
      s.pc .main = .exited ∧ s.mpsc.producerCount = 1 ∧ s.taken = [[7]] ∧
      s.pc .consumer = .exited ∧
      (∀ i < s.mpsc.producerCount, s.pc (.producer i) = .exited) ∧
      s.joinedThreads = s.registered ∧ s.written.map Deposit.data = s.taken ∧
      (∃ ds, s.invocations = ds ++ [.consumerCallback none 0 [] true] ∧
        List.Forall₂ (Reported s.mpsc.errorHandlingEnabled) s.taken ds) ∧
      ∀ e, s.step e = none := by
  have hr : Reachable noErrorHandlingChannel := .init _ _ _ _ rfl rfl
  have hs := @Reachable.run _ _ hr shutdownRun rfl
  exact ⟨_, rfl, hs, rfl, rfl, rfl, join_returned hs rfl⟩

end CMpsc
