import CMpsc.Step

/-!
# Lifecycle of a channel: registration, completion, closure, join

The invariant of the lock discipline and of the producer bookkeeping of
`mpsc_register_producer` (`mpsc.c:233-261`), `mpsc_producer_done`
(`mpsc.c:351-367`) and `mpsc_join` (`mpsc.c:184-231`): exactly one thread
is inside a critical section when the mutex is owned, `n_producers_closed`
counts the finished producers among the registered ones, the channel closes
only through `mpsc_consumer_close` or through `join` once every producer
has finished, and the join loop walks the producer threads in registration
order.
-/

namespace CMpsc

/-- The kind of thread a piece of code runs on. -/
def UserCode.runsOn : UserCode → Tid → Prop
  | .program, t => t = .main
  | .producerCallback, t => ∃ i, t = .producer i
  | _, t => t = .consumer

def Call.runsOn : Call → Tid → Prop
  | .registerProducer c, t => c.runsOn t
  | .consumerClose c, t => c.runsOn t
  | .consumerLoop, t => t = .consumer
  | .join, t => t = .main
  | .joinClose, t => t = .main
  | _, t => ∃ i, t = .producer i

def Pc.runsOn : Pc → Tid → Prop
  | .idle, t => ∃ i, t = .producer i
  | .user c _, t => c.runsOn t
  | .lock c, t => c.runsOn t
  | .owns c, t => c.runsOn t
  | .wait c, t => c.runsOn t
  | .joinConsumer, t => t = .main
  | .joinProducers _, t => t = .main
  | .exited, _ => True

/-- The consumer is inside its closing callback, or has left the thread. -/
def Pc.inFinal : Pc → Prop
  | .user c _ => c = .consumerFinalCallback
  | .lock (.registerProducer c) => c = .consumerFinalCallback
  | .owns (.registerProducer c) => c = .consumerFinalCallback
  | .lock (.consumerClose c) => c = .consumerFinalCallback
  | .owns (.consumerClose c) => c = .consumerFinalCallback
  | .exited => True
  | _ => False

/-- `false` from `mpsc_producer_send` or `mpsc_producer_ping`. -/
def Ret.refused : Ret → Bool
  | .send false => true
  | .ping false => true
  | _ => false

/-- Application code that got a refusal back from its last call. -/
def Pc.refused : Pc → Bool
  | .user _ r => r.refused
  | _ => false

/-- How far the join loop of `mpsc_join` (lines 226-229) has got. -/
def joinedUpTo (p : Pc) (count : Nat) : Nat :=
  match p with
  | .joinProducers k => k
  | .exited => count
  | _ => 0

/-- The number of finished producers among the first `count` slots. -/
def doneCount (producers : Nat → Producer) (count : Nat) : Nat :=
  (List.range count).countP fun i => (producers i).done

/-- The data the lifecycle invariant reads, besides program counters and the owner. -/
structure LifeView where
  producerCount : Nat
  nMaxProducers : Nat
  producers : Nat → Producer
  nProducersClosed : Nat
  closed : Bool
  joined : Bool
  producerThreadIds : Nat → Option Tid
  closeCalled : Bool
  finalCalled : Bool
  registered : List Tid
  joinedThreads : List Tid

def Sys.life (s : Sys) : LifeView :=
  ⟨s.mpsc.producerCount, s.mpsc.nMaxProducers, s.mpsc.producers, s.mpsc.nProducersClosed,
    s.mpsc.closed, s.mpsc.joined, s.mpsc.producerThreadIds, s.closeCalled, s.finalCalled,
    s.registered, s.joinedThreads⟩

/-- The lifecycle invariant. -/
structure Lifecycle (s : Sys) : Prop where
  kinds : ∀ t, (s.pc t).runsOn t
  waits : ∀ t c, s.pc t = .wait c → c.cv.isSome
  locks : ∀ t c, s.pc t = .lock c → c.cv.isSome → c = .consumerLoop
  owner_iff : ∀ t, s.owner = some t ↔ ∃ c, s.pc t = .owns c
  count_le : s.mpsc.producerCount ≤ s.mpsc.nMaxProducers
  idle : ∀ i, s.mpsc.producerCount ≤ i → s.pc (.producer i) = .idle
  done_iff : ∀ i < s.mpsc.producerCount,
    (s.mpsc.producers i).done = true ↔ s.pc (.producer i) = .exited
  closed_count : s.mpsc.nProducersClosed = doneCount s.mpsc.producers s.mpsc.producerCount
  joined_closed : s.mpsc.joined → s.mpsc.nProducersClosed = s.mpsc.producerCount →
    s.mpsc.closed
  closed_cause : s.mpsc.closed →
    s.closeCalled ∨ (s.mpsc.joined ∧ s.mpsc.nProducersClosed = s.mpsc.producerCount)
  final_closed : s.finalCalled → s.mpsc.closed
  close_closed : s.closeCalled → s.mpsc.closed
  refused : ∀ i, (s.pc (.producer i)).refused → s.closeCalled
  consumer_final : (s.pc .consumer).inFinal → s.finalCalled
  thread_ids : ∀ i < s.mpsc.producerCount, s.mpsc.producerThreadIds i = some (.producer i)
  registered : s.registered = (List.range s.mpsc.producerCount).map .producer
  join_close : s.pc .main = .lock .joinClose ∨ s.pc .main = .owns .joinClose → s.finalCalled
  join_loop : ∀ k, s.pc .main = .joinProducers k → s.mpsc.closed ∧ k ≤ s.mpsc.producerCount
  main_exited : s.pc .main = .exited → s.mpsc.closed
  joined_threads :
    s.joinedThreads = (List.range (joinedUpTo (s.pc .main) s.mpsc.producerCount)).map .producer

/-- What no step undoes: a closure, the producer count of a closed channel, and a
call of `mpsc_consumer_close`. -/
structure Keeps (s s' : Sys) : Prop where
  closed : s.mpsc.closed → s'.mpsc.closed
  count : s.mpsc.closed → s'.mpsc.producerCount = s.mpsc.producerCount
  closeCalled : s.closeCalled → s'.closeCalled
  count_le : s.mpsc.producerCount ≤ s'.mpsc.producerCount

/-- What the end of a critical section guarantees: the invariant holds again,
nothing is undone, and the mutex is free. -/
structure SectionExit (s s' : Sys) : Prop where
  life : Lifecycle s'
  keeps : Keeps s s'
  released : s'.owner = none

theorem Keeps.trans {s₁ s₂ s₃ : Sys} (h₁ : Keeps s₁ s₂) (h₂ : Keeps s₂ s₃) : Keeps s₁ s₃ where
  closed hc := h₂.closed (h₁.closed hc)
  count hc := (h₂.count (h₁.closed hc)).trans (h₁.count hc)
  closeCalled hc := h₂.closeCalled (h₁.closeCalled hc)
  count_le := h₁.count_le.trans h₂.count_le

/-- Steps that leave the lifecycle data alone undo nothing. -/
theorem Keeps.of_life {s s' : Sys} (hv : s'.life = s.life) : Keeps s s' := by
  simp only [Sys.life, LifeView.mk.injEq] at hv
  obtain ⟨hcount, -, -, -, hclosed, -, -, hcc, -⟩ := hv
  exact ⟨fun h => hclosed ▸ h, fun _ => hcount, fun h => hcc ▸ h, hcount.ge⟩

/-! ### Counting finished producers -/

theorem doneCount_le (producers : Nat → Producer) (count : Nat) :
    doneCount producers count ≤ count :=
  (List.countP_le_length _).trans (by simp)

theorem doneCount_eq_iff (producers : Nat → Producer) (count : Nat) :
    doneCount producers count = count ↔ ∀ i < count, (producers i).done := by
  have := List.countP_eq_length (p := fun i => (producers i).done) (l := List.range count)
  simpa only [List.length_range, List.mem_range] using this

/-- Writing slot `i ≥ count` does not change the count below `count`. -/
theorem doneCount_update_ge (producers : Nat → Producer) (count i : Nat) (p : Producer)
    (hi : count ≤ i) :
    doneCount (Function.update producers i p) count = doneCount producers count := by
  refine List.countP_congr fun j hj => ?_
  rw [Function.update_noteq (by simp at hj; omega)]

theorem doneCount_succ (producers : Nat → Producer) (count : Nat) :
    doneCount producers (count + 1) =
      doneCount producers count + if (producers count).done then 1 else 0 := by
  simp [doneCount, List.range_succ, List.countP_append, List.countP_cons]

/-- Marking an unfinished registered producer finished adds one. -/
theorem doneCount_finish (producers : Nat → Producer) (count i : Nat) (hi : i < count)
    (hd : (producers i).done = false) :
    doneCount (Function.update producers i ⟨true⟩) count = doneCount producers count + 1 := by
  induction count with
  | zero => omega
  | succ k ih =>
    rw [doneCount_succ, doneCount_succ]
    by_cases hk : i = k
    · subst hk
      rw [doneCount_update_ge _ _ _ _ le_rfl]
      simp [hd]
    · rw [ih (by omega), Function.update_noteq (Ne.symm hk)]
      omega

/-! ### Initial state and frame -/

theorem lifecycle_initial (p : CreateParams) (buffer : Bytes) (producers : Nat → Producer)
    (queue : Nat → Nat) : Lifecycle (Sys.initial p buffer producers queue) where
  kinds t := by cases t <;> simp [Sys.initial, Pc.runsOn, UserCode.runsOn, Call.runsOn]
  waits t c h := by cases t <;> simp [Sys.initial] at h
  locks t c h := by cases t <;> simp [Sys.initial] at h; exact fun _ => h.symm
  owner_iff t := by cases t <;> simp [Sys.initial]
  count_le := Nat.zero_le _
  idle i _ := rfl
  done_iff i hi := absurd hi (Nat.not_lt_zero _)
  closed_count := rfl
  joined_closed h := by cases h
  closed_cause h := by cases h
  final_closed h := by cases h
  close_closed h := by cases h
  refused i h := by simp [Sys.initial, Pc.refused] at h
  consumer_final h := by simp [Sys.initial, Pc.inFinal] at h
  thread_ids i hi := absurd hi (Nat.not_lt_zero _)
  registered := rfl
  join_close h := by simp [Sys.initial] at h
  join_loop k h := by cases h
  main_exited h := by cases h
  joined_threads := rfl

/-- Program counters a step can give a thread without touching the lifecycle. -/
def Pc.Plain : Pc → Prop
  | .user _ _ => True
  | .lock c => c ≠ .joinClose ∧ (c.cv.isSome → c = .consumerLoop)
  | .wait c => c.cv.isSome
  | _ => False

/-- The invariant reads only the lifecycle data, the program counters and the owner. -/
theorem Lifecycle.congr {s s' : Sys} (h : Lifecycle s) (hpc : s'.pc = s.pc)
    (howner : s'.owner = s.owner) (hv : s'.life = s.life) : Lifecycle s' := by
  simp only [Sys.life, LifeView.mk.injEq] at hv
  obtain ⟨h1, h2, h3, h4, h5, h6, h7, h8, h9, h10, h11⟩ := hv
  obtain ⟨a1, a0, a2, a3, a4, a5, a6, a7, a8, a9, a10, a11, a12, a13, a14, a15, a16, a17,
    a18, a19⟩ := h
  constructor <;> (try simp only [h1, h2, h3, h4, h5, h6, h7, h8, h9, h10, h11, hpc, howner]) <;>
    assumption

/-- A producer thread inside a library call is registered and not finished, so
not every producer has finished. -/
theorem Lifecycle.running {s : Sys} {i : Nat} {c : Call} (h : Lifecycle s)
    (hown : s.pc (.producer i) = .owns c) :
    i < s.mpsc.producerCount ∧ (s.mpsc.producers i).done = false ∧
      s.mpsc.nProducersClosed < s.mpsc.producerCount := by
  have hi : i < s.mpsc.producerCount := by
    by_contra hi; rw [h.idle i (by omega)] at hown; cases hown
  have hd : (s.mpsc.producers i).done = false := by
    have := h.done_iff i hi; rw [hown] at this; simpa using this
  refine ⟨hi, hd, ?_⟩
  rw [h.closed_count]
  have := doneCount_le s.mpsc.producers s.mpsc.producerCount
  have := (doneCount_eq_iff s.mpsc.producers s.mpsc.producerCount).not.2
    (fun hall => by simp [hall i hi] at hd)
  omega

/-- A running producer that finds the channel closed finds it closed by
`mpsc_consumer_close`. -/
theorem Lifecycle.closeCalled_of_running {s : Sys} {i : Nat} {c : Call} (h : Lifecycle s)
    (hown : s.pc (.producer i) = .owns c) (hc : s.mpsc.closed) : s.closeCalled := by
  rcases h.closed_cause hc with hc | ⟨-, hn⟩
  · exact hc
  · have := (h.running hown).2.2; omega

/-- A critical section that ends with `unlock` or `condWait`, moves its thread to
a plain program counter, may close the channel when it records a call of
`mpsc_consumer_close`, may record the closing callback of a closed channel,
and changes no other lifecycle data, keeps the invariant. -/
theorem Lifecycle.section_frame {s s' : Sys} {t : Tid} {c : Call} {p : Pc}
    (h : Lifecycle s) (hown : s.pc t = .owns c)
    (hpc : s'.pc = Function.update s.pc t p) (howner : s'.owner = none)
    (hv : s'.life = { s.life with
      finalCalled := s'.finalCalled, closed := s'.mpsc.closed, closeCalled := s'.closeCalled })
    (hclosed : s.mpsc.closed → s'.mpsc.closed ∧ (s.closeCalled → s'.closeCalled))
    (hcause : s'.mpsc.closed → s.mpsc.closed ∨ s'.closeCalled)
    (hcc : s'.closeCalled → s.closeCalled ∨ s'.mpsc.closed)
    (hmono : s.finalCalled → s'.finalCalled)
    (hfc : s'.finalCalled → s.finalCalled ∨ s.mpsc.closed)
    (hp : p.Plain) (hk : p.runsOn t) (hfin : p.inFinal → (Pc.owns c).inFinal ∨ s'.finalCalled)
    (hret : p.refused → s'.mpsc.closed) :
    SectionExit s s' := by
  simp only [Sys.life, LifeView.mk.injEq] at hv
  obtain ⟨hcount, hmax, hprod, hclosedN, -, hjoined, hids, -, -, hreg, hjt⟩ := hv
  have hsome : s.owner = some t := (h.owner_iff t).2 ⟨c, hown⟩
  have hccm : s.closeCalled → s'.closeCalled := fun hc => (hclosed (h.close_closed hc)).2 hc
  have hpc' : ∀ u, s'.pc u = if u = t then p else s.pc u := by
    intro u; rw [hpc, Function.update_apply]
  -- the thread leaves its section for a plain program counter
  have hp1 : ∀ c', p ≠ .owns c' := by rintro c' rfl; exact hp
  have hp2 : p ≠ .exited := by rintro rfl; exact hp
  have hp4 : joinedUpTo p s.mpsc.producerCount = 0 := by
    cases p <;> first | rfl | exact hp.elim
  have hp5 : ∀ k, p ≠ .joinProducers k := by rintro k rfl; exact hp
  have hp6 : p ≠ .lock .joinClose := by rintro rfl; exact hp.1 rfl
  refine ⟨?_, ⟨fun hc => (hclosed hc).1, fun _ => hcount, hccm, hcount.ge⟩, howner⟩
  constructor <;>
    (try simp only [hcount, hmax, hprod, hclosedN, hjoined, hids, hreg, hjt, hpc', howner])
  · intro u; split
    · subst_vars; exact hk
    · exact h.kinds u
  · intro u c' hu
    split at hu
    · subst_vars; exact hp
    · exact h.waits u c' hu
  · intro u c' hu
    split at hu
    · subst_vars; exact hp.2
    · exact h.locks u c' hu
  · intro u; constructor
    · intro hc; cases hc
    · rintro ⟨c', hc'⟩
      split at hc'
      · exact absurd hc' (hp1 c')
      · have := (h.owner_iff u).2 ⟨c', hc'⟩; rw [hsome] at this
        exact absurd (Option.some.inj this).symm ‹_›
  · exact h.count_le
  · intro i hi
    split
    · subst_vars; have := h.idle i hi; rw [hown] at this; cases this
    · exact h.idle i hi
  · intro i hi
    split
    · subst_vars; rw [h.done_iff i hi, hown]; simp [hp2]
    · exact h.done_iff i hi
  · exact h.closed_count
  · exact fun hj hn => (hclosed (h.joined_closed hj hn)).1
  · intro hc
    rcases hcause hc with hc | hc
    · rcases h.closed_cause hc with hc' | hc'
      exacts [.inl (hccm hc'), .inr hc']
    · exact .inl hc
  · intro hf
    rcases hfc hf with hf | hf
    exacts [(hclosed (h.final_closed hf)).1, (hclosed hf).1]
  · intro hc
    rcases hcc hc with hc | hc
    exacts [(hclosed (h.close_closed hc)).1, hc]
  · intro i; split
    · subst_vars
      intro hr
      rcases hcause (hret hr) with hc | hc
      exacts [hccm (h.closeCalled_of_running hown hc), hc]
    · exact fun hr => hccm (h.refused i hr)
  · split
    · subst_vars
      intro hf
      rcases hfin hf with hf | hf
      exacts [hmono (h.consumer_final (hown ▸ hf)), hf]
    · exact fun hf => hmono (h.consumer_final hf)
  · exact h.thread_ids
  · exact h.registered
  · split
    · rintro (he | he)
      exacts [absurd he hp6, absurd he (hp1 _)]
    · exact fun hj => hmono (h.join_close hj)
  · intro k; split
    · exact fun he => absurd he (hp5 k)
    · exact fun hk => ⟨(hclosed (h.join_loop k hk).1).1, (h.join_loop k hk).2⟩
  · split
    · exact fun he => absurd he hp2
    · exact fun he => (hclosed (h.main_exited he)).1
  · split
    · subst_vars; rw [h.joined_threads, hown, hp4]; rfl
    · exact h.joined_threads

/-- The frame for sections that change no lifecycle data at all. -/
theorem Lifecycle.plain_frame {s s' : Sys} {t : Tid} {c : Call} {p : Pc}
    (h : Lifecycle s) (hown : s.pc t = .owns c)
    (hpc : s'.pc = Function.update s.pc t p) (howner : s'.owner = none)
    (hv : s'.life = s.life) (hp : p.Plain) (hk : p.runsOn t)
    (hfin : p.inFinal → (Pc.owns c).inFinal) (hret : p.refused → s.mpsc.closed) :
    SectionExit s s' := by
  have hc : s'.mpsc.closed = s.mpsc.closed := congrArg LifeView.closed hv
  have hcc : s'.closeCalled = s.closeCalled := congrArg LifeView.closeCalled hv
  have hf : s'.finalCalled = s.finalCalled := congrArg LifeView.finalCalled hv
  refine h.section_frame hown hpc howner ?_ (by simp [hc, hcc]) (fun h => .inl (hc ▸ h))
    (fun h => .inl (hcc ▸ h)) (fun h => hf ▸ h) (fun h => .inl (hf ▸ h)) hp hk
    (fun hp => .inl (hfin hp)) (fun hr => hc ▸ hret hr)
  rw [hv, hc, hcc, hf]
  rfl

/-! ### Critical sections -/

section Sections

variable {s s' : Sys}

theorem Lifecycle.runsOn_owns (h : Lifecycle s) {t : Tid} {c : Call}
    (hown : s.pc t = .owns c) : c.runsOn t := by
  have := h.kinds t; rwa [hown] at this

theorem elect_life (s : Sys) : s.elect.life = s.life := by
  unfold Sys.elect; split <;> rfl

theorem SectionExit.congr {s₁ : Sys} (h : SectionExit s s₁) (hpc : s'.pc = s₁.pc)
    (howner : s'.owner = s₁.owner) (hv : s'.life = s₁.life) : SectionExit s s' :=
  ⟨h.life.congr hpc howner hv, h.keeps.trans (Keeps.of_life hv), howner.trans h.released⟩

/-- A section entered after a prefix that changed no lifecycle data. -/
theorem SectionExit.of_pre {s₁ : Sys} (hv : s₁.life = s.life) (h : SectionExit s₁ s') :
    SectionExit s s' :=
  ⟨h.life, (Keeps.of_life hv).trans h.keeps, h.released⟩

/-- Nothing can be undone from a channel that is still open. -/
theorem Keeps.of_open (h : Lifecycle s) (hc : s.mpsc.closed = false)
    (hle : s.mpsc.producerCount ≤ s'.mpsc.producerCount) : Keeps s s' :=
  ⟨fun h' => absurd h' (by simp [hc]), fun h' => absurd h' (by simp [hc]),
    fun h' => absurd (h.close_closed h') (by simp [hc]), hle⟩

theorem SectionExit.of_open {s₁ : Sys} (h : Lifecycle s) (hc : s.mpsc.closed = false)
    (hle : s.mpsc.producerCount ≤ s'.mpsc.producerCount) (hx : SectionExit s₁ s') :
    SectionExit s s' :=
  ⟨hx.life, Keeps.of_open h hc hle, hx.released⟩

theorem lifecycle_sendWaitLoop {i j ticket : Nat} {data : Bytes} {c : Call}
    (h : Lifecycle s) (hown : s.pc (.producer i) = .owns c)
    (he : s.sendWaitLoop i data j ticket = .ok s') : SectionExit s s' := by
  unfold Sys.sendWaitLoop at he
  split_ifs at he with h1 h2
  · cases he
    exact h.plain_frame hown rfl rfl rfl rfl ⟨i, rfl⟩ (by simp [Pc.inFinal]) nofun
  · cases he
    exact h.plain_frame hown rfl rfl rfl trivial ⟨i, rfl⟩ (by simp [Pc.inFinal]) fun _ => h2
  · cases hs : mpscShiftProducerWaitQueue s.mpsc with
    | error e => simp [hs, Except.map] at he
    | ok m =>
      simp only [hs, Except.map, Except.ok.injEq] at he
      subst he
      obtain ⟨-, rfl⟩ := shift_ok hs
      exact h.plain_frame hown rfl rfl rfl trivial ⟨i, rfl⟩ (by simp [Pc.inFinal]) nofun

theorem lifecycle_sendEntry {i : Nat} {data : Bytes} (h : Lifecycle s)
    (hown : s.pc (.producer i) = .owns (.send data)) (he : s.sendEntry i data = .ok s') :
    SectionExit s s' := by
  rcases Sys.sendEntry_cases he with ⟨-, ⟨h2, rfl⟩ | ⟨-, -, m, j, hsub, he⟩ | ⟨-, -, -, rfl⟩⟩
  · exact h.plain_frame hown rfl rfl rfl trivial ⟨i, rfl⟩ (by simp [Pc.inFinal]) fun _ => h2
  · obtain ⟨-, -, -, rfl⟩ := subscribe_ok hsub
    refine SectionExit.of_pre ?_ (lifecycle_sendWaitLoop ?_ (by exact hown) he)
    · rfl
    · exact h.congr rfl rfl rfl
  · exact h.plain_frame hown rfl rfl rfl trivial ⟨i, rfl⟩ (by simp [Pc.inFinal]) nofun

theorem lifecycle_producerPing {i : Nat} (h : Lifecycle s)
    (hown : s.pc (.producer i) = .owns .ping) : SectionExit s (s.producerPing i) :=
  h.plain_frame hown rfl rfl rfl trivial ⟨i, rfl⟩ (by simp [Pc.inFinal])
    (by cases s.mpsc.closed <;> simp [Pc.refused, Ret.refused])

theorem lifecycle_consumerLoop {t : Tid} {ok : Bool} (h : Lifecycle s)
    (hown : s.pc t = .owns .consumerLoop) (he : s.consumerLoop t ok = .ok s') :
    SectionExit s s' := by
  have ht : t = .consumer := h.runsOn_owns hown
  rcases Sys.consumerLoop_cases he with ⟨-, -, rfl⟩ | ⟨-, hc, rfl⟩ | ⟨-, -, -, -, rfl⟩ |
    ⟨-, -, rfl⟩ | ⟨-, -, rfl⟩
  · exact h.plain_frame hown rfl rfl rfl rfl ht (by simp [Pc.inFinal]) nofun
  · exact h.section_frame hown rfl rfl rfl (fun h => ⟨h, fun h => h⟩) .inl .inl (fun _ => rfl)
      (fun _ => .inr hc) trivial ht (fun _ => .inr rfl) nofun
  · exact h.plain_frame hown rfl rfl rfl trivial ht (by simp [Pc.inFinal]) nofun
  all_goals
    exact h.plain_frame (p := .user .consumerCallback .none) hown
      (by simp only [Sys.setPc_pc_eq, Sys.unlock_pc_eq, Sys.elect_pc]) rfl
      ((elect_life _).trans rfl) trivial ht (by simp [Pc.inFinal]) nofun

theorem lifecycle_consumerClose {t : Tid} {caller : UserCode} (h : Lifecycle s)
    (hown : s.pc t = .owns (.consumerClose caller)) :
    SectionExit s (s.consumerClose t caller) := by
  have hk : caller.runsOn t := h.runsOn_owns hown
  dsimp only [Sys.consumerClose]
  rw [Sys.signalWaiting_eq]
  exact h.section_frame hown rfl rfl rfl (fun _ => ⟨rfl, fun _ => rfl⟩) (fun _ => .inr rfl)
    (fun _ => .inr rfl) (fun h => h) .inl trivial hk .inl (fun _ => rfl)

/-- Writing the record and the thread id of the first free slot keeps the invariant. -/
theorem Lifecycle.write_slot (h : Lifecycle s) (pr : Producer) (tid : Option Tid) :
    Lifecycle { s with mpsc := { s.mpsc with
      producers := Function.update s.mpsc.producers s.mpsc.producerCount pr
      producerThreadIds := Function.update s.mpsc.producerThreadIds s.mpsc.producerCount tid } } :=
  { h with
    done_iff := fun i hi => by
      simpa [Function.update_noteq (Nat.ne_of_lt hi)] using h.done_iff i hi
    closed_count := by simpa [doneCount_update_ge _ _ _ _ le_rfl] using h.closed_count
    thread_ids := fun i hi => by
      simpa [Function.update_noteq (Nat.ne_of_lt hi)] using h.thread_ids i hi }

/-- Counting a new open producer slot and starting its thread keeps the invariant. -/
theorem Lifecycle.start_thread (h : Lifecycle s) (hclosed : s.mpsc.closed = false)
    (hmax : s.mpsc.producerCount ≠ s.mpsc.nMaxProducers)
    (hdone : (s.mpsc.producers s.mpsc.producerCount).done = false)
    (hid : s.mpsc.producerThreadIds s.mpsc.producerCount = some (.producer s.mpsc.producerCount)) :
    Lifecycle ({ s with
      mpsc := { s.mpsc with producerCount := s.mpsc.producerCount + 1 }
      registered := s.registered ++ [Tid.producer s.mpsc.producerCount] }.setPc
        (.producer s.mpsc.producerCount) (.user .producerCallback .none)) := by
  have hidle := h.idle _ le_rfl
  have hmain : s.pc .main ≠ .exited ∧ ∀ k, s.pc .main ≠ .joinProducers k := by
    refine ⟨fun he => ?_, fun k he => ?_⟩
    · have := h.main_exited he; simp_all
    · have := (h.join_loop k he).1; simp_all
  have hle := doneCount_le s.mpsc.producers s.mpsc.producerCount
  refine
    { kinds := fun u => ?_, waits := fun u c hu => ?_, locks := fun u c hu => ?_,
      owner_iff := fun u => ?_, count_le := ?_, idle := fun j hj => ?_,
      done_iff := fun j hj => ?_, closed_count := ?_, joined_closed := fun _ hn => ?_, closed_cause := fun hc => ?_,
      final_closed := fun hf => ?_, close_closed := fun hc => ?_, refused := fun j hr => ?_,
      consumer_final := fun hf => ?_, thread_ids := fun j hj => ?_, registered := ?_,
      join_close := fun hj => ?_, join_loop := fun k hk => ?_, main_exited := fun he => ?_,
      joined_threads := ?_ } <;>
    simp only [Sys.setPc, Function.update_apply] at *
  · split
    · subst_vars; exact ⟨_, rfl⟩
    · exact h.kinds u
  · split at hu
    · cases hu
    · exact h.waits u c hu
  · split at hu
    · cases hu
    · exact h.locks u c hu
  · split
    · subst_vars; rw [h.owner_iff]; simp [hidle]
    · exact h.owner_iff u
  · have := h.count_le; omega
  · split
    · rename_i he; simp only [Tid.producer.injEq] at he; omega
    · exact h.idle j (by omega)
  · split
    · simp_all
    · have : j ≠ s.mpsc.producerCount := by rintro rfl; simp_all
      exact h.done_iff j (by omega)
  · rw [doneCount_succ, hdone, h.closed_count]; rfl
  · have := h.closed_count; omega
  · simp_all
  · exact absurd (h.final_closed hf) (by simp [hclosed])
  · exact absurd (h.close_closed hc) (by simp [hclosed])
  · split at hr
    · cases hr
    · exact h.refused j hr
  · have : Tid.consumer ≠ .producer s.mpsc.producerCount := by simp
    simp only [this, if_false] at hf
    exact h.consumer_final hf
  · by_cases hjc : j = s.mpsc.producerCount
    · subst hjc; exact hid
    · exact h.thread_ids j (by omega)
  · rw [h.registered, List.range_succ, List.map_append]; rfl
  · exact h.join_close (by simpa using hj)
  · exact absurd (by simpa using hk) (hmain.2 k)
  · exact absurd (by simpa using he) hmain.1
  · have hj : joinedUpTo (s.pc .main) (s.mpsc.producerCount + 1) =
        joinedUpTo (s.pc .main) s.mpsc.producerCount := by
      unfold joinedUpTo; split <;> simp_all
    simp only [show Tid.main ≠ .producer s.mpsc.producerCount by simp, if_false, hj]
    exact h.joined_threads

theorem lifecycle_registerProducer {t : Tid} {caller : UserCode} {ok : Bool} (h : Lifecycle s)
    (hown : s.pc t = .owns (.registerProducer caller))
    (he : s.registerProducer t caller ok = .ok s') : SectionExit s s' := by
  have hk : caller.runsOn t := h.runsOn_owns hown
  rcases Sys.registerProducer_cases he with ⟨-, rfl⟩ | ⟨-, -, rfl⟩ | ⟨h1, h2, -, rfl⟩ |
    ⟨-, h2, -, -, rfl⟩
  · exact h.plain_frame hown rfl rfl rfl trivial hk id nofun
  · exact h.plain_frame hown rfl rfl rfl trivial hk id nofun
  · have hw := h.write_slot ⟨false⟩ (some (.producer s.mpsc.producerCount))
    have hs := hw.start_thread (by simpa using h2) (Ne.symm h1) (by simp) (by simp)
    have hti : t ≠ .producer s.mpsc.producerCount := by
      rintro rfl; rw [h.idle _ le_rfl] at hown; cases hown
    apply SectionExit.of_open h (by simpa using h2) (by exact Nat.le_succ _)
    exact hs.plain_frame (by simpa [Function.update_noteq hti] using hown) rfl rfl rfl
      trivial hk id nofun
  · apply SectionExit.of_open h (by simpa using h2) (by exact le_rfl)
    exact (h.write_slot ⟨false⟩ none).plain_frame hown rfl rfl rfl trivial hk id nofun

theorem lifecycle_producerDone {i : Nat} (h : Lifecycle s)
    (hown : s.pc (.producer i) = .owns .producerDone) : SectionExit s (s.producerDone i) := by
  obtain ⟨hi, hd, hlt⟩ := h.running hown
  have hsome : s.owner = some (.producer i) := (h.owner_iff _).2 ⟨_, hown⟩
  unfold Sys.producerDone
  simp only [hd, Bool.not_false, if_true]
  -- the closing branch and the plain branch differ only in `closed`
  have key : ∀ b : Bool, (s.mpsc.closed → b) →
      (b → s.mpsc.closed ∨ (s.mpsc.nProducersClosed + 1 = s.mpsc.producerCount ∧ s.mpsc.joined)) →
      (s.mpsc.joined → s.mpsc.nProducersClosed + 1 = s.mpsc.producerCount → b) →
      SectionExit s ({ s with mpsc := { s.mpsc with
        producers := Function.update s.mpsc.producers i ⟨true⟩
        nProducersClosed := s.mpsc.nProducersClosed + 1, closed := b } }.unlock.setPc
          (.producer i) .exited) := by
    intro b hb hb' hjc
    refine ⟨?_, ⟨hb, fun _ => rfl, id, le_rfl⟩, rfl⟩
    refine
      { kinds := fun u => ?_, waits := fun u c hu => ?_, locks := fun u c hu => ?_,
        owner_iff := fun u => ?_,
        count_le := h.count_le, idle := fun j hj => ?_, done_iff := fun j hj => ?_,
        closed_count := ?_, joined_closed := hjc, closed_cause := fun hc => ?_,
        final_closed := fun hf => hb (h.final_closed hf),
        close_closed := fun hc => hb (h.close_closed hc), refused := fun j hr => ?_,
        consumer_final := fun hf => ?_, thread_ids := h.thread_ids, registered := h.registered,
        join_close := fun hj => ?_, join_loop := fun k hk => ?_, main_exited := fun he => ?_,
        joined_threads := ?_ } <;>
      simp only [Sys.setPc, Sys.unlock, Function.update_apply] at *
    · split
      · trivial
      · exact h.kinds u
    · split at hu
      · cases hu
      · exact h.waits u c hu
    · split at hu
      · cases hu
      · exact h.locks u c hu
    · split
      · subst_vars; simp
      · rw [← h.owner_iff u, hsome]
        simp only [reduceCtorEq, Option.some.injEq, false_iff]
        exact fun e => ‹¬u = _› e.symm
    · split
      · simp_all; omega
      · exact h.idle j hj
    · by_cases hji : j = i
      · subst hji; simp_all
      · simpa [hji] using h.done_iff j hj
    · rw [doneCount_finish _ _ _ hi hd, h.closed_count]
    · rcases hb' hc with hc | ⟨hn, hj⟩
      · rcases h.closed_cause hc with hc | ⟨_, hc⟩
        · exact .inl hc
        · omega
      · exact .inr ⟨hj, hn⟩
    · split at hr
      · cases hr
      · exact h.refused j hr
    · exact h.consumer_final (by simpa using hf)
    · exact h.join_close (by simpa using hj)
    · have := h.join_loop k (by simpa using hk); exact ⟨hb this.1, this.2⟩
    · exact hb (h.main_exited (by simpa using he))
    · simpa using h.joined_threads
  split
  · rename_i hc
    exact (key true (fun _ => rfl) (fun _ => .inr ⟨hc.1, hc.2⟩) (fun _ _ => rfl)).congr rfl rfl rfl
  · rename_i hc
    exact key s.mpsc.closed id .inl (fun hj hn => h.joined_closed hj (by simp_all))

/-- A section of `mpsc_join` leaves `main` at `p`; the other threads keep their
part of the invariant, and the facts about `main` and the closure are given. -/
theorem Lifecycle.main_frame {p : Pc} (h : Lifecycle s)
    (hpc : s'.pc = Function.update s.pc .main p)
    (howner : (s'.owner = none ∧ s.owner = some .main) ∨
      (s'.owner = s.owner ∧ ∀ c, s.pc .main ≠ .owns c))
    (hv : s'.life = { s.life with
      closed := s'.mpsc.closed, joined := s'.mpsc.joined, joinedThreads := s'.joinedThreads })
    (hp : p = .joinConsumer ∨ p = .lock .joinClose ∨ (∃ k, p = .joinProducers k) ∨ p = .exited)
    (hjc : s'.mpsc.joined → s'.mpsc.nProducersClosed = s'.mpsc.producerCount → s'.mpsc.closed)
    (hcause : s'.mpsc.closed →
      s'.closeCalled ∨ (s'.mpsc.joined ∧ s'.mpsc.nProducersClosed = s'.mpsc.producerCount))
    (hclosed : s.mpsc.closed → s'.mpsc.closed)
    (hclose : p = .lock .joinClose → s'.finalCalled)
    (hloop : ∀ k, p = .joinProducers k → s'.mpsc.closed ∧ k ≤ s'.mpsc.producerCount)
    (hexit : p = .exited → s'.mpsc.closed)
    (hthreads : s'.joinedThreads =
      (List.range (joinedUpTo p s'.mpsc.producerCount)).map .producer) :
    Lifecycle s' ∧ Keeps s s' := by
  simp only [Sys.life, LifeView.mk.injEq] at hv
  obtain ⟨hcount, hmax, hprod, hclosedN, -, -, hids, hcc, hfc, hreg, -⟩ := hv
  have hpc' : ∀ u, s'.pc u = if u = .main then p else s.pc u := fun u => by
    rw [hpc, Function.update_apply]
  have hpo : ∀ c, p ≠ .owns c := by rintro c rfl; simp at hp
  have hpw : ∀ c, p ≠ .wait c := by rintro c rfl; simp at hp
  have hmain : s'.owner ≠ some .main := by
    rcases howner with ⟨ho, -⟩ | ⟨ho, hn⟩
    · simp [ho]
    · rw [ho]; intro he
      obtain ⟨c, hc⟩ := (h.owner_iff _).1 he
      exact hn c hc
  refine ⟨?_, ⟨hclosed, fun _ => hcount, fun h => hcc ▸ h, hcount.ge⟩⟩
  refine
    { kinds := fun u => ?_, waits := fun u c hu => ?_, locks := fun u c hu => ?_,
      owner_iff := fun u => ?_,
      count_le := ?_, idle := fun i hi => ?_, done_iff := fun i hi => ?_, closed_count := ?_,
      joined_closed := hjc, closed_cause := hcause,
      final_closed := fun hf => hclosed (h.final_closed (hfc ▸ hf)),
      close_closed := fun hc => hclosed (h.close_closed (hcc ▸ hc)),
      refused := fun i hr => ?_, consumer_final := ?_, thread_ids := ?_, registered := ?_,
      join_close := ?_, join_loop := ?_, main_exited := ?_, joined_threads := ?_ } <;>
    simp only [hpc', hcount, hmax, hprod, hclosedN, hids, hcc, hfc, hreg, if_true, reduceCtorEq,
      if_false] at *
  · split
    · subst_vars; rcases hp with rfl | rfl | ⟨k, rfl⟩ | rfl <;> first | rfl | trivial
    · exact h.kinds u
  · split at hu
    · exact absurd hu (hpw c)
    · exact h.waits u c hu
  · split at hu
    · subst hu; rcases hp with h | h | ⟨k, h⟩ | h <;> cases h; simp [Call.cv]
    · exact h.locks u c hu
  · split
    · subst_vars; simp only [hmain, false_iff]; rintro ⟨c, hc⟩; exact hpo c hc
    · rw [← h.owner_iff]
      rcases howner with ⟨ho, hs⟩ | ⟨ho, -⟩
      · rw [ho, hs]; simp only [reduceCtorEq, Option.some.injEq, false_iff]
        exact fun e => ‹¬u = _› e.symm
      · rw [ho]
  · exact h.count_le
  · exact h.idle i hi
  · exact h.done_iff i hi
  · exact h.closed_count
  · exact h.refused i hr
  · exact h.consumer_final
  · exact h.thread_ids
  · exact h.registered
  · rintro (hl | hl)
    exacts [hclose hl, absurd hl (hpo _)]
  · exact fun k hk => hloop k hk
  · exact hexit
  · exact hthreads

theorem SectionExit.of_keeps (hx : Lifecycle s' ∧ Keeps s s') (ho : s'.owner = none) :
    SectionExit s s' :=
  ⟨hx.1, hx.2, ho⟩

theorem Lifecycle.main_of_owns_join {t : Tid} {c : Call} (h : Lifecycle s)
    (hown : s.pc t = .owns c) (hc : c = .join ∨ c = .joinClose) : t = .main := by
  have := h.runsOn_owns hown
  rcases hc with rfl | rfl <;> exact this

theorem lifecycle_join {t : Tid} (h : Lifecycle s) (hown : s.pc t = .owns .join)
    (he : s.join t = .ok s') : SectionExit s s' := by
  obtain rfl := h.main_of_owns_join hown (.inl rfl)
  have hsome : s.owner = some .main := (h.owner_iff _).2 ⟨_, hown⟩
  have hj : joinedUpTo (s.pc .main) s.mpsc.producerCount = 0 := by rw [hown]; rfl
  have hthreads := h.joined_threads
  rw [hj] at hthreads
  rcases Sys.join_cases he with ⟨h2, -, ⟨h4, rfl⟩ | ⟨h4, rfl⟩⟩
  · exact .of_keeps (h.main_frame rfl (.inl ⟨rfl, hsome⟩) rfl (.inl rfl) (fun _ _ => rfl)
      (fun _ => .inr ⟨rfl, h4.symm⟩) (fun _ => rfl) (by simp) (by simp) (by simp) hthreads) rfl
  · refine .of_keeps (h.main_frame rfl (.inl ⟨rfl, hsome⟩) rfl (.inl rfl)
      (fun _ hn => absurd hn.symm h4) (fun hc => ?_) id (by simp) (by simp) (by simp) hthreads) rfl
    rcases h.closed_cause hc with hc | ⟨hj, -⟩
    · exact .inl hc
    · simp [h2] at hj

theorem lifecycle_joinClose {t : Tid} (h : Lifecycle s) (hown : s.pc t = .owns .joinClose) :
    SectionExit s (s.joinClose t) := by
  obtain rfl := h.main_of_owns_join hown (.inr rfl)
  have hsome : s.owner = some .main := (h.owner_iff _).2 ⟨_, hown⟩
  have hc : s.mpsc.closed := h.final_closed (h.join_close (.inr hown))
  have hj : joinedUpTo (s.pc .main) s.mpsc.producerCount = 0 := by rw [hown]; rfl
  have hthreads := h.joined_threads
  rw [hj] at hthreads
  refine .of_keeps (h.main_frame rfl (.inl ⟨rfl, hsome⟩) ?_ (.inr (.inr (.inl ⟨0, rfl⟩)))
    (fun _ _ => rfl) (fun _ => h.closed_cause hc) (fun _ => rfl) (by simp)
    (fun k hk => ⟨rfl, by cases hk; omega⟩) (by simp) hthreads) rfl
  simp only [Sys.life, Sys.joinClose, Sys.setPc, Sys.unlock, hc]

theorem lifecycle_runSection {t : Tid} {ok : Bool} {c : Call} (h : Lifecycle s)
    (hown : s.pc t = .owns c) (he : s.runSection t ok c = some (.ok s')) : SectionExit s s' := by
  rcases Sys.runSection_cases he with ⟨i, data, rfl, rfl, hr⟩ | ⟨i, data, j, ticket, rfl, rfl, hr⟩ |
    ⟨i, rfl, rfl, hr⟩ | ⟨i, rfl, rfl, hr⟩ | ⟨caller, rfl, hr⟩ | ⟨caller, rfl, hr⟩ |
    ⟨rfl, hr⟩ | ⟨rfl, hr⟩ | ⟨rfl, hr⟩
  · exact lifecycle_sendEntry h hown hr.symm
  · exact lifecycle_sendWaitLoop h hown hr.symm
  · cases hr; exact lifecycle_producerPing h hown
  · cases hr; exact lifecycle_producerDone h hown
  · exact lifecycle_registerProducer h hown hr.symm
  · cases hr; exact lifecycle_consumerClose h hown
  · exact lifecycle_consumerLoop h hown hr.symm
  · exact lifecycle_join h hown hr.symm
  · cases hr; exact lifecycle_joinClose h hown

end Sections

/-! ### Steps outside the critical sections -/

section Steps

variable {s s' : Sys}

theorem UserCode.enter_runsOn {code : UserCode} {op : Op} {c : Call} {t : Tid}
    (he : code.enter op = some c) (hk : code.runsOn t) : c.runsOn t := by
  cases code <;> cases op <;> cases he <;> exact hk

theorem UserCode.enter_ne_joinClose {code : UserCode} {op : Op} {c : Call}
    (he : code.enter op = some c) : c ≠ .joinClose := by
  cases code <;> cases op <;> cases he <;> simp

theorem UserCode.enter_cv {code : UserCode} {op : Op} {c : Call}
    (he : code.enter op = some c) : c.cv = none := by
  cases code <;> cases op <;> cases he <;> rfl

theorem UserCode.enter_inFinal {code : UserCode} {op : Op} {c : Call} (last : Ret)
    (he : code.enter op = some c) (hf : (Pc.lock c).inFinal) : (Pc.user code last).inFinal := by
  cases code <;> cases op <;> cases he <;> simp_all [Pc.inFinal]

/-- A thread that holds no lock moving to a plain program counter (or the
consumer leaving its thread), with no other change, keeps the invariant. -/
theorem Lifecycle.move {t : Tid} {q p : Pc} (h : Lifecycle s) (hq : s.pc t = q)
    (hpc : s'.pc = Function.update s.pc t p) (howner : s'.owner = s.owner)
    (hv : s'.life = s.life) (hp : p.Plain ∨ t = .consumer ∧ p = .exited) (hk : p.runsOn t)
    (hqo : ∀ c, q ≠ .owns c) (hqi : q ≠ .idle) (hqe : q ≠ .exited)
    (hfin : p.inFinal → q.inFinal) (hqm : t = .main → q.Plain) (hpr : ¬p.refused) :
    Lifecycle s' ∧ Keeps s s' := by
  subst hq
  refine ⟨?_, Keeps.of_life hv⟩
  simp only [Sys.life, LifeView.mk.injEq] at hv
  obtain ⟨hcount, hmax, hprod, hclosedN, hclosed, hjoined, hids, hcc, hfc, hreg, hjt⟩ := hv
  have hpc' : ∀ u, s'.pc u = if u = t then p else s.pc u := fun u => by
    rw [hpc, Function.update_apply]
  have hpo : ∀ c, p ≠ .owns c := by
    rintro c rfl; rcases hp with hp | ⟨-, hp⟩ <;> cases hp
  have hpp : ∀ i, t = .producer i → p ≠ .exited := by
    rintro i rfl rfl; rcases hp with hp | ⟨hp, -⟩ <;> cases hp
  have hmain : t = .main → p.Plain := by
    rintro rfl; rcases hp with hp | ⟨hp, -⟩
    exacts [hp, by cases hp]
  have hjoin : ∀ r, r.Plain → joinedUpTo r s.mpsc.producerCount = 0 := by
    intro r hr; cases r <;> first | rfl | exact absurd hr id
  constructor <;>
    (try simp only [hpc', hcount, hmax, hprod, hclosedN, hclosed, hjoined, hids, hcc, hfc, hreg,
      hjt, howner])
  · intro u; split
    · subst_vars; exact hk
    · exact h.kinds u
  · intro u c hu
    split at hu
    · subst_vars
      rcases hp with hp | ⟨-, hp⟩
      exacts [hp, by cases hp]
    · exact h.waits u c hu
  · intro u c hu
    split at hu
    · subst_vars
      rcases hp with hp | ⟨-, hp⟩
      exacts [hp.2, by cases hp]
    · exact h.locks u c hu
  · intro u; split
    · subst_vars
      rw [h.owner_iff]
      exact ⟨fun ⟨c, hc⟩ => absurd hc (hqo c), fun ⟨c, hc⟩ => absurd hc (hpo c)⟩
    · exact h.owner_iff u
  · exact h.count_le
  · intro i hi; split
    · subst_vars; exact absurd (h.idle i hi) hqi
    · exact h.idle i hi
  · intro i hi; split
    · subst_vars; rw [h.done_iff i hi]; simp [hqe, hpp i rfl]
    · exact h.done_iff i hi
  · exact h.closed_count
  · exact h.joined_closed
  · exact h.closed_cause
  · exact h.final_closed
  · exact h.close_closed
  · intro i; split
    · exact fun hr => absurd hr hpr
    · exact h.refused i
  · split
    · subst_vars; exact fun hf => h.consumer_final (hfin hf)
    · exact h.consumer_final
  · exact h.thread_ids
  · exact h.registered
  · split
    · subst_vars
      have hm := hmain rfl
      rintro (he | he) <;> subst he
      exacts [absurd rfl hm.1, absurd hm id]
    · exact h.join_close
  · intro k; split
    · subst_vars; rintro rfl; exact absurd (hmain rfl) id
    · exact h.join_loop k
  · split
    · subst_vars; rintro rfl; exact absurd (hmain rfl) id
    · exact h.main_exited
  · split
    · subst_vars
      rw [h.joined_threads, hjoin _ (hqm rfl), hjoin p (hmain rfl)]
    · exact h.joined_threads

theorem lifecycle_acquire {t : Tid} {c : Call} (h : Lifecycle s) (hnone : s.owner = none)
    (hq : s.pc t = .lock c ∨ s.pc t = .wait c) :
    Lifecycle { s.setPc t (.owns c) with owner := some t } := by
  have hk : c.runsOn t := by
    have := h.kinds t; rcases hq with hq | hq <;> rwa [hq] at this
  have hw : s.pc t = .wait c → c.cv.isSome := h.waits t c
  have hfin : (Pc.owns c).inFinal → (s.pc t).inFinal := by
    rcases hq with hq | hq <;> rw [hq] at hw ⊢ <;> cases c <;> simp_all [Pc.inFinal, Call.cv]
  have hpt : joinedUpTo (s.pc t) s.mpsc.producerCount = 0 := by
    rcases hq with hq | hq <;> simp [hq, joinedUpTo]
  constructor <;> (try simp only [Sys.setPc, Function.update_apply])
  · intro u; split
    · subst_vars; exact hk
    · exact h.kinds u
  · intro u c' hu
    split at hu
    · cases hu
    · exact h.waits u c' hu
  · intro u c' hu
    split at hu
    · cases hu
    · exact h.locks u c' hu
  · intro u; split
    · subst_vars; simp
    · rw [← h.owner_iff, hnone]; simp only [reduceCtorEq, Option.some.injEq, iff_false]
      exact fun e => ‹¬u = t› e.symm
  · exact h.count_le
  · intro i hi; split
    · subst_vars; rw [h.idle i hi] at hq; simp at hq
    · exact h.idle i hi
  · intro i hi; split
    · subst_vars; rw [h.done_iff i hi]; rcases hq with hq | hq <;> simp [hq]
    · exact h.done_iff i hi
  · exact h.closed_count
  · exact h.joined_closed
  · exact h.closed_cause
  · exact h.final_closed
  · exact h.close_closed
  · intro i; split
    · exact nofun
    · exact h.refused i
  · split
    · subst_vars; exact fun hf => h.consumer_final (hfin hf)
    · exact h.consumer_final
  · exact h.thread_ids
  · exact h.registered
  · split
    · subst_vars
      rintro (he | he)
      · cases he
      · cases he
        rcases hq with hq | hq
        · exact h.join_close (.inl hq)
        · cases h.waits _ _ hq
    · exact h.join_close
  · intro k; split
    · rintro ⟨⟩
    · exact h.join_loop k
  · split
    · rintro ⟨⟩
    · exact h.main_exited
  · split
    · subst_vars; rw [h.joined_threads, hpt]; rfl
    · exact h.joined_threads

theorem lifecycle_joined {t : Tid} (h : Lifecycle s) (he : s.step (.joined t) = some (.ok s')) :
    Lifecycle s' ∧ Keeps s s' := by
  have hmain : ∀ p, s.pc t = p → p.runsOn t → (p = .joinConsumer ∨ ∃ k, p = .joinProducers k) →
      t = .main := by
    rintro p - hk (rfl | ⟨k, rfl⟩) <;> exact hk
  rcases Sys.step_joined he with ⟨hq, hc, rfl⟩ | ⟨i, u, hq, hi, hu, -, rfl⟩ | ⟨i, hq, hi, rfl⟩
  · obtain rfl := hmain _ hq (hq ▸ h.kinds t) (.inl rfl)
    have hf : s.finalCalled := h.consumer_final (by rw [hc]; trivial)
    refine h.main_frame rfl (.inr ⟨rfl, by simp [hq]⟩) rfl (.inr (.inl rfl)) h.joined_closed
      h.closed_cause id (fun _ => hf) (by simp) (by simp) ?_
    rw [Sys.setPc_joinedThreads, h.joined_threads, hq]; rfl
  · obtain rfl := hmain _ hq (hq ▸ h.kinds t) (.inr ⟨i, rfl⟩)
    have hl := h.join_loop i hq
    have hu' : u = .producer i := by
      rw [h.thread_ids i hi] at hu; exact (Option.some.inj hu).symm
    refine h.main_frame rfl (.inr ⟨rfl, by simp [hq]⟩) rfl (.inr (.inr (.inl ⟨_, rfl⟩)))
      h.joined_closed h.closed_cause id (by simp) (fun k hk => ?_) (by simp) ?_
    · cases hk; exact ⟨hl.1, hi⟩
    · simp only [h.joined_threads, hq, joinedUpTo, hu', List.range_succ, List.map_append]; rfl
  · obtain rfl := hmain _ hq (hq ▸ h.kinds t) (.inr ⟨i, rfl⟩)
    have hl := h.join_loop i hq
    refine h.main_frame rfl (.inr ⟨rfl, by simp [hq]⟩) rfl (.inr (.inr (.inr rfl)))
      h.joined_closed h.closed_cause id (by simp) (by simp) (fun _ => hl.1) ?_
    rw [Sys.setPc_joinedThreads, h.joined_threads, hq]
    simp only [joinedUpTo, Sys.setPc_mpsc]
    congr 2; omega

theorem lifecycle_step {e : Event} (h : Lifecycle s) (he : s.step e = some (.ok s')) :
    Lifecycle s' ∧ Keeps s s' := by
  cases e with
  | call t op =>
    obtain ⟨code, last, c, hq, hc, rfl⟩ := Sys.step_call he
    have hk : code.runsOn t := by have := h.kinds t; rwa [hq] at this
    exact h.move hq rfl rfl rfl
      (.inl ⟨UserCode.enter_ne_joinClose hc, by simp [UserCode.enter_cv hc]⟩)
      (UserCode.enter_runsOn hc hk) (by simp) (by simp) (by simp)
      (UserCode.enter_inFinal last hc) (fun _ => trivial) nofun
  | ret t =>
    obtain ⟨code, last, p, hq, hp, rfl⟩ := Sys.step_ret he
    have hk : code.runsOn t := by have := h.kinds t; rwa [hq] at this
    have hmove : p.Plain ∨ t = .consumer ∧ p = .exited → p.runsOn t →
        (p.inFinal → (Pc.user code last).inFinal) → ¬p.refused →
        Lifecycle (s.setPc t p) ∧ Keeps s (s.setPc t p) := fun hp hk hfin hpr =>
      h.move hq rfl rfl rfl hp hk (by simp) (by simp) (by simp) hfin (fun _ => trivial) hpr
    cases code <;> cases hp
    · exact hmove (.inl (by simp [Pc.Plain, Call.cv])) hk (by simp [Pc.inFinal]) nofun
    · exact hmove (.inl (by simp [Pc.Plain, Call.cv])) hk (by simp [Pc.inFinal]) nofun
    · exact hmove (.inl (by simp [Pc.Plain, Call.cv])) hk (by simp [Pc.inFinal]) nofun
    · exact hmove (.inr ⟨hk, rfl⟩) trivial (fun _ => rfl) nofun
  | acquire t =>
    obtain ⟨c, hnone, hq, rfl⟩ := Sys.step_acquire he
    exact ⟨lifecycle_acquire h hnone (hq.imp_right And.left), Keeps.of_life rfl⟩
  | run t ok =>
    obtain ⟨c, hown, hr⟩ := Sys.step_run he
    have hx := lifecycle_runSection h hown hr
    exact ⟨hx.life, hx.keeps⟩
  | joined t => exact lifecycle_joined h he

end Steps

theorem reachable_lifecycle {s : Sys} (h : Reachable s) : Lifecycle s := by
  induction h with
  | init p buffer producers queue => exact lifecycle_initial p buffer producers queue
  | step e _ he ih => exact (lifecycle_step ih he).1

/-- No run from a reachable state undoes a closure or a call of `mpsc_consumer_close`. -/
theorem keeps_run {s s' : Sys} (h : Reachable s) : ∀ {es : List Event}, s.run es = some s' →
    Keeps s s'
  | [], he => by cases he; exact Keeps.of_life rfl
  | e :: es, he => by
    simp only [Sys.run] at he
    split at he
    · rename_i s₁ h₁
      exact (lifecycle_step (reachable_lifecycle h) h₁).2.trans (keeps_run (h.step e h₁) he)
    · cases he

/-- The join loop has joined a prefix of the registered producer threads. -/
theorem Lifecycle.joinedThreads_prefix {s : Sys} (h : Lifecycle s) :
    s.joinedThreads <+: s.registered := by
  have hle : joinedUpTo (s.pc .main) s.mpsc.producerCount ≤ s.mpsc.producerCount := by
    unfold joinedUpTo; split
    · exact (h.join_loop _ ‹_›).2
    · exact le_rfl
    · exact Nat.zero_le _
  rw [h.joined_threads, h.registered, ← Nat.min_eq_left hle, ← List.take_range, List.map_take]
  exact List.take_prefix _ _

/-! ### Consequences -/

/-- The lifecycle laws of `mpsc_register_producer`, `mpsc_producer_done` and
`mpsc_join`: the count of finished producers, the closure rule and its two
causes, the refusals a producer task can see, and the threads the join loop
waits for. -/
theorem lifecycle_laws {s : Sys} (h : Reachable s) :
    (s.mpsc.nProducersClosed = doneCount s.mpsc.producers s.mpsc.producerCount ∧
      s.mpsc.nProducersClosed ≤ s.mpsc.producerCount ∧
      s.mpsc.producerCount ≤ s.mpsc.nMaxProducers) ∧
    (∀ es s', s.run es = some s' → s.mpsc.closed →
      s'.mpsc.closed ∧ s'.mpsc.producerCount = s.mpsc.producerCount) ∧
    (s.mpsc.joined → s.mpsc.nProducersClosed = s.mpsc.producerCount → s.mpsc.closed) ∧
    (s.mpsc.closed →
      s.closeCalled ∨ (s.mpsc.joined ∧ s.mpsc.nProducersClosed = s.mpsc.producerCount)) ∧
    (∀ i, s.pc (.producer i) = .user .producerCallback (.send false) ∨
      s.pc (.producer i) = .user .producerCallback (.ping false) → s.closeCalled) ∧
    s.joinedThreads <+: s.registered ∧
    (s.pc .main = .exited → s.joinedThreads = s.registered) := by
  have hl := reachable_lifecycle h
  refine ⟨⟨hl.closed_count, ?_, hl.count_le⟩, fun es s' hr hc => ?_, hl.joined_closed,
    hl.closed_cause, fun i hi => hl.refused i ?_, hl.joinedThreads_prefix, fun he => ?_⟩
  · rw [hl.closed_count]; exact doneCount_le _ _
  · have hk := keeps_run h hr
    exact ⟨hk.closed hc, hk.count hc⟩
  · rcases hi with hi | hi <;> rw [hi] <;> rfl
  · rw [hl.joined_threads, hl.registered, he]; rfl

/-- After `shutdownRun` the channel was closed by `mpsc_join`, not by
`mpsc_consumer_close`, and the join loop joined the one registered producer. -/
theorem lifecycle_laws_after_shutdown :
    ∃ s, noErrorHandlingChannel.run shutdownRun = some s ∧ Reachable s ∧
      s.mpsc.nProducersClosed = doneCount s.mpsc.producers s.mpsc.producerCount ∧
      s.mpsc.producerCount = 1 ∧ s.mpsc.closed = true ∧ s.closeCalled = false ∧
      (s.mpsc.joined = true ∧ s.mpsc.nProducersClosed = s.mpsc.producerCount) ∧
      s.joinedThreads = s.registered := by
  have hr : Reachable noErrorHandlingChannel := .init _ _ _ _ rfl rfl
  have hs := @Reachable.run _ _ hr shutdownRun rfl
  have hl := lifecycle_laws hs
  exact ⟨_, rfl, hs, hl.1.1, rfl, rfl, rfl, (hl.2.2.2.1 rfl).resolve_left (by decide),
    hl.2.2.2.2.2.2 rfl⟩

/-- The mutex discipline: no thread holds the mutex while it runs application
code or while it asks for the mutex, and every critical section that does not
abort, including each iteration of the consumer loop, releases it. -/
theorem mutex_discipline {s : Sys} (h : Reachable s) :
    (∀ t code last, s.pc t = .user code last → s.owner ≠ some t) ∧
    (∀ t ok c s', s.pc t = .owns c → s.runSection t ok c = some (.ok s') →
      s'.owner = none) ∧
    (∀ t c, s.pc t = .lock c ∨ s.pc t = .wait c → s.owner ≠ some t) := by
  have hl := reachable_lifecycle h
  have hnot : ∀ t, (∀ c, s.pc t ≠ .owns c) → s.owner ≠ some t := fun t hn ho => by
    obtain ⟨c, hc⟩ := (hl.owner_iff t).1 ho
    exact hn c hc
  refine ⟨fun t code last hq => hnot t (by simp [hq]),
    fun t ok c s' hown hr => (lifecycle_runSection hl hown hr).released,
    fun t c hq => hnot t ?_⟩
  rcases hq with hq | hq <;> simp [hq]

/-- The creator holds the mutex for its first `mpsc_register_producer`; the
section releases it, and the consumer, waiting for the lock, does not hold it. -/
theorem mutex_discipline_after_lock :
    ∃ s s', noErrorHandlingChannel.run (electionRun.take 2) = some s ∧ Reachable s ∧
      s.owner = some .main ∧ s.pc .main = .owns (.registerProducer .program) ∧
      s.runSection .main true (.registerProducer .program) = some (.ok s') ∧ s'.owner = none ∧
      s.owner ≠ some .consumer := by
  have hr : Reachable noErrorHandlingChannel := .init _ _ _ _ rfl rfl
  have hs := @Reachable.run _ _ hr (electionRun.take 2) rfl
  have hm := mutex_discipline hs
  exact ⟨_, _, rfl, hs, rfl, rfl, rfl, hm.2.1 .main true _ _ rfl rfl,
    hm.2.2 .consumer .consumerLoop (.inl rfl)⟩

end CMpsc
