import CMpsc.Queue

/-!
# Every accepted message reaches the consumer once

An accepted `mpsc_producer_send` copies its payload into the slot
`buffer[0 .. n)` and sets `pending_message` (`mpsc.c:335-343`); the consumer
thread copies the slot into a fresh block, clears it, and calls the consumer
callback outside the lock (`mpsc.c:595-621`). Over the ghost history of `Sys`
(every write into the slot, every message taken out, every callback) the
invariant says: the payloads written, in the order they were written, are the
messages taken followed by the slot; each message taken was reported by one
callback, in the same order, as a byte-equal copy of its own length in a block
no other call received (no block when the length is `0`), or, under
`error_handling_enabled`, to the error callback when that block could not be
allocated (`mpsc.c:599-607`); and the closing call of the consumer callback
(`mpsc.c:624`) comes after all of them.
-/

namespace CMpsc

/-- The message in the slot, `buffer[0 .. n)`, while `pending_message` is set. -/
def Sys.slotMessage (s : Sys) : List Bytes :=
  if s.mpsc.pendingMessage then [s.mpsc.buffer.take s.mpsc.n] else []

/-- The closing call of the consumer callback, once it has been made. -/
def Sys.finalCall (s : Sys) : List Invocation :=
  if s.finalCalled then [.consumerCallback none 0 [] true] else []

/-- The block a call of the consumer callback received. -/
def Invocation.block : Invocation → Option Nat
  | .consumerCallback data _ _ _ => data
  | .consumerErrorCallback => none

/-- How the consumer thread reported a message `msg` it took out of the slot. -/
def Reported (errorHandling : Bool) (msg : Bytes) : Invocation → Prop
  | .consumerCallback data n bytes closed =>
    closed = false ∧ bytes = msg ∧ n = msg.length ∧ (data = none ↔ n = 0)
  | .consumerErrorCallback => errorHandling = true ∧ msg ≠ []

/-- The payload of a call of `mpsc_producer_send` inside its wait loop. -/
def Pc.waitData : Pc → Option Bytes
  | .wait (.sendWait data _ _) => some data
  | .owns (.sendWait data _ _) => some data
  | _ => none

/-- The payload of a call of `mpsc_producer_send` holding the mutex. -/
def Pc.sendData : Pc → Option Bytes
  | .owns (.send data) => some data
  | .owns (.sendWait data _ _) => some data
  | _ => none

/-- The data the delivery invariant reads, besides program counters. -/
structure DeliveryView where
  bufferSize : Nat
  buffer : Bytes
  n : Nat
  pendingMessage : Bool
  errorHandlingEnabled : Bool
  written : List Deposit
  taken : List Bytes
  invocations : List Invocation
  heap : Nat
  finalCalled : Bool

def Sys.deliveryView (s : Sys) : DeliveryView :=
  ⟨s.mpsc.bufferSize, s.mpsc.buffer, s.mpsc.n, s.mpsc.pendingMessage,
    s.mpsc.errorHandlingEnabled, s.written, s.taken, s.invocations, s.heap, s.finalCalled⟩

/-- The delivery invariant. -/
structure Delivery (s : Sys) : Prop where
  buffer_length : s.mpsc.buffer.length = s.mpsc.bufferSize
  n_le : s.mpsc.n ≤ s.mpsc.bufferSize
  fits : ∀ t data, (s.pc t).waitData = some data → data.length ≤ s.mpsc.bufferSize
  slot : s.written.map Deposit.data = s.taken ++ s.slotMessage
  calls : ∃ ds, s.invocations = ds ++ s.finalCall ∧
    List.Forall₂ (Reported s.mpsc.errorHandlingEnabled) s.taken ds
  blocks : (s.invocations.filterMap Invocation.block).Nodup
  blocks_lt : ∀ b ∈ s.invocations.filterMap Invocation.block, b < s.heap
  final_pc : s.finalCalled → (s.pc .consumer).inFinal

/-! ### Frames -/

section Frames

variable {s s' : Sys}

theorem delivery_initial (p : CreateParams) (buffer : Bytes) (producers : Nat → Producer)
    (queue : Nat → Nat) (hb : buffer.length = p.bufferSize) :
    Delivery (Sys.initial p buffer producers queue) where
  buffer_length := hb
  n_le := Nat.zero_le _
  fits t d h := by cases t <;> cases h
  slot := rfl
  calls := ⟨[], rfl, .nil⟩
  blocks := List.nodup_nil
  blocks_lt _ h := by cases h
  final_pc h := by cases h

/-- A step that leaves the slot and the history alone. -/
theorem Delivery.frame (h : Delivery s) (hv : s'.deliveryView = s.deliveryView)
    (hfits : ∀ u d, (s'.pc u).waitData = some d → d.length ≤ s.mpsc.bufferSize)
    (hfin : s.finalCalled → (s'.pc .consumer).inFinal) : Delivery s' := by
  simp only [Sys.deliveryView, DeliveryView.mk.injEq] at hv
  obtain ⟨hsize, hbuf, hn, hpend, heh, hw, htk, hinv, hheap, hfc⟩ := hv
  have hslot : s'.slotMessage = s.slotMessage := by simp only [Sys.slotMessage, hpend, hbuf, hn]
  have hfinal : s'.finalCall = s.finalCall := by simp only [Sys.finalCall, hfc]
  exact ⟨by rw [hbuf, hsize]; exact h.buffer_length, by rw [hn, hsize]; exact h.n_le,
    fun u d hu => hsize ▸ hfits u d hu, by rw [hw, htk, hslot]; exact h.slot,
    by rw [hinv, hfinal, htk, heh]; exact h.calls, by rw [hinv]; exact h.blocks,
    by rw [hinv, hheap]; exact h.blocks_lt, fun hf => hfin (hfc ▸ hf)⟩

/-- A step that leaves the slot and the history alone and moves one thread. -/
theorem Delivery.move {t : Tid} {p : Pc} (h : Delivery s) (hv : s'.deliveryView = s.deliveryView)
    (hpc : s'.pc = Function.update s.pc t p)
    (hp : ∀ d, p.waitData = some d → d.length ≤ s.mpsc.bufferSize)
    (hfin : t = .consumer → s.finalCalled → p.inFinal) : Delivery s' := by
  refine h.frame hv (fun u d hu => ?_) fun hf => ?_
  · rw [hpc, Function.update_apply] at hu
    split at hu
    exacts [hp d hu, h.fits u d hu]
  · rw [hpc, Function.update_apply]
    split
    next hc => exact hfin hc.symm hf
    next => exact h.final_pc hf

/-- A thread returning to application code. -/
theorem Delivery.leave {t : Tid} {code : UserCode} {r : Ret} (h : Delivery s)
    (hv : s'.deliveryView = s.deliveryView) (hpc : s'.pc = Function.update s.pc t (.user code r))
    (hfin : t = .consumer → s.finalCalled → (Pc.user code r).inFinal) : Delivery s' :=
  h.move hv hpc (fun _ h => by cases h) hfin

end Frames

/-! ### Writing the slot -/

section Deposit

variable {s : Sys}

theorem deposit_buffer_take (s : Sys) (i : Nat) (data : Bytes) (ticket : Nat) (sub : Bool) :
    (s.deposit i data ticket sub).mpsc.buffer.take data.length = data := by
  show List.take _ (if data.length > 0 then _ else _) = data
  split
  · exact List.take_left' rfl
  · rw [List.eq_nil_of_length_eq_zero (by omega : data.length = 0)]; rfl

/-- The deposit of `mpsc_producer_send` (lines 335-343) into a free slot. -/
theorem Delivery.deposit {i ticket : Nat} {data : Bytes} {sub : Bool} (h : Delivery s)
    (hp : s.mpsc.pendingMessage = false) (hd : data.length ≤ s.mpsc.bufferSize) :
    Delivery (s.deposit i data ticket sub) := by
  have hs : s.slotMessage = [] := by simp [Sys.slotMessage, hp]
  have hs' : (s.deposit i data ticket sub).slotMessage = [data] := by
    show (if true = true then [(s.deposit i data ticket sub).mpsc.buffer.take data.length]
      else []) = [data]
    rw [if_pos rfl, deposit_buffer_take]
  refine ⟨?_, hd, fun u d hu => ?_, ?_, h.calls, h.blocks, h.blocks_lt, fun hf => ?_⟩
  · show List.length (if data.length > 0 then _ else _) = s.mpsc.bufferSize
    split
    · simp only [Sys.memcpy, List.length_append, List.length_drop, h.buffer_length]; omega
    · exact h.buffer_length
  · rw [deposit_pc, Function.update_apply] at hu
    split at hu
    · cases hu
    · exact h.fits u d hu
  · rw [hs']
    show List.map _ (s.written ++ [_]) = s.taken ++ [data]
    rw [List.map_append, h.slot, hs]; simp
  · rw [deposit_pc, Function.update_noteq (by simp)]
    exact h.final_pc hf

end Deposit

/-! ### Taking the slot -/

section Take

variable {s s' : Sys}

theorem Delivery.finalCalled_false (h : Delivery s) {c : Call} (hown : s.pc .consumer = .owns c)
    (hc : ¬(Pc.owns c).inFinal) : s.finalCalled = false := by
  cases hf : s.finalCalled
  · rfl
  · exact absurd (hown ▸ h.final_pc hf) hc

/-- The message in the slot is `n` bytes long. -/
theorem Delivery.slot_length (h : Delivery s) : (s.mpsc.buffer.take s.mpsc.n).length = s.mpsc.n := by
  rw [List.length_take, h.buffer_length]; exact min_eq_left h.n_le

/-- Taking the pending message out of the slot and reporting it by `inv`, which
receives block `heap` when it receives one. -/
theorem Delivery.take {inv : Invocation} {heap : Nat} (h : Delivery s)
    (hp : s.mpsc.pendingMessage = true) (hfc : s.finalCalled = false)
    (hr : Reported s.mpsc.errorHandlingEnabled (s.mpsc.buffer.take s.mpsc.n) inv)
    (hb : ∀ b, inv.block = some b → s.heap = b ∧ heap = b + 1) (hheap : s.heap ≤ heap)
    (hv : s'.deliveryView = { s.deliveryView with
      n := 0, pendingMessage := false, taken := s.taken ++ [s.mpsc.buffer.take s.mpsc.n],
      invocations := s.invocations ++ [inv], heap := heap })
    (hpc : ∀ t d, (s'.pc t).waitData = some d → (s.pc t).waitData = some d) : Delivery s' := by
  simp only [Sys.deliveryView, DeliveryView.mk.injEq] at hv
  obtain ⟨hsize, hbuf, hn, hpend, heh, hw, htk, hinv, hheap', hfc'⟩ := hv
  obtain ⟨ds, hds, hall⟩ := h.calls
  have hfin : s.finalCall = [] := by simp [Sys.finalCall, hfc]
  refine ⟨by rw [hbuf, hsize]; exact h.buffer_length, by rw [hn]; omega,
    fun u d hu => hsize ▸ h.fits u d (hpc u d hu), ?_, ⟨ds ++ [inv], ?_, ?_⟩, ?_, ?_,
    fun hf => by rw [hfc', hfc] at hf; cases hf⟩
  · rw [hw, htk, h.slot, Sys.slotMessage, Sys.slotMessage, hpend, hp]; simp
  · rw [hinv, hds, hfin, Sys.finalCall, hfc', hfc]; simp
  · rw [htk, heh]; exact List.rel_append hall (.cons hr .nil)
  · rw [hinv, List.filterMap_append]
    cases hblk : inv.block with
    | none => simpa [List.filterMap_cons, hblk] using h.blocks
    | some b =>
      have hfresh : b ∉ s.invocations.filterMap Invocation.block := fun hm => by
        have := h.blocks_lt b hm; have := (hb b hblk).1; omega
      simp only [List.filterMap_cons, hblk, List.filterMap_nil]
      exact List.nodup_append.2 ⟨h.blocks, List.nodup_singleton b, List.disjoint_singleton.2 hfresh⟩
  · rw [hinv, hheap', List.filterMap_append]
    intro b hb'
    rcases List.mem_append.1 hb' with hb' | hb'
    · exact Nat.lt_of_lt_of_le (h.blocks_lt b hb') hheap
    · cases hblk : inv.block with
      | none => simp [List.filterMap_cons, hblk] at hb'
      | some c =>
        simp only [List.filterMap_cons, hblk, List.filterMap_nil, List.mem_singleton] at hb'
        obtain ⟨-, rfl⟩ := hb c hblk
        omega

/-- The closing call of the consumer callback, made once the slot is empty and
the channel closed (lines 587-590, 624). -/
theorem Delivery.finish {r : Ret} (h : Delivery s) (hfc : s.finalCalled = false)
    (hv : s'.deliveryView = { s.deliveryView with
      invocations := s.invocations ++ [.consumerCallback none 0 [] true], finalCalled := true })
    (hpc : s'.pc = Function.update s.pc .consumer (.user .consumerFinalCallback r)) :
    Delivery s' := by
  simp only [Sys.deliveryView, DeliveryView.mk.injEq] at hv
  obtain ⟨hsize, hbuf, hn, hpend, heh, hw, htk, hinv, hheap, hfc'⟩ := hv
  obtain ⟨ds, hds, hall⟩ := h.calls
  have hfin : s.finalCall = [] := by simp [Sys.finalCall, hfc]
  have hslot : s'.slotMessage = s.slotMessage := by simp only [Sys.slotMessage, hpend, hbuf, hn]
  refine ⟨by rw [hbuf, hsize]; exact h.buffer_length, by rw [hn, hsize]; exact h.n_le,
    fun u d hu => ?_, by rw [hw, htk, hslot]; exact h.slot, ⟨ds, ?_, by rw [htk, heh]; exact hall⟩,
    ?_, ?_, fun _ => ?_⟩
  · rw [hpc, Function.update_apply] at hu
    split at hu
    · cases hu
    · exact hsize ▸ h.fits u d hu
  · rw [hinv, hds, hfin, Sys.finalCall, hfc']; simp
  · rw [hinv, List.filterMap_append]; simpa [Invocation.block] using h.blocks
  · rw [hinv, hheap, List.filterMap_append]; simpa [Invocation.block] using h.blocks_lt
  · rw [hpc, Function.update_same]; rfl

end Take

/-! ### Every critical section -/

section Sections

variable {s s' : Sys}

theorem waitData_update_user {f : Tid → Pc} {t u : Tid} {code : UserCode} {r : Ret} {d : Bytes}
    (hu : (Function.update f t (.user code r) u).waitData = some d) : (f u).waitData = some d := by
  rw [Function.update_apply] at hu
  split at hu
  · cases hu
  · exact hu

theorem Delivery.congr (h : Delivery s) (hv : s'.deliveryView = s.deliveryView)
    (hpc : s'.pc = s.pc) : Delivery s' :=
  h.frame hv (fun u d hu => h.fits u d (hpc ▸ hu)) fun hf => hpc ▸ h.final_pc hf

/-- A library call of the consumer's code returns to the code it was called from. -/
theorem Delivery.final_return (h : Delivery s) {t : Tid} {c : Call} {p : Pc}
    (hown : s.pc t = .owns c) (hp : (Pc.owns c).inFinal → p.inFinal) :
    t = .consumer → s.finalCalled → p.inFinal := by
  rintro rfl hf
  exact hp (hown ▸ h.final_pc hf)

theorem delivery_sendWaitLoop {i j ticket : Nat} {data : Bytes} (h : Delivery s)
    (hpend : s.mpsc.pendingMessage → s.mpsc.nextWaitingProducerId = -1)
    (hd : data.length ≤ s.mpsc.bufferSize) (he : s.sendWaitLoop i data j ticket = .ok s') :
    Delivery s' := by
  unfold Sys.sendWaitLoop at he
  split_ifs at he with h1 h2
  · cases he
    exact h.move rfl rfl (fun d hd' => by cases hd'; exact hd) nofun
  · cases he
    exact h.leave rfl rfl nofun
  · -- elected, so the slot is free
    simp only [Bool.and_eq_true, Bool.not_eq_true', bne_iff_ne, ne_eq, not_and, not_not] at h1 h2
    have hn := h1 (by simpa using h2)
    have hp : s.mpsc.pendingMessage = false := by
      cases hp : s.mpsc.pendingMessage
      · rfl
      · have := hpend hp; omega
    cases hs : mpscShiftProducerWaitQueue s.mpsc with
    | error e => simp [hs, Except.map] at he
    | ok m =>
      simp only [hs, Except.map, Except.ok.injEq] at he
      subst he
      obtain ⟨-, rfl⟩ := shift_ok hs
      refine Delivery.deposit ?_ ?_ ?_
      exacts [h.congr rfl rfl, hp, hd]

theorem delivery_sendEntry {i : Nat} {data : Bytes} (hq : QueueInv s) (h : Delivery s)
    (he : s.sendEntry i data = .ok s') : Delivery s' := by
  rcases Sys.sendEntry_cases he with
    ⟨h1, ⟨-, rfl⟩ | ⟨-, -, m, j, hsub, he⟩ | ⟨-, hp, -, rfl⟩⟩
  · exact h.leave rfl rfl nofun
  · obtain ⟨rfl, -, -, rfl⟩ := subscribe_ok hsub
    refine delivery_sendWaitLoop ?_ ?_ ?_ he
    exacts [h.congr rfl rfl, hq.pending, h1]
  · -- slot free and nobody elected
    refine Delivery.deposit ?_ ?_ ?_
    exacts [h.congr rfl rfl, hp, h1]

theorem delivery_consumerLoop {t : Tid} {ok : Bool} (hl : Lifecycle s) (h : Delivery s)
    (hown : s.pc t = .owns .consumerLoop) (he : s.consumerLoop t ok = .ok s') : Delivery s' := by
  obtain rfl : t = .consumer := hl.runsOn_owns hown
  have hfc := h.finalCalled_false hown id
  have hpc : ∀ {code r} u d, (Function.update s.pc .consumer (.user code r) u).waitData = some d →
      (s.pc u).waitData = some d := fun _ _ => waitData_update_user
  have hlen := h.slot_length
  rcases Sys.consumerLoop_cases he with ⟨-, -, rfl⟩ | ⟨-, -, rfl⟩ | ⟨hp, hn, -, heh, rfl⟩ |
    ⟨hp, hn, rfl⟩ | ⟨hp, hn, rfl⟩
  · -- back to `pthread_cond_wait`
    exact h.move rfl rfl (fun _ h => by cases h) fun _ hf => by rw [hfc] at hf; cases hf
  · exact h.finish hfc rfl rfl
  · -- no block for the copy: the error callback
    refine h.take hp hfc ?_ (fun _ h => by cases h) le_rfl rfl hpc
    refine ⟨heh, fun hm => ?_⟩
    rw [hm] at hlen
    simp at hlen; omega
  · -- delivery into a fresh block
    rw [Sys.elect_eq]
    refine h.take hp hfc ?_ (fun b hb => by cases hb; exact ⟨rfl, rfl⟩) (Nat.le_succ _) rfl hpc
    exact ⟨rfl, rfl, hlen.symm, nofun, fun h0 => by omega⟩
  · -- delivery of an empty message
    rw [Sys.elect_eq]
    refine h.take hp hfc ?_ (fun _ h => by cases h) le_rfl rfl hpc
    exact ⟨rfl, rfl, hlen.symm, fun _ => by omega, fun _ => rfl⟩

theorem delivery_registerProducer {t : Tid} {caller : UserCode} {ok : Bool} (h : Delivery s)
    (hown : s.pc t = .owns (.registerProducer caller))
    (he : s.registerProducer t caller ok = .ok s') : Delivery s' := by
  rcases Sys.registerProducer_cases he with ⟨-, rfl⟩ | ⟨-, -, rfl⟩ | ⟨-, -, -, rfl⟩ | ⟨-, -, -, -, rfl⟩
  · exact h.leave rfl rfl (h.final_return hown id)
  · exact h.leave rfl rfl (h.final_return hown id)
  · -- the new producer thread starts in its task
    refine h.frame rfl (fun u d hu => h.fits u d (waitData_update_user (waitData_update_user hu)))
      fun hf => ?_
    have hc := h.final_pc hf
    simp only [Sys.setPc_pc_eq, Sys.unlock_pc_eq, Function.update_apply, reduceCtorEq, if_false]
    split
    · subst_vars; rw [hown] at hc; exact hc
    · exact hc
  · exact h.leave rfl rfl (h.final_return hown id)

theorem delivery_runSection {t : Tid} {ok : Bool} {c : Call} (hl : Lifecycle s) (hq : QueueInv s)
    (h : Delivery s) (hown : s.pc t = .owns c) (he : s.runSection t ok c = some (.ok s')) :
    Delivery s' := by
  rcases Sys.runSection_cases he with ⟨i, data, rfl, rfl, hr⟩ | ⟨i, data, j, ticket, rfl, rfl, hr⟩ |
    ⟨i, rfl, rfl, hr⟩ | ⟨i, rfl, rfl, hr⟩ | ⟨caller, rfl, hr⟩ | ⟨caller, rfl, hr⟩ |
    ⟨rfl, hr⟩ | ⟨rfl, hr⟩ | ⟨rfl, hr⟩
  · exact delivery_sendEntry hq h hr.symm
  · exact delivery_sendWaitLoop h hq.pending (h.fits _ data (by rw [hown]; rfl)) hr.symm
  · cases hr; exact h.leave rfl rfl nofun
  · cases hr
    unfold Sys.producerDone
    dsimp only
    split_ifs <;> exact h.move rfl rfl (fun _ h => by cases h) nofun
  · exact delivery_registerProducer h hown hr.symm
  · cases hr
    unfold Sys.consumerClose
    dsimp only
    rw [Sys.signalWaiting_eq]
    exact h.leave rfl rfl (h.final_return hown id)
  · exact delivery_consumerLoop hl h hown hr.symm
  · rcases Sys.join_cases hr.symm with ⟨-, -, ⟨-, rfl⟩ | ⟨-, rfl⟩⟩ <;>
      exact h.move rfl rfl (fun _ h => by cases h) (fun ht => by cases hl.main_of_owns_join hown (.inl rfl); cases ht)
  · cases hr
    exact h.move rfl rfl (fun _ h => by cases h) (fun ht => by cases hl.main_of_owns_join hown (.inr rfl); cases ht)

end Sections

/-! ### Every step -/

section Steps

variable {s s' : Sys}

theorem UserCode.enter_keeps_final {code : UserCode} {op : Op} {c : Call} (last : Ret)
    (he : code.enter op = some c) (hf : (Pc.user code last).inFinal) : (Pc.lock c).inFinal := by
  cases code <;> cases op <;> cases he <;> simp_all [Pc.inFinal]

theorem delivery_step {e : Event} (hl : Lifecycle s) (hq : QueueInv s) (h : Delivery s)
    (he : s.step e = some (.ok s')) : Delivery s' := by
  cases e with
  | call t op =>
    obtain ⟨code, last, c, hpc, hc, rfl⟩ := Sys.step_call he
    refine h.move rfl rfl (fun d hd => by cases hd) ?_
    rintro rfl hf
    exact UserCode.enter_keeps_final last hc (hpc ▸ h.final_pc hf)
  | ret t =>
    obtain ⟨code, last, p, hpc, hp, rfl⟩ := Sys.step_ret he
    refine h.move rfl rfl (fun d hd => by cases code <;> cases hp <;> cases hd) ?_
    rintro rfl hf
    have := hpc ▸ h.final_pc hf
    cases code <;> cases hp <;> trivial
  | acquire t =>
    obtain ⟨c, -, hq', rfl⟩ := Sys.step_acquire he
    refine h.move rfl rfl (fun d hd => ?_) ?_
    · cases c <;> cases hd
      rcases hq' with hq' | ⟨hq', -⟩
      · cases hl.locks t _ hq' rfl
      · exact h.fits t _ (by rw [hq']; rfl)
    · rintro rfl hf
      have := h.final_pc hf
      rcases hq' with hq' | ⟨hq', -⟩ <;> rw [hq'] at this <;> cases c <;>
        first | exact this | exact this.elim
  | run t ok =>
    obtain ⟨c, hown, hr⟩ := Sys.step_run he
    exact delivery_runSection hl hq h hown hr
  | joined t =>
    rcases Sys.step_joined he with ⟨hq', -, rfl⟩ | ⟨i, u, hq', -, -, -, rfl⟩ | ⟨i, hq', -, rfl⟩ <;>
      refine h.move rfl rfl (fun d hd => by cases hd) ?_ <;>
      rintro rfl hf <;> have := h.final_pc hf <;> rw [hq'] at this <;> exact this.elim

end Steps

theorem reachable_delivery {s : Sys} (h : Reachable s) : Delivery s := by
  induction h with
  | init p buffer producers queue _ hb => exact delivery_initial p buffer producers queue hb
  | step e hr he ih => exact delivery_step (reachable_lifecycle hr) (reachable_queueInv hr) ih he

/-! ### Accepted sends are the writes -/

section Writes

variable {s s' : Sys}

/-- What one step does to the history of writes: nothing, with no call of
`mpsc_producer_send` returning `true`; or one write, of the payload of a call
that then returns `true`. -/
def WriteStep (s s' : Sys) : Prop :=
  (s'.written = s.written ∧ ∀ i, s'.pc (.producer i) = .user .producerCallback (.send true) →
    s.pc (.producer i) = s'.pc (.producer i)) ∨
  (∃ i ticket sub data, s'.written = s.written ++ [⟨i, ticket, sub, data⟩] ∧
    (s.pc (.producer i)).sendData = some data ∧
    s'.pc (.producer i) = .user .producerCallback (.send true))

theorem keeps_accepted {f : Tid → Pc} {t : Tid} {p : Pc} (hp : p ≠ .user .producerCallback (.send true))
    {u : Tid} (hu : Function.update f t p u = .user .producerCallback (.send true)) :
    f u = Function.update f t p u := by
  by_cases hut : u = t
  · subst hut; rw [Function.update_same] at hu; exact absurd hu hp
  · rw [Function.update_noteq hut]

/-- A step that writes nothing and moves one thread elsewhere than an accepted return. -/
theorem WriteStep.move {t : Tid} {p : Pc} (hw : s'.written = s.written)
    (hpc : s'.pc = Function.update s.pc t p) (hp : p ≠ .user .producerCallback (.send true)) :
    WriteStep s s' :=
  .inl ⟨hw, fun _ hi => (keeps_accepted hp (hpc ▸ hi)).trans (congrFun hpc _).symm⟩

end Writes

end CMpsc
