import CMpsc.Handoff
import CMpsc.Buffer

/-!
# The channel implements the one-place channel

`Sys.buffer` reads a one-place channel off a state: the payloads written, the
messages the consumer thread took out of the slot, `buffer[0 .. n)` while
`pending_message` is set, `closed`, and whether the consumer callback has been
called with `closed = true`. Every step of the C model is a step of that
channel or leaves it alone. An accepted `mpsc_producer_send` writes only into
the free slot of an open channel (`mpsc.c:302-334`): the entry section checks
both, and an elected producer finds the slot free because the election and
`pending_message` exclude each other. The consumer loop takes the message out
of the full slot (`mpsc.c:594-611`) and breaks only from a closed channel with
a free slot (`mpsc.c:590-594`). `mpsc_consumer_close`, `mpsc_producer_done`
and `mpsc_join` only close.
-/

namespace CMpsc

open Relation

/-- The one-place channel a state implements. -/
def Sys.buffer (s : Sys) : Buffer where
  sent := s.written.map Deposit.data
  taken := s.taken
  slot := if s.mpsc.pendingMessage then some (s.mpsc.buffer.take s.mpsc.n) else none
  closed := s.mpsc.closed
  finished := s.finalCalled

namespace Sys

@[simp] theorem setPc_buffer (s : Sys) (t : Tid) (p : Pc) : (s.setPc t p).buffer = s.buffer := rfl

@[simp] theorem unlock_buffer (s : Sys) : s.unlock.buffer = s.buffer := rfl

@[simp] theorem signal_buffer (s : Sys) (cv : Cv) : (s.signal cv).buffer = s.buffer := rfl

@[simp] theorem condWait_buffer (s : Sys) (t : Tid) (c : Call) :
    (s.condWait t c).buffer = s.buffer := rfl

@[simp] theorem elect_buffer (s : Sys) : s.elect.buffer = s.buffer := by
  rw [elect_eq]; rfl

@[simp] theorem signalWaiting_buffer (s : Sys) (k : Nat) : (s.signalWaiting k).buffer = s.buffer := by
  rw [signalWaiting_eq]; rfl

/-- A deposit sends its payload. -/
theorem deposit_buffer (s : Sys) (i : Nat) (data : Bytes) (ticket : Nat) (sub : Bool) :
    (s.deposit i data ticket sub).buffer =
      { s.buffer with sent := s.buffer.sent ++ [data], slot := some data } := by
  have h := deposit_buffer_take s i data ticket sub
  simp only [buffer, Buffer.mk.injEq]
  exact ⟨by simp [deposit], rfl, by simpa [deposit] using h, rfl, rfl⟩

end Sys

/-! ### Critical sections -/

section Sections

variable {s s' : Sys}

/-- A deposit into the free slot of an open channel is a send. -/
theorem Buffer.send_deposit {i ticket : Nat} {data : Bytes} {sub : Bool}
    (hc : s.mpsc.closed = false) (hp : s.mpsc.pendingMessage = false) :
    ReflGen Buffer.Step s.buffer (s.deposit i data ticket sub).buffer := by
  rw [Sys.deposit_buffer]
  exact .single (.send data hc (by simp [Sys.buffer, hp]))

theorem buffer_sendWaitLoop {i id ticket : Nat} {data : Bytes}
    (he : s.sendWaitLoop i data id ticket = .ok s')
    (hpn : s.mpsc.pendingMessage = true → s.mpsc.nextWaitingProducerId = -1) : ReflGen Buffer.Step s.buffer s'.buffer := by
  unfold Sys.sendWaitLoop at he
  split_ifs at he with h1 h2
  · cases he; exact .refl
  · cases he; exact .refl
  · -- elected: the slot is free, since a pending message excludes an election
    simp only [Bool.and_eq_true, Bool.not_eq_true', bne_iff_ne, ne_eq, not_and, not_not] at h1 h2
    have hc : s.mpsc.closed = false := by simpa using h2
    have hp : s.mpsc.pendingMessage = false := by
      cases hp : s.mpsc.pendingMessage
      · rfl
      · have := (h1 hc).symm.trans (hpn hp); omega
    cases hs : mpscShiftProducerWaitQueue s.mpsc with
    | error e => simp [hs, Except.map] at he
    | ok m =>
      simp only [hs, Except.map, Except.ok.injEq] at he
      subst he
      obtain ⟨-, rfl⟩ := shift_ok hs
      exact Buffer.send_deposit (s := { s with mpsc := _ }) hc hp

theorem buffer_sendEntry {i : Nat} {data : Bytes} (he : s.sendEntry i data = .ok s')
    (hpn : s.mpsc.pendingMessage = true → s.mpsc.nextWaitingProducerId = -1) : ReflGen Buffer.Step s.buffer s'.buffer := by
  rcases Sys.sendEntry_cases he with ⟨-, ⟨-, rfl⟩ | ⟨-, -, m, j, hsub, he⟩ | ⟨hc, hp, -, rfl⟩⟩
  · exact .refl
  · obtain ⟨-, -, -, rfl⟩ := subscribe_ok hsub
    have hs := buffer_sendWaitLoop he hpn
    exact hs
  · exact Buffer.send_deposit (s := { s with clock := _ }) hc hp

theorem buffer_consumerLoop {t : Tid} {ok : Bool} (hf : s.finalCalled = false)
    (he : s.consumerLoop t ok = .ok s') : ReflGen Buffer.Step s.buffer s'.buffer := by
  have hfull : s.mpsc.pendingMessage = true →
      s.buffer.slot = some (s.mpsc.buffer.take s.mpsc.n) := fun hp => by simp [Sys.buffer, hp]
  rcases Sys.consumerLoop_cases he with ⟨-, -, rfl⟩ | ⟨hp, hc, rfl⟩ | ⟨hp, -, -, -, rfl⟩ |
    ⟨hp, -, rfl⟩ | ⟨hp, -, rfl⟩
  · exact .refl
  · exact .single (.finish hc (by simp [Sys.buffer, hp]) hf)
  · exact .single (.take _ (hfull hp) hf)
  all_goals
    rw [Sys.elect_eq]
    exact .single (.take _ (hfull hp) hf)

theorem buffer_producerDone (i : Nat) : ReflGen Buffer.Step s.buffer (s.producerDone i).buffer := by
  dsimp only [Sys.producerDone]
  split_ifs
  · exact .single (.close _)
  · exact .refl
  · exact .refl

theorem buffer_runSection {t : Tid} {ok : Bool} {c : Call} (hl : Lifecycle s) (hq : QueueInv s)
    (hd : Delivery s) (hown : s.pc t = .owns c) (he : s.runSection t ok c = some (.ok s')) :
    ReflGen Buffer.Step s.buffer s'.buffer := by
  rcases Sys.runSection_cases he with ⟨i, data, rfl, rfl, hr⟩ | ⟨i, data, j, ticket, rfl, rfl, hr⟩ |
    ⟨i, rfl, rfl, hr⟩ | ⟨i, rfl, rfl, hr⟩ | ⟨caller, rfl, hr⟩ | ⟨caller, rfl, hr⟩ |
    ⟨rfl, hr⟩ | ⟨rfl, hr⟩ | ⟨rfl, hr⟩
  · exact buffer_sendEntry hr.symm hq.pending
  · exact buffer_sendWaitLoop hr.symm hq.pending
  · cases hr; exact .refl
  · cases hr; exact buffer_producerDone i
  · rcases Sys.registerProducer_cases hr.symm with ⟨-, rfl⟩ | ⟨-, -, rfl⟩ | ⟨-, -, -, rfl⟩ |
      ⟨-, -, -, -, rfl⟩ <;> exact .refl
  · cases hr
    dsimp only [Sys.consumerClose]
    rw [Sys.signalWaiting_eq]
    exact .single (.close _)
  · obtain rfl : t = .consumer := hl.runsOn_owns hown
    exact buffer_consumerLoop (hd.finalCalled_false hown nofun) hr.symm
  · rcases Sys.join_cases hr.symm with ⟨-, -, ⟨-, rfl⟩ | ⟨-, rfl⟩⟩
    exacts [.single (.close _), .refl]
  · cases hr; exact .single (.close _)

theorem buffer_step {e : Event} (hl : Lifecycle s) (hq : QueueInv s) (hd : Delivery s)
    (he : s.step e = some (.ok s')) : ReflGen Buffer.Step s.buffer s'.buffer := by
  cases e with
  | call t op => obtain ⟨-, -, -, -, -, rfl⟩ := Sys.step_call he; exact .refl
  | ret t => obtain ⟨-, -, -, -, -, rfl⟩ := Sys.step_ret he; exact .refl
  | acquire t => obtain ⟨-, -, -, rfl⟩ := Sys.step_acquire he; exact .refl
  | run t ok =>
    obtain ⟨c, hown, hr⟩ := Sys.step_run he
    exact buffer_runSection hl hq hd hown hr
  | joined t =>
    rcases Sys.step_joined he with ⟨-, -, rfl⟩ | ⟨-, -, -, -, -, -, rfl⟩ | ⟨-, -, -, rfl⟩ <;>
      exact .refl

end Sections

/-! ### Runs -/

section Runs

variable {s s' : Sys}

theorem reachable_step_buffer (h : Reachable s) {e : Event} (he : s.step e = some (.ok s')) :
    ReflGen Buffer.Step s.buffer s'.buffer :=
  buffer_step (reachable_lifecycle h) (reachable_queueInv h) (reachable_delivery h) he

theorem reachable_buffer (h : Reachable s) : Buffer.Reachable s.buffer := by
  induction h with
  | init => exact .refl
  | step e hr he ih => exact ih.trans (reachable_step_buffer hr he).to_reflTransGen

end Runs

/-- A run from a reachable state is a run of the one-place channel. -/
theorem buffer_run {s s' : Sys} (h : Reachable s) :
    ∀ {es : List Event}, s.run es = some s' → ReflTransGen Buffer.Step s.buffer s'.buffer
  | [], hr => by cases hr; exact .refl
  | e :: es, hr => by
    simp only [Sys.run] at hr
    split at hr
    · rename_i s₁ hs
      have hrun := buffer_run (h.step e hs) hr
      exact (reachable_step_buffer h hs).to_reflTransGen.trans hrun
    · cases hr

/-- Every reachable state of the channel is a reachable state of the one-place
channel, and every step of the channel is a step of the one-place channel or
leaves it alone: a send of its payload into the free slot of an open channel,
a take of the message in the slot before the final call, a closure, or the
final call on a closed channel with a free slot. -/
theorem channel_refines_buffer {s : Sys} (h : Reachable s) :
    Buffer.Reachable s.buffer ∧
    ∀ e s', s.step e = some (.ok s') → s'.buffer = s.buffer ∨ Buffer.Step s.buffer s'.buffer := by
  exact ⟨reachable_buffer h, fun e s' he =>
    Buffer.eq_or_step_of_reflGen (reachable_step_buffer h he)⟩

theorem channel_refines_buffer_after_election :
    ∃ s, noErrorHandlingChannel.run electionRun = some s ∧ Reachable s ∧
      s.buffer = ⟨[[7]], [[7]], none, false, false⟩ ∧ Buffer.Reachable s.buffer ∧
      ∀ e s', s.step e = some (.ok s') → s'.buffer = s.buffer ∨ Buffer.Step s.buffer s'.buffer := by
  have hr : Reachable noErrorHandlingChannel := .init _ _ _ _ rfl rfl
  have hs := @Reachable.run _ _ hr electionRun rfl
  exact ⟨_, rfl, hs, rfl, channel_refines_buffer hs⟩

/-- Once the channel is closed, no run writes the slot again; once the consumer
callback has been called with `closed = true`, every payload written has been
taken out of the slot and no run takes another. -/
theorem closed_channel_runs {s s' : Sys} (h : Reachable s) {es : List Event}
    (hr : s.run es = some s') :
    (s.mpsc.closed = true →
      s'.mpsc.closed = true ∧ s'.written.map Deposit.data = s.written.map Deposit.data) ∧
    (s.finalCalled = true →
      s'.finalCalled = true ∧ s'.taken = s.taken ∧ s'.written.map Deposit.data = s'.taken) := by
  have hb := Buffer.later_of_steps (buffer_run h hr)
  refine ⟨hb.closed, fun hf => ⟨(hb.finished hf).1, (hb.finished hf).2, ?_⟩⟩
  exact (reachable_buffer (h.run hr)).sent_eq_taken (hb.finished hf).1

/-- The producer then sends `[9]` into the closed channel. -/
def lateSendRun : List Event :=
  [.call (.producer 0) (.send [9]), .acquire (.producer 0), .run (.producer 0) true]

theorem closed_channel_runs_after_close :
    ∃ s s', noErrorHandlingChannel.run closeRun = some s ∧ s.run lateSendRun = some s' ∧
      s.mpsc.closed = true ∧ s'.pc (.producer 0) = .user .producerCallback (.send false) ∧
      (s'.mpsc.closed = true ∧ s'.written.map Deposit.data = s.written.map Deposit.data) := by
  have hr : Reachable noErrorHandlingChannel := .init _ _ _ _ rfl rfl
  have hs := @Reachable.run _ _ hr closeRun rfl
  exact ⟨_, _, rfl, rfl, rfl, rfl, (@closed_channel_runs _ _ hs lateSendRun rfl).1 rfl⟩

end CMpsc
