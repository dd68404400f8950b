import CMpsc.Sections

/-!
# The channel as a step relation

A step is one thread doing one thing: application code entering a library
call (it then waits for the mutex) or returning, a thread obtaining the
mutex (in `pthread_mutex_lock`, or when it leaves `pthread_cond_wait` after
a signal), a thread running the critical section it holds the mutex for,
or a `pthread_join` of `mpsc_join` returning. Steps of different threads
interleave in any order. The run starts in a state `mpsc_create`
(`mpsc.c:111-182`) returns: the consumer thread about to lock, no producer
registered, the slot, the producer records and the queue uninitialised.
-/

namespace CMpsc

/-- The library entry points an application calls. `mpsc_producer_send_empty`
is `send []` (line 348); the two `register_producer` aliases are
`registerProducer` (lines 265, 376). -/
inductive Op where
  | send (data : Bytes)
  | ping
  | registerProducer
  | consumerClose
  | join
  deriving DecidableEq, Repr

/-- The calls each kind of code can make: a producer task holds its producer
handle, the consumer callbacks the consumer handle, the creator the channel. -/
def UserCode.enter : UserCode → Op → Option Call
  | .producerCallback, .send data => some (.send data)
  | .producerCallback, .ping => some .ping
  | c, .registerProducer => some (.registerProducer c)
  | .consumerCallback, .consumerClose => some (.consumerClose .consumerCallback)
  | .consumerErrorCallback, .consumerClose => some (.consumerClose .consumerErrorCallback)
  | .consumerFinalCallback, .consumerClose => some (.consumerClose .consumerFinalCallback)
  | .program, .join => some .join
  | _, _ => none

/-- Where a thread goes when its code returns: a producer task to
`mpsc_producer_done` (line 567), the consumer callbacks back to the top of
the loop (lines 607, 622) or out of the thread (line 625). -/
def UserCode.leave : UserCode → Option Pc
  | .producerCallback => some (.lock .producerDone)
  | .consumerCallback => some (.lock .consumerLoop)
  | .consumerErrorCallback => some (.lock .consumerLoop)
  | .consumerFinalCallback => some .exited
  | .program => none

/-- One step of one thread; `ok` is the outcome of the `malloc` or
`pthread_create` of the critical section. -/
inductive Event where
  | call (t : Tid) (op : Op)
  | ret (t : Tid)
  | acquire (t : Tid)
  | run (t : Tid) (ok : Bool)
  | joined (t : Tid)
  deriving DecidableEq, Repr

namespace Sys

/-- `none`: the step is not enabled; `.error f`: the process aborts at `f`. -/
def step (s : Sys) : Event → Option (Except Fatal Sys)
  | .call t op => match s.pc t with
    | .user code _ => (code.enter op).map fun c => .ok (s.setPc t (.lock c))
    | _ => none
  | .ret t => match s.pc t with
    | .user code _ => code.leave.map fun p => .ok (s.setPc t p)
    | _ => none
  | .acquire t => match s.owner, s.pc t with
    | none, .lock c => some (.ok { s.setPc t (.owns c) with owner := some t })
    | none, .wait c =>
      if s.woken t then some (.ok { s.setPc t (.owns c) with owner := some t }) else none
    | _, _ => none
  | .run t ok => match s.pc t with
    | .owns c => s.runSection t ok c
    | _ => none
  | .joined t => match s.pc t with
    | .joinConsumer =>
      if s.pc .consumer = .exited then some (.ok (s.setPc t (.lock .joinClose))) else none
    | .joinProducers i =>
      if i < s.mpsc.producerCount then
        match s.mpsc.producerThreadIds i with
        | some u =>
          if s.pc u = .exited then
            some (.ok { s.setPc t (.joinProducers (i + 1)) with
              joinedThreads := s.joinedThreads ++ [u] })
          else none
        | none => none
      else some (.ok (s.setPc t .exited))
    | _ => none

/-- The state after a successful `mpsc_create` with parameters `p`; `buffer`,
`producers` and `queue` are the indeterminate contents of the blocks it
allocated. -/
def initial (p : CreateParams) (buffer : Bytes) (producers : Nat → Producer)
    (queue : Nat → Nat) : Sys where
  mpsc :=
    { bufferSize := p.bufferSize
      nMaxProducers := p.nMaxProducers
      buffer := buffer
      n := 0
      pendingMessage := false
      joined := false
      closed := false
      nProducersClosed := 0
      errorHandlingEnabled := p.errorHandlingEnabled
      createAndJoinThreadSafetyDisabled := p.createAndJoinThreadSafetyDisabled
      parentThreadId := .main
      nProducersWaiting := 0
      nextWaitingProducerId := -1
      producerThreadIds := fun _ => none
      producers := producers
      producerCount := 0
      producerWaitingIdsQueue := queue }
  owner := none
  woken := fun _ => false
  pc := fun
    | .main => .user .program .none
    | .consumer => .lock .consumerLoop
    | .producer _ => .idle
  clock := 0
  written := []
  taken := []
  invocations := []
  heap := 0
  closeCalled := false
  finalCalled := false
  registered := []
  joinedThreads := []

/-! ### What one step can do -/

section Inversion

variable {s s' : Sys} {t : Tid}

theorem step_call {op : Op} (h : s.step (.call t op) = some (.ok s')) :
    ∃ code last c, s.pc t = .user code last ∧ code.enter op = some c ∧
      s' = s.setPc t (.lock c) := by
  simp only [step] at h
  split at h
  · rename_i code last hpc
    obtain ⟨c, hc, he⟩ := Option.map_eq_some'.1 h
    cases he
    exact ⟨code, last, c, hpc, hc, rfl⟩
  · cases h

theorem step_ret (h : s.step (.ret t) = some (.ok s')) :
    ∃ code last p, s.pc t = .user code last ∧ code.leave = some p ∧ s' = s.setPc t p := by
  simp only [step] at h
  split at h
  · rename_i code last hpc
    obtain ⟨p, hp, he⟩ := Option.map_eq_some'.1 h
    cases he
    exact ⟨code, last, p, hpc, hp, rfl⟩
  · cases h

theorem step_acquire (h : s.step (.acquire t) = some (.ok s')) :
    ∃ c, s.owner = none ∧ (s.pc t = .lock c ∨ s.pc t = .wait c ∧ s.woken t) ∧
      s' = { s.setPc t (.owns c) with owner := some t } := by
  simp only [step] at h
  split at h
  · cases h; exact ⟨_, ‹_›, .inl ‹_›, rfl⟩
  · split at h
    · cases h; exact ⟨_, ‹_›, .inr ⟨‹_›, ‹_›⟩, rfl⟩
    · cases h
  · cases h

theorem step_run {ok : Bool} (h : s.step (.run t ok) = some (.ok s')) :
    ∃ c, s.pc t = .owns c ∧ s.runSection t ok c = some (.ok s') := by
  simp only [step] at h
  split at h
  · exact ⟨_, ‹_›, h⟩
  · cases h

theorem step_joined (h : s.step (.joined t) = some (.ok s')) :
    (s.pc t = .joinConsumer ∧ s.pc .consumer = .exited ∧ s' = s.setPc t (.lock .joinClose)) ∨
    (∃ i u, s.pc t = .joinProducers i ∧ i < s.mpsc.producerCount ∧
      s.mpsc.producerThreadIds i = some u ∧ s.pc u = .exited ∧
      s' = { s.setPc t (.joinProducers (i + 1)) with joinedThreads := s.joinedThreads ++ [u] }) ∨
    (∃ i, s.pc t = .joinProducers i ∧ s.mpsc.producerCount ≤ i ∧ s' = s.setPc t .exited) := by
  simp only [step] at h
  split at h
  · split at h
    · cases h; exact .inl ⟨‹_›, ‹_›, rfl⟩
    · cases h
  · rename_i i hpc
    split at h
    · split at h
      · split at h
        · cases h; exact .inr (.inl ⟨i, _, hpc, ‹_›, ‹_›, ‹_›, rfl⟩)
        · cases h
      · cases h
    · cases h; exact .inr (.inr ⟨i, hpc, by omega, rfl⟩)
  · cases h

/-- Only a critical section can abort. -/
theorem step_error {e : Event} {f : Fatal} (h : s.step e = some (.error f)) :
    ∃ t ok c, e = .run t ok ∧ s.pc t = .owns c ∧ s.runSection t ok c = some (.error f) := by
  cases e with
  | call t op =>
    simp only [step] at h; split at h
    · obtain ⟨c, -, he⟩ := Option.map_eq_some'.1 h; cases he
    · cases h
  | ret t =>
    simp only [step] at h; split at h
    · obtain ⟨c, -, he⟩ := Option.map_eq_some'.1 h; cases he
    · cases h
  | acquire t =>
    simp only [step] at h; split at h
    · cases h
    · split at h <;> cases h
    · cases h
  | run t ok =>
    simp only [step] at h; split at h
    · exact ⟨t, ok, _, rfl, ‹_›, h⟩
    · cases h
  | joined t =>
    simp only [step] at h; split at h
    · split at h <;> cases h
    · split at h
      · split at h
        · split at h <;> cases h
        · cases h
      · cases h
    · cases h

/-- The critical section a thread runs, by the call it holds the mutex for. -/
theorem runSection_cases {ok : Bool} {c : Call} {r : Except Fatal Sys}
    (h : s.runSection t ok c = some r) :
    (∃ i data, t = .producer i ∧ c = .send data ∧ r = s.sendEntry i data) ∨
    (∃ i data id ticket, t = .producer i ∧ c = .sendWait data id ticket ∧
      r = s.sendWaitLoop i data id ticket) ∨
    (∃ i, t = .producer i ∧ c = .ping ∧ r = .ok (s.producerPing i)) ∨
    (∃ i, t = .producer i ∧ c = .producerDone ∧ r = .ok (s.producerDone i)) ∨
    (∃ caller, c = .registerProducer caller ∧ r = s.registerProducer t caller ok) ∨
    (∃ caller, c = .consumerClose caller ∧ r = .ok (s.consumerClose t caller)) ∨
    (c = .consumerLoop ∧ r = s.consumerLoop t ok) ∨
    (c = .join ∧ r = s.join t) ∨
    (c = .joinClose ∧ r = .ok (s.joinClose t)) := by
  cases c <;> simp only [runSection, Option.some.injEq] at h <;> (try split at h) <;>
    (try cases h) <;> (simp; try exact ⟨_, _, _, ⟨rfl, rfl, rfl⟩, rfl⟩)

end Inversion

/-- Run a list of steps; `none` as soon as one is not enabled or aborts. -/
def run (s : Sys) : List Event → Option Sys
  | [] => some s
  | e :: es => match s.step e with
    | some (.ok s') => run s' es
    | _ => none

end Sys

/-- The states of a channel that some interleaving of steps reaches. -/
inductive Reachable : Sys → Prop
  | init (p : CreateParams) (buffer : Bytes) (producers : Nat → Producer) (queue : Nat → Nat) :
      mpscCreateParamsValidate p = .ok () → buffer.length = p.bufferSize →
      Reachable (Sys.initial p buffer producers queue)
  | step {s s' : Sys} (e : Event) : Reachable s → s.step e = some (.ok s') → Reachable s'

theorem Reachable.run {s s' : Sys} (h : Reachable s) :
    ∀ {es : List Event}, s.run es = some s' → Reachable s'
  | [], he => by cases he; exact h
  | e :: es, he => by
    simp only [Sys.run] at he
    split at he
    · exact Reachable.run (h.step e ‹_›) he
    · cases he

/-! ### Runs -/

/-- `mpsc_create` with a one-byte slot, two producer slots and error handling disabled. -/
def noErrorHandlingChannel : Sys :=
  Sys.initial ⟨1, 2, true, false, false, false⟩ [0] (fun _ => ⟨false⟩) (fun _ => 0)

/-- The creator registers two producers; producer 0 writes `[7]`; producer 1 finds
the slot busy and queues; the consumer takes `[7]` and elects producer 1. -/
def electionRun : List Event :=
  [.call .main .registerProducer, .acquire .main, .run .main true,
   .call .main .registerProducer, .acquire .main, .run .main true,
   .call (.producer 0) (.send [7]), .acquire (.producer 0), .run (.producer 0) true,
   .call (.producer 1) (.send [8]), .acquire (.producer 1), .run (.producer 1) true,
   .acquire .consumer, .run .consumer true]

/-- `mpsc_create` with a one-byte slot, two producer slots and error handling enabled. -/
def errorHandlingParams : CreateParams := ⟨1, 2, true, true, true, false⟩

def errorHandlingChannel : Sys :=
  Sys.initial errorHandlingParams [0] (fun _ => ⟨false⟩) (fun _ => 0)

/-- The creator registers one producer, which writes `[7]` and returns; the
consumer takes `[7]` and waits; `mpsc_join` closes the channel, since the
producer has finished, and waits; the consumer makes its closing call and
exits; `mpsc_join` joins the producer thread and returns. -/
def shutdownRun : List Event :=
  [.call .main .registerProducer, .acquire .main, .run .main true,
   .call (.producer 0) (.send [7]), .acquire (.producer 0), .run (.producer 0) true,
   .acquire .consumer, .run .consumer true,
   .ret (.producer 0), .acquire (.producer 0), .run (.producer 0) true,
   .ret .consumer, .acquire .consumer, .run .consumer true,
   .call .main .join, .acquire .main, .run .main true,
   .acquire .consumer, .run .consumer true, .ret .consumer,
   .joined .main, .acquire .main, .run .main true, .joined .main, .joined .main]

/-- The creator registers a producer, which writes `[7]`; the consumer takes it
and its callback closes the channel. -/
def closeRun : List Event :=
  [.call .main .registerProducer, .acquire .main, .run .main true,
   .call (.producer 0) (.send [7]), .acquire (.producer 0), .run (.producer 0) true,
   .acquire .consumer, .run .consumer true,
   .call .consumer .consumerClose, .acquire .consumer, .run .consumer true]

end CMpsc
