import CMpsc.Channel
import Mathlib.Tactic.Basic

/-!
# Threads, the mutex and the condition variables

The state that the threads of one channel share: the `mpsc_s` record, the
owner of `mutex`, and for every thread where it is: in application code (a
producer task, the consumer callback, the error callback, the closing call
of the consumer callback, the creator's program), blocked on the mutex at
the start of a library call, inside a critical section, or blocked in
`pthread_cond_wait`. A thread blocked on a condition variable resumes only
after a signal on that variable, and a signal that finds no waiter is lost
(`my_condition_variable_signal`, `mpsc.c:669-680`).

The record also keeps ghost history, which the code does not store: every
write into the slot, every message taken out of it, every call of the
consumer callback and of the error callback, the producer threads that
registration started and that `mpsc_join` joined.
-/

namespace CMpsc

/-- The application code a thread runs between library calls. -/
inductive UserCode where
  | program
  | producerCallback
  | consumerCallback
  | consumerErrorCallback
  | consumerFinalCallback
  deriving DecidableEq, Repr

/-- The value the last library call returned to the application. -/
inductive Ret where
  | none
  | send (accepted : Bool)
  | ping (ok : Bool)
  | registerProducer (e : RegisterProducerError)
  deriving DecidableEq, Repr

/-- A library call in progress, named by the critical section it runs with the
mutex; `ticket` numbers the call's entry into the lock (ghost). -/
inductive Call where
  | send (data : Bytes)
  | sendWait (data : Bytes) (id ticket : Nat)
  | ping
  | registerProducer (caller : UserCode)
  | consumerClose (caller : UserCode)
  | producerDone
  | consumerLoop
  | join
  | joinClose
  deriving DecidableEq, Repr

/-- Where a thread is; `joinConsumer` and `joinProducers i` are in `mpsc_join`. -/
inductive Pc where
  | idle
  | user (code : UserCode) (last : Ret)
  | lock (c : Call)
  | owns (c : Call)
  | wait (c : Call)
  | joinConsumer
  | joinProducers (i : Nat)
  | exited
  deriving DecidableEq, Repr

/-- `condition_variable` and `producer_condition_variables[id]`. -/
inductive Cv where
  | main
  | producer (id : Nat)
  deriving DecidableEq, Repr

/-- The thread that can wait on a variable. -/
def Cv.waiter : Cv → Tid
  | .main => .consumer
  | .producer id => .producer id

/-- The variable a wait loop waits on. -/
def Call.cv : Call → Option Cv
  | .consumerLoop => some .main
  | .sendWait _ id _ => some (.producer id)
  | _ => none

/-- The thread is blocked in `pthread_cond_wait` on `cv`. -/
def Pc.waitsOn (cv : Cv) : Pc → Bool
  | .wait c => c.cv = some cv
  | _ => false

/-- A call of the consumer callback or of the consumer error callback. -/
inductive Invocation where
  | consumerCallback (data : Option Nat) (n : Nat) (bytes : Bytes) (closed : Bool)
  | consumerErrorCallback
  deriving DecidableEq, Repr

/-- A write into the slot by an accepted `mpsc_producer_send` (ghost). -/
structure Deposit where
  producer : Nat
  ticket : Nat
  subscribed : Bool
  data : Bytes
  deriving DecidableEq, Repr

/-- The shared state; `woken t`: a signal reached `t` in its current wait. The fields
from `clock` on are ghost; `heap` is the next block `malloc` hands the consumer. -/
structure Sys where
  mpsc : Mpsc
  owner : Option Tid
  pc : Tid → Pc
  woken : Tid → Bool
  clock : Nat
  written : List Deposit
  taken : List Bytes
  invocations : List Invocation
  heap : Nat
  closeCalled : Bool
  finalCalled : Bool
  registered : List Tid
  joinedThreads : List Tid

namespace Sys

@[simps]
def setPc (s : Sys) (t : Tid) (p : Pc) : Sys := { s with pc := Function.update s.pc t p }

/-- `my_mutex_set_lock_state(mutex, false)`. -/
@[simps]
def unlock (s : Sys) : Sys := { s with owner := none }

/-- `my_condition_variable_wait`: release the mutex and block on the call's variable. -/
@[simps]
def condWait (s : Sys) (t : Tid) (c : Call) : Sys :=
  { s with
    pc := Function.update s.pc t (.wait c)
    owner := none
    woken := Function.update s.woken t false }

/-- `my_condition_variable_signal`: wake the waiter on `cv`, if any; else the signal is lost. -/
@[simps]
def signal (s : Sys) (cv : Cv) : Sys :=
  { s with
    woken := if (s.pc cv.waiter).waitsOn cv then Function.update s.woken cv.waiter true
      else s.woken }

@[simp] theorem setPc_pc_eq (s : Sys) (t : Tid) (p : Pc) :
    (s.setPc t p).pc = Function.update s.pc t p := rfl

@[simp] theorem unlock_pc_eq (s : Sys) : s.unlock.pc = s.pc := rfl

@[simp] theorem signal_pc_eq (s : Sys) (cv : Cv) : (s.signal cv).pc = s.pc := rfl

@[simp] theorem condWait_pc_eq (s : Sys) (t : Tid) (c : Call) :
    (s.condWait t c).pc = Function.update s.pc t (.wait c) := rfl

end Sys

end CMpsc
