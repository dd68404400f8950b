import CMpsc.Sizes
import Mathlib.Data.List.Perm.Basic
import Mathlib.Data.List.Nodup

/-!
# Creating and destroying a channel

`mpsc_create` (`mpsc.c:111-182`) makes six `my_malloc` calls, initialises the
condition variable, the `n_max_producers` producer condition variables and the
mutex, and starts the consumer thread. At the first call that fails it hands
the half-built channel to `mpsc_handle_creation_failure` (`mpsc.c:446-531`),
which destroys what the failure type says was initialised, frees the non-NULL
blocks and returns `NULL` with `errno` set; `mpsc_destroy` (`mpsc.c:430-444`)
releases a complete channel. Each call goes through a wrapper (`mpsc.c:695-802`)
that reports a failure only for the codes it expects (`ENOMEM` for `malloc` and
`pthread_mutex_init`, `ENOMEM` or `EAGAIN` for `pthread_cond_init`, `EAGAIN` for
`pthread_create`) and aborts on any other. The `mpsc_t` block comes from
`malloc` and is not zeroed, so a pointer field holds an indeterminate value
until `mpsc_create` assigns it: the model records each field as unassigned,
`NULL` or allocated. A read through a `NULL` `self`, of an unassigned field, or
past the end of a block is undefined behaviour that ends the run; the byte count
of `producer_condition_variables` is computed in `size_t` (`Sizes`), so that
block can hold fewer than `n_max_producers` elements. All calls are made with
error handling enabled.
-/

namespace CMpsc

/-- The blocks `mpsc_create` allocates. -/
inductive Block where
  | self
  | buffer
  | producerThreadIds
  | producers
  | producerConditionVariables
  | producerWaitingIdsQueue
  deriving DecidableEq, Repr

/-- What `mpsc_create` acquires. -/
inductive Resource where
  | block (b : Block)
  | conditionVariable
  | producerConditionVariable (i : Nat)
  | mutex
  | consumerThread
  deriving DecidableEq, Repr

/-- The error codes the wrappers tell apart; `other` is any further code. -/
inductive Errno where
  | enomem
  | eagain
  | other
  deriving DecidableEq, Repr

/-- The value of a pointer field of `*self`. -/
inductive Ptr where
  | unassigned
  | null
  | allocated
  deriving DecidableEq, Repr

/-- `mpsc_handle_creation_failure_type_t` (`mpsc.c:52-58`). -/
inductive FailureType where
  | none
  | condVarInit
  | mutexInit
  | threadCreate
  deriving DecidableEq, Repr

/-- The calls of `mpsc_create` that can fail. -/
inductive CreateCall where
  | malloc (b : Block)
  | condVarInit
  | producerCondVarInit (i : Nat)
  | mutexInit
  | threadCreate
  deriving DecidableEq, Repr

/-- The codes for which the wrapper of a call reports a failure under error
handling; on any other it aborts. -/
def CreateCall.accepts : CreateCall → Errno → Bool
  | .malloc _, e | .mutexInit, e => e == .enomem
  | .condVarInit, e | .producerCondVarInit _, e => e == .enomem || e == .eagain
  | .threadCreate, e => e == .eagain

/-- The channel as far as `mpsc_create` has built it: whether `self` is non-NULL,
the pointer fields of `*self`, and what it has acquired, in order. -/
structure Partial where
  self : Bool
  field : Block → Ptr
  acquired : List Resource

/-- Undefined behaviour in `mpsc_create` or its failure handler. -/
inductive Undefined where
  | nullSelf
  | unassigned (b : Block)
  | outOfBounds (b : Block) (i : Nat)
  deriving DecidableEq, Repr

/-- How `mpsc_create` ends: it returns the channel; or `NULL` with `errno` after
the handler released `released`; or the process aborts; or undefined behaviour. -/
inductive CreateResult where
  | created (acquired : List Resource)
  | failed (errno : Errno) (acquired released : List Resource)
  | aborted (acquired : List Resource)
  | undefined (acquired : List Resource) (ub : Undefined)
  deriving DecidableEq, Repr

/-! ### `mpsc_handle_creation_failure` -/

/-- The arrays in the order the handler tests and frees them (lines 505-524). -/
def handlerFreeOrder : List Block :=
  [.producerConditionVariables, .producerWaitingIdsQueue, .producers, .producerThreadIds, .buffer]

/-- `if (self->field != NULL) my_free(self->field);` for each array, in order. -/
def freeFields (m : Partial) : List Block → Except Undefined (List Resource)
  | [] => .ok []
  | b :: bs =>
    match m.field b with
    | .unassigned => .error (.unassigned b)
    | .null => freeFields m bs
    | .allocated => (freeFields m bs).map (.block b :: ·)

/-- The `switch (type)` of lines 470-503. -/
def handlerDestroys (nMaxProducers : Nat) (type : FailureType) (index : Int) : List Resource :=
  match type with
  | .threadCreate =>
    .mutex :: .conditionVariable :: (List.range nMaxProducers).map .producerConditionVariable
  | .mutexInit => .conditionVariable :: (List.range nMaxProducers).map .producerConditionVariable
  | .condVarInit =>
    if index ≠ -1 then
      .conditionVariable :: (List.range index.toNat).map .producerConditionVariable
    else []
  | .none => []

/-- `mpsc_handle_creation_failure` (lines 446-531) on a channel with
`n_max_producers = nMaxProducers`: it aborts unless `errno` is `ENOMEM` or
`EAGAIN` (lines 454-468); only `type = NONE` comes with a `NULL` `self`, first
read at line 505. -/
def mpscHandleCreationFailure (nMaxProducers : Nat) (m : Partial) (type : FailureType)
    (index : Int) (errno : Errno) : CreateResult :=
  match errno with
  | .other => .aborted m.acquired
  | _ =>
    if !m.self then .undefined m.acquired .nullSelf
    else
      match freeFields m handlerFreeOrder with
      | .error u => .undefined m.acquired u
      | .ok frees =>
        .failed errno m.acquired (handlerDestroys nMaxProducers type index ++ frees ++ [.block .self])

/-! ### `mpsc_create` and `mpsc_destroy` -/

/-- Call `c` fails with `e` on the channel `m`: its wrapper aborts unless it
accepts `e`, and otherwise `mpsc_create` calls the handler. -/
def createFailure (nMaxProducers : Nat) (m : Partial) (c : CreateCall) (e : Errno)
    (type : FailureType) (index : Int) : CreateResult :=
  if c.accepts e then mpscHandleCreationFailure nMaxProducers m type index e
  else .aborted m.acquired

/-- `self->field = my_malloc(..)`: the block, or `NULL`. -/
def Partial.malloc (m : Partial) (b : Block) (ok : Bool) : Partial :=
  { m with
    field := Function.update m.field b (if ok then .allocated else .null)
    acquired := if ok then m.acquired ++ [.block b] else m.acquired }

/-- The array allocations of lines 125-151, in order. -/
def arrayOrder : List Block :=
  [.buffer, .producerThreadIds, .producers, .producerConditionVariables, .producerWaitingIdsQueue]

/-- The allocations of `arrays`, stopping at the first that fails. -/
def mallocArrays (nMaxProducers : Nat) (fails : CreateCall → Option Errno) :
    List Block → Partial → Except CreateResult Partial
  | [], m => .ok m
  | b :: bs, m =>
    match fails (.malloc b) with
    | some e => .error (createFailure nMaxProducers (m.malloc b false) (.malloc b) e .none (-1))
    | none => mallocArrays nMaxProducers fails bs (m.malloc b true)

/-- The producer condition variables the block of line 142 has room for. -/
def condVarRoom (nMaxProducers : Nat) : Nat :=
  PerProducerArray.producerConditionVariables.room nMaxProducers

/-- The loop of lines 165-171 over the indices `is`, in a block with room for
`room` condition variables, stopping at the first failure. -/
def initProducerCondVars (nMaxProducers : Nat) (fails : CreateCall → Option Errno) (room : Nat) :
    List Nat → Partial → Except CreateResult Partial
  | [], m => .ok m
  | i :: is, m =>
    if room ≤ i then .error (.undefined m.acquired (.outOfBounds .producerConditionVariables i))
    else
      match fails (.producerCondVarInit i) with
      | some e => .error (createFailure nMaxProducers m (.producerCondVarInit i) e .condVarInit i)
      | none => initProducerCondVars nMaxProducers fails room is
        { m with acquired := m.acquired ++ [.producerConditionVariable i] }

/-- `mpsc_create` (lines 111-182); `fails c` is the code call `c` fails with. -/
def mpscCreate (nMaxProducers : Nat) (fails : CreateCall → Option Errno) : CreateResult :=
  match fails (.malloc .self) with
  | some e => createFailure nMaxProducers ⟨false, fun _ => .unassigned, []⟩ (.malloc .self) e .none (-1)
  | none =>
    match mallocArrays nMaxProducers fails arrayOrder ⟨true, fun _ => .unassigned, [.block .self]⟩ with
    | .error r => r
    | .ok m =>
      match fails .condVarInit with
      | some e => createFailure nMaxProducers m .condVarInit e .condVarInit (-1)
      | none =>
        let m := { m with acquired := m.acquired ++ [.conditionVariable] }
        match initProducerCondVars nMaxProducers fails (condVarRoom nMaxProducers)
            (List.range nMaxProducers) m with
        | .error r => r
        | .ok m =>
          match fails .mutexInit with
          | some e => createFailure nMaxProducers m .mutexInit e .mutexInit (-1)
          | none =>
            let m := { m with acquired := m.acquired ++ [.mutex] }
            match fails .threadCreate with
            | some e => createFailure nMaxProducers m .threadCreate e .threadCreate (-1)
            | none => .created (m.acquired ++ [.consumerThread])

/-- Only call `c` fails, with `errno = e`. -/
def failsAt (c : CreateCall) (e : Errno) (c' : CreateCall) : Option Errno :=
  if c' = c then some e else none

/-- When the first `my_malloc` fails, `self` is `NULL` and the handler reads
`self->producer_condition_variables` through it (line 505). -/
theorem create_null_self (nMaxProducers : Nat) :
    mpscCreate nMaxProducers (failsAt (.malloc .self) .enomem) = .undefined [] .nullSelf := rfl

/-- When one of the next four `my_malloc` calls fails, the handler reads an
array field that `mpsc_create` has not assigned yet. -/
theorem create_unassigned_read (nMaxProducers : Nat) :
    mpscCreate nMaxProducers (failsAt (.malloc .buffer) .enomem) =
        .undefined [.block .self] (.unassigned .producerConditionVariables) ∧
      mpscCreate nMaxProducers (failsAt (.malloc .producerThreadIds) .enomem) =
        .undefined [.block .self, .block .buffer] (.unassigned .producerConditionVariables) ∧
      mpscCreate nMaxProducers (failsAt (.malloc .producers) .enomem) =
        .undefined [.block .self, .block .buffer, .block .producerThreadIds]
          (.unassigned .producerConditionVariables) ∧
      mpscCreate nMaxProducers (failsAt (.malloc .producerConditionVariables) .enomem) =
        .undefined [.block .self, .block .buffer, .block .producerThreadIds, .block .producers]
          (.unassigned .producerWaitingIdsQueue) :=
  ⟨rfl, rfl, rfl, rfl⟩

/-! ### Where each call leaves `mpsc_create` -/

/-- `*self` and the arrays, in the order `mpsc_create` allocates them. -/
def allocatedBlocks : List Resource :=
  [.block .self, .block .buffer, .block .producerThreadIds, .block .producers,
    .block .producerConditionVariables, .block .producerWaitingIdsQueue]

/-- The producer condition variables `0 .. k-1`. -/
def producerCondVars (k : Nat) : List Resource :=
  (List.range k).map .producerConditionVariable

/-- The channel once every array is allocated, having acquired `acquired`; `self`
is not a field of `*self`. -/
def Partial.assigned (acquired : List Resource) : Partial where
  self := true
  field b := if b = .self then .unassigned else .allocated
  acquired := acquired

section Stages

variable {fails : CreateCall → Option Errno} (n : Nat)

@[simp] theorem Partial.assigned_acquired (a b : List Resource) :
    { Partial.assigned a with acquired := b } = .assigned b := rfl

@[simp] theorem Partial.acquired_assigned (a : List Resource) : (Partial.assigned a).acquired = a :=
  rfl

theorem mallocArrays_ok (h : ∀ b, fails (.malloc b) = none) :
    mallocArrays n fails arrayOrder ⟨true, fun _ => .unassigned, [.block .self]⟩ =
      .ok (.assigned allocatedBlocks) := by
  simp only [arrayOrder, mallocArrays, h, Partial.malloc, if_true, Partial.assigned,
    Except.ok.injEq, Partial.mk.injEq, true_and]
  exact ⟨funext fun b => by cases b <;> rfl, rfl⟩

theorem initProducerCondVars_append {room : Nat} {rest : List Nat} :
    ∀ {pre : List Nat} {m : Partial}, (∀ j ∈ pre, j < room ∧ fails (.producerCondVarInit j) = none) →
      initProducerCondVars n fails room (pre ++ rest) m =
        initProducerCondVars n fails room rest
          { m with acquired := m.acquired ++ pre.map .producerConditionVariable }
  | [], m, _ => by simp
  | j :: pre, m, h => by
    obtain ⟨hj, hf⟩ := h j (List.mem_cons_self _ _)
    rw [List.cons_append, initProducerCondVars, if_neg (Nat.not_le.2 hj), hf,
      initProducerCondVars_append fun k hk => h k (List.mem_cons_of_mem _ hk)]
    simp

/-- The loop runs through the first `i` indices when they fit the block and succeed. -/
theorem initProducerCondVars_range {room i k : Nat} {m : Partial} (hi : i ≤ k)
    (h : ∀ j < i, j < room ∧ fails (.producerCondVarInit j) = none) :
    initProducerCondVars n fails room (List.range k) m =
      initProducerCondVars n fails room ((List.range (k - i)).map (i + ·))
        { m with acquired := m.acquired ++ producerCondVars i } := by
  obtain ⟨d, rfl⟩ : ∃ d, k = i + d := ⟨k - i, by omega⟩
  rw [List.range_add, initProducerCondVars_append n fun j hj => h j (List.mem_range.1 hj),
    Nat.add_sub_cancel_left]
  rfl

theorem range_map_cons {i k : Nat} (hi : i < k) :
    ∃ post, (List.range (k - i)).map (i + ·) = i :: post := by
  obtain ⟨d, hd⟩ : ∃ d, k - i = d + 1 := ⟨k - i - 1, by omega⟩
  rw [hd, List.range_succ_eq_map]
  exact ⟨_, rfl⟩

/-- When the block is too small, the loop initialises the condition variable one
past its end. -/
theorem create_wraps (hr : condVarRoom n < n) :
    mpscCreate n (fun _ => none) =
      .undefined (allocatedBlocks ++ .conditionVariable :: producerCondVars (condVarRoom n))
        (.outOfBounds .producerConditionVariables (condVarRoom n)) := by
  obtain ⟨post, hpost⟩ := range_map_cons hr
  have hloop := @initProducerCondVars_range (fun _ => none) n (condVarRoom n) (condVarRoom n) n
    (.assigned (allocatedBlocks ++ [.conditionVariable])) hr.le fun _ hj => ⟨hj, rfl⟩
  simp only [mpscCreate, @mallocArrays_ok (fun _ => none) n fun _ => rfl, Partial.acquired_assigned,
    Partial.assigned_acquired, hloop, hpost, initProducerCondVars, le_refl, if_true,
    List.append_assoc, List.singleton_append]

end Stages

/-! ### What a failure releases, and `mpsc_destroy` -/

section Release

/-- When `sizeof(pthread_cond_t) * n_max_producers` wraps, the block holds fewer
than `n_max_producers` condition variables, and with every call succeeding the
loop of lines 165-171 initialises the one past its end. -/
theorem create_writes_past_array (nMaxProducers : Nat)
    (hn : sizeModulus ≤ PerProducerArray.producerConditionVariables.elementSize * nMaxProducers) :
    condVarRoom nMaxProducers < nMaxProducers ∧
      mpscCreate nMaxProducers (fun _ => none) =
        .undefined (allocatedBlocks ++ .conditionVariable :: producerCondVars (condVarRoom nMaxProducers))
          (.outOfBounds .producerConditionVariables (condVarRoom nMaxProducers)) :=
  ⟨PerProducerArray.room_lt_of_wraps hn, create_wraps _ (PerProducerArray.room_lt_of_wraps hn)⟩

/-- With `n_max_producers = 2^61 + 1` the block has room for one condition
variable, and the loop initialises `producer_condition_variables[1]`. -/
theorem create_writes_past_array_at_wrap :
    sizeModulus ≤ PerProducerArray.producerConditionVariables.elementSize * (2 ^ 61 + 1) ∧
    condVarRoom (2 ^ 61 + 1) = 1 ∧
    mpscCreate (2 ^ 61 + 1) (fun _ => none) =
      .undefined (allocatedBlocks ++ [.conditionVariable, .producerConditionVariable 0])
        (.outOfBounds .producerConditionVariables 1) := by
  have hw : sizeModulus ≤ PerProducerArray.producerConditionVariables.elementSize * (2 ^ 61 + 1) := by
    decide
  have hr : condVarRoom (2 ^ 61 + 1) = 1 := rfl
  have h := (create_writes_past_array (2 ^ 61 + 1) hw).2
  rw [hr] at h
  exact ⟨hw, hr, h⟩

end Release

end CMpsc
