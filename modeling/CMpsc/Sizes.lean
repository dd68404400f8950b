import CMpsc.Channel
import Mathlib.Algebra.Group.Nat.Basic

/-!
# The byte counts of the per-producer arrays

`mpsc_create` allocates its four per-producer arrays with
`my_malloc(sizeof(T) * params.n_max_producers, ..)` (`mpsc.c:132, 137, 142,
147`). The product is computed in `size_t`, that is modulo `2^64` on an LP64
target, and `mpsc_create_params_validate` (`mpsc.c:533-561`) bounds
`n_max_producers` only from below. The element sizes are those of x86-64
Linux with glibc: `pthread_t` and `size_t` take 8 bytes, `pthread_cond_t` 48,
and `struct mpsc_producer_s` (`mpsc.c:71-77`: two pointers, a `bool` padded
to 8 bytes, a pointer) 32.
-/

namespace CMpsc

/-- `SIZE_MAX + 1` on an LP64 target. -/
def sizeModulus : Nat := 2 ^ 64

/-- Multiplication in `size_t`. -/
def sizeMul (a b : Nat) : Nat := a * b % sizeModulus

/-- The per-producer arrays of `struct mpsc_s`. -/
inductive PerProducerArray where
  | producerThreadIds
  | producers
  | producerConditionVariables
  | producerWaitingIdsQueue
  deriving DecidableEq, Repr

/-- `sizeof` of the element type of an array. -/
def PerProducerArray.elementSize : PerProducerArray → Nat
  | .producerThreadIds => 8
  | .producers => 32
  | .producerConditionVariables => 48
  | .producerWaitingIdsQueue => 8

/-- The byte count `mpsc_create` asks `my_malloc` for. -/
def PerProducerArray.bytes (a : PerProducerArray) (nMaxProducers : Nat) : Nat :=
  sizeMul a.elementSize nMaxProducers

/-- The number of elements a block of that many bytes holds. -/
def PerProducerArray.room (a : PerProducerArray) (nMaxProducers : Nat) : Nat :=
  a.bytes nMaxProducers / a.elementSize

theorem PerProducerArray.elementSize_pos (a : PerProducerArray) : 0 < a.elementSize := by
  cases a <;> decide

/-- The byte count is the exact product exactly when the product fits in `size_t`. -/
theorem PerProducerArray.bytes_eq_iff (a : PerProducerArray) (n : Nat) :
    a.bytes n = a.elementSize * n ↔ a.elementSize * n < sizeModulus := by
  unfold bytes sizeMul
  constructor
  · intro h
    rw [← h]
    exact Nat.mod_lt _ (by decide)
  · exact Nat.mod_eq_of_lt

/-- A block never holds more than `n_max_producers` elements. -/
theorem PerProducerArray.room_le (a : PerProducerArray) (n : Nat) : a.room n ≤ n :=
  Nat.div_le_of_le_mul (Nat.mod_le _ _)

theorem PerProducerArray.room_eq_of_fits {a : PerProducerArray} {n : Nat}
    (h : a.elementSize * n < sizeModulus) : a.room n = n := by
  rw [room, (a.bytes_eq_iff n).2 h, Nat.mul_div_cancel_left _ a.elementSize_pos]

theorem PerProducerArray.room_lt_of_wraps {a : PerProducerArray} {n : Nat}
    (h : sizeModulus ≤ a.elementSize * n) : a.room n < n := by
  have hb : a.bytes n < a.elementSize * n := lt_of_lt_of_le (Nat.mod_lt _ (by decide)) h
  exact (Nat.div_lt_iff_lt_mul a.elementSize_pos).2 (by rw [Nat.mul_comm]; exact hb)

/-- The block has room for at most `n_max_producers` elements, and for exactly
that many when the product fits in `size_t`; otherwise it holds fewer. -/
theorem PerProducerArray.room_eq_iff (a : PerProducerArray) (n : Nat) :
    a.room n ≤ n ∧ (a.room n = n ↔ a.elementSize * n < sizeModulus) := by
  refine ⟨a.room_le n, fun h => ?_, room_eq_of_fits⟩
  by_contra hlt
  exact absurd h (a.room_lt_of_wraps (Nat.le_of_not_lt hlt)).ne

/-- `n_max_producers = 2^61 + 1` passes validation and is below `SIZE_MAX`, but
every byte count wraps: the four blocks get 8, 32, 48 and 8 bytes, room for
one element each, and the loop of lines 165-171 initialises
`producer_condition_variables[i]` up to `i = 2^61`. -/
theorem array_bytes_wrap :
    mpscCreateParamsValidate ⟨1, 2 ^ 61 + 1, true, false, false, false⟩ = .ok () ∧
      2 ^ 61 + 1 < sizeModulus ∧
      [PerProducerArray.producerThreadIds, .producers, .producerConditionVariables,
        .producerWaitingIdsQueue].map (·.bytes (2 ^ 61 + 1)) = [8, 32, 48, 8] ∧
      [PerProducerArray.producerThreadIds, .producers, .producerConditionVariables,
        .producerWaitingIdsQueue].map (·.room (2 ^ 61 + 1)) = [1, 1, 1, 1] := by
  refine ⟨rfl, by decide, ?_, ?_⟩ <;> rfl

end CMpsc
