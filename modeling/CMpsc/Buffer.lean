import CMpsc.Channel
import Mathlib.Logic.Relation

/-!
# The one-place channel

What an `mpsc_t` is for, without threads, the mutex or the wait queue: a slot
that holds at most one message ("this library only allows sending one message
at the time", `mpsc.h:155-161`). A send puts its payload into the empty slot
of an open channel; the consumer takes the message out of the full slot; the
channel can be closed at any time and stays closed; the consumer finishes
(its callback is called with `closed = true`, `mpsc.h:107-109`) once the
channel is closed and the slot empty, and takes nothing afterwards. `sent`
and `taken` are the histories of the two ends.
-/

namespace CMpsc

/-- The state of a one-place channel. -/
structure Buffer where
  sent : List Bytes
  taken : List Bytes
  slot : Option Bytes
  closed : Bool
  finished : Bool
  deriving DecidableEq, Repr

namespace Buffer

/-- The channel as created: nothing sent, open, empty. -/
def empty : Buffer := ⟨[], [], none, false, false⟩

/-- One step of the channel. -/
inductive Step : Buffer → Buffer → Prop
  | send {b : Buffer} (msg : Bytes) : b.closed = false → b.slot = none →
      Step b { b with sent := b.sent ++ [msg], slot := some msg }
  | take {b : Buffer} (msg : Bytes) : b.slot = some msg → b.finished = false →
      Step b { b with taken := b.taken ++ [msg], slot := none }
  | close (b : Buffer) : Step b { b with closed := true }
  | finish {b : Buffer} : b.closed = true → b.slot = none → b.finished = false →
      Step b { b with finished := true }

/-- The states some sequence of steps reaches from `empty`. -/
def Reachable (b : Buffer) : Prop := Relation.ReflTransGen Step empty b

/-- A stutter or one step. -/
theorem eq_or_step_of_reflGen {b b' : Buffer} (h : Relation.ReflGen Step b b') :
    b' = b ∨ Step b b' := by
  cases h
  exacts [.inl rfl, .inr ‹_›]

/-! ### The invariant -/

/-- Every message sent has been taken or is in the slot, and a finished channel
is closed and empty. -/
structure Inv (b : Buffer) : Prop where
  sent_eq : b.sent = b.taken ++ b.slot.toList
  finished : b.finished = true → b.closed = true ∧ b.slot = none

section Inv

variable {b b' : Buffer}

theorem inv_empty : Inv empty := ⟨rfl, nofun⟩

theorem Inv.step (h : Inv b) (hs : Step b b') : Inv b' := by
  cases hs with
  | send msg hopen hempty =>
    refine ⟨by simp [h.sent_eq, hempty], fun hf => ?_⟩
    simp [(h.finished hf).1] at hopen
  | take msg hfull hrun => exact ⟨by simp [h.sent_eq, hfull], fun hf => by simp [hrun] at hf⟩
  | close => exact ⟨h.sent_eq, fun hf => ⟨rfl, (h.finished hf).2⟩⟩
  | finish hc he _ => exact ⟨h.sent_eq, fun _ => ⟨hc, he⟩⟩

theorem Reachable.inv (h : Reachable b) : Inv b := by
  induction h with
  | refl => exact inv_empty
  | tail _ hs ih => exact ih.step hs

/-- A finished channel has delivered everything sent. -/
theorem Reachable.sent_eq_taken (h : Reachable b) (hf : b.finished = true) : b.sent = b.taken := by
  rw [h.inv.sent_eq, (h.inv.finished hf).2, Option.toList_none, List.append_nil]

end Inv

/-! ### What no step undoes -/

/-- `b'` comes after `b`: the histories only grow, a closed channel stays
closed and is sent nothing more, and a finished channel has nothing more taken. -/
structure Later (b b' : Buffer) : Prop where
  sent : b.sent <+: b'.sent
  taken : b.taken <+: b'.taken
  closed : b.closed = true → b'.closed = true ∧ b'.sent = b.sent
  finished : b.finished = true → b'.finished = true ∧ b'.taken = b.taken

section Later

variable {b₁ b₂ b₃ : Buffer}

theorem Later.refl (b : Buffer) : Later b b :=
  ⟨List.prefix_refl _, List.prefix_refl _, fun h => ⟨h, rfl⟩, fun h => ⟨h, rfl⟩⟩

theorem Later.trans (h₁ : Later b₁ b₂) (h₂ : Later b₂ b₃) : Later b₁ b₃ where
  sent := h₁.sent.trans h₂.sent
  taken := h₁.taken.trans h₂.taken
  closed hc := ⟨(h₂.closed (h₁.closed hc).1).1, (h₂.closed (h₁.closed hc).1).2.trans (h₁.closed hc).2⟩
  finished hf :=
    ⟨(h₂.finished (h₁.finished hf).1).1, (h₂.finished (h₁.finished hf).1).2.trans (h₁.finished hf).2⟩

theorem Step.later (hs : Step b₁ b₂) : Later b₁ b₂ := by
  cases hs with
  | send msg hopen _ =>
    exact ⟨List.prefix_append _ _, List.prefix_refl _, fun hc => by simp [hopen] at hc,
      fun hf => ⟨hf, rfl⟩⟩
  | take msg _ hrun =>
    exact ⟨List.prefix_refl _, List.prefix_append _ _, fun hc => ⟨hc, rfl⟩,
      fun hf => by simp [hrun] at hf⟩
  | close => exact ⟨List.prefix_refl _, List.prefix_refl _, fun _ => ⟨rfl, rfl⟩, fun hf => ⟨hf, rfl⟩⟩
  | finish => exact ⟨List.prefix_refl _, List.prefix_refl _, fun hc => ⟨hc, rfl⟩, fun _ => ⟨rfl, rfl⟩⟩

theorem later_of_steps (h : Relation.ReflTransGen Step b₁ b₂) : Later b₁ b₂ := by
  induction h with
  | refl => exact Later.refl _
  | tail _ hs ih => exact ih.trans hs.later

end Later

end Buffer

end CMpsc
