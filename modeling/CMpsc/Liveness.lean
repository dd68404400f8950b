import CMpsc.Progress
import CMpsc.Signalled
import Mathlib.Algebra.Order.BigOperators.Group.Finset

/-!
# `mpsc_join` can always return

While the consumer elects (error handling disabled, or its latest callback not
the error callback of a failed `my_malloc`), from every reachable state in which
a producer is registered and every call of `mpsc_producer_send` in progress fits
the slot, the shutdown ends: every callback returns at once, the creator's
program calls `mpsc_join`, and every `malloc` and `pthread_create` succeeds.
`Sys.work` counts the steps such a shutdown still takes, and every enabled step
lowers it: a thread that leaves `pthread_cond_wait` after a signal finds its
condition true (`Signalled`). No step aborts: a payload that does not fit
(`mpsc.c:297-303`) is excluded by the hypothesis, `mpsc_join` without a producer
(`mpsc.c:209-215`) by the registered producer, and its thread-safety and
double-call aborts (`mpsc.c:187-206`) because only the creator's program calls
it, once. So a run of at most `16 * n_max_producers + 29` shutdown steps reaches
a returned `mpsc_join` (`join_can_return`), and no run of shutdown steps is
longer (`shutdown_ends`). The bound counts the steps of `Sys.step`: each return
from `pthread_cond_wait` without a signal, which POSIX allows, adds two steps
that change nothing (`spurious_return_stutters`), and these are not counted.
-/

namespace CMpsc

/-! ### The work left -/

/-- The steps application code takes to leave its thread when it returns at once. -/
def UserCode.work (mx : Nat) : UserCode → Nat
  | .program => mx + 7
  | .producerCallback => 3
  | .consumerCallback | .consumerErrorCallback => 6
  | .consumerFinalCallback => 1

/-- The steps left once a thread holds the mutex for `c`; `g` is its wait condition. -/
def Call.work (mx : Nat) (g : Bool) : Call → Nat
  | .send _ => 11
  | .sendWait .. => if g then 9 else 11
  | .ping => 4
  | .registerProducer c | .consumerClose c => c.work mx + 1
  | .producerDone => 1
  | .consumerLoop => if g then 2 else 4
  | .join => mx + 5
  | .joinClose => mx + 2

/-- The steps left from `p`; a blocked thread is woken only when its condition holds. -/
def Pc.work (mx : Nat) (g : Call → Bool) : Pc → Nat
  | .idle | .exited => 0
  | .user c _ => c.work mx
  | .lock c => c.work mx false + 1
  | .owns c => c.work mx (g c)
  | .wait c => c.work mx true + 1
  | .joinConsumer => mx + 4
  | .joinProducers i => mx + 1 - i

/-- The threads of a channel with `mx` producer slots. -/
def threadSet (mx : Nat) : Finset Tid :=
  insert .main (insert .consumer ((Finset.range mx).image .producer))

def Sys.threadWork (s : Sys) (t : Tid) : Nat :=
  (s.pc t).work s.mpsc.nMaxProducers s.waitGuard

/-- The work left in a shutdown. -/
def Sys.work (s : Sys) : Nat :=
  (threadSet s.mpsc.nMaxProducers).sum s.threadWork + 5 * s.mpsc.pendingMessage.toNat +
    3 * (s.mpsc.nMaxProducers - s.mpsc.producerCount)

/-- A call of `mpsc_producer_send` before its size check has a payload that fits. -/
def Pc.sendFits (size : Nat) : Pc → Bool
  | .lock (.send data) | .owns (.send data) => decide (data.length ≤ size)
  | _ => true

/-- No registered producer is in a send that will abort on the size of its payload. -/
def Sys.SendsFit (s : Sys) : Prop :=
  ∀ i < s.mpsc.producerCount, (s.pc (.producer i)).sendFits s.mpsc.bufferSize = true

/-- A shutdown step lowers the work left and starts no send that does not fit. -/
structure Sys.Lowers (s s' : Sys) : Prop where
  work : s'.work < s.work
  fits : s.SendsFit → s'.SendsFit

/-! ### Frames -/

section Frames

variable {s s' : Sys}

/-- Changing a sum at one point. -/
theorem sum_add_eq {S : Finset Tid} {f g : Tid → Nat} {t : Tid} (ht : t ∈ S)
    (h : ∀ u ∈ S, u ≠ t → g u = f u) : S.sum g + f t = S.sum f + g t := by
  have hg : g t + (S.erase t).sum g = S.sum g := Finset.add_sum_erase S g ht
  have hf : f t + (S.erase t).sum f = S.sum f := Finset.add_sum_erase S f ht
  have he : (S.erase t).sum g = (S.erase t).sum f :=
    Finset.sum_congr rfl fun u hu => h u (Finset.mem_of_mem_erase hu) (Finset.ne_of_mem_erase hu)
  omega

theorem Lifecycle.mem_threads (hl : Lifecycle s) {t : Tid} (ht : s.pc t ≠ .idle) :
    t ∈ threadSet s.mpsc.nMaxProducers := by
  cases t with
  | producer i =>
    have hi : i < s.mpsc.producerCount := by
      by_contra hi
      exact ht (hl.idle i (by omega))
    simpa [threadSet] using Nat.lt_of_lt_of_le hi hl.count_le
  | _ => simp [threadSet]

/-- The only thread inside a critical section is the owner of the mutex. -/
theorem Lifecycle.sole_owner (hl : Lifecycle s) {t : Tid} {c : Call} (hown : s.pc t = .owns c)
    {u : Tid} {c' : Call} (hu : s.pc u = .owns c') : u = t :=
  Option.some.inj (((hl.owner_iff u).2 ⟨c', hu⟩).symm.trans ((hl.owner_iff t).2 ⟨c, hown⟩))

theorem threadWork_eq {u : Tid} (hpc : s'.pc u = s.pc u)
    (hmx : s'.mpsc.nMaxProducers = s.mpsc.nMaxProducers)
    (hg : (∀ c, s.pc u ≠ .owns c) ∨ s'.waitGuard = s.waitGuard) :
    s'.threadWork u = s.threadWork u := by
  unfold Sys.threadWork
  rw [hpc, hmx]
  rcases hg with hg | hg
  · cases hp : s.pc u <;> simp only [Pc.work]
    exact absurd hp (hg _)
  · rw [hg]

/-- One thread moves to `p` and lowers its work; the others keep theirs. -/
theorem Sys.lowers_of_move {t : Tid} {p : Pc} (ht : t ∈ threadSet s.mpsc.nMaxProducers)
    (hpc : s'.pc = Function.update s.pc t p)
    (hm : s'.mpsc.nMaxProducers = s.mpsc.nMaxProducers ∧
      s'.mpsc.producerCount = s.mpsc.producerCount ∧ s'.mpsc.bufferSize = s.mpsc.bufferSize)
    (hu : ∀ u, u ≠ t → s'.threadWork u = s.threadWork u)
    (hlt : s'.threadWork t + 5 * s'.mpsc.pendingMessage.toNat <
      s.threadWork t + 5 * s.mpsc.pendingMessage.toNat)
    (hfit : (s.pc t).sendFits s.mpsc.bufferSize = true → p.sendFits s.mpsc.bufferSize = true) :
    s.Lowers s' := by
  obtain ⟨hmx, hcount, hsize⟩ := hm
  refine ⟨?_, fun hf i hi => ?_⟩
  · have := sum_add_eq ht fun u _ hne => hu u hne
    unfold Sys.work
    rw [hmx, hcount]
    omega
  · rw [hpc, hsize]
    rw [hcount] at hi
    by_cases hit : Tid.producer i = t
    · subst hit
      rw [Function.update_same]
      exact hfit (hf i hi)
    · rw [Function.update_noteq hit]
      exact hf i hi

/-- A step outside the critical sections: one thread moves, the channel is unchanged. -/
theorem Sys.lowers_of_update {t : Tid} {p : Pc} (hl : Lifecycle s) (ht : s.pc t ≠ .idle)
    (hpc : s'.pc = Function.update s.pc t p) (hm : s'.mpsc = s.mpsc)
    (hlt : p.work s.mpsc.nMaxProducers s.waitGuard < (s.pc t).work s.mpsc.nMaxProducers s.waitGuard)
    (hfit : (s.pc t).sendFits s.mpsc.bufferSize = true → p.sendFits s.mpsc.bufferSize = true) :
    s.Lowers s' := by
  have hg := waitGuard_congr hm
  refine Sys.lowers_of_move (hl.mem_threads ht) hpc (by rw [hm]; exact ⟨rfl, rfl, rfl⟩)
    (fun u hu => threadWork_eq (by rw [hpc, Function.update_noteq hu]) (by rw [hm]) (.inr hg))
    ?_ hfit
  simp only [Sys.threadWork, hpc, Function.update_same, hm, hg]
  omega

/-- A critical section of `t` that leaves `t` at `p`, out of the mutex. -/
theorem Sys.lowers_of_section {t : Tid} {c : Call} {p : Pc} (hown : s.pc t = .owns c)
    (ht : t ∈ threadSet s.mpsc.nMaxProducers)
    (hsole : ∀ u c', s.pc u = .owns c' → u = t)
    (hpc : s'.pc = Function.update s.pc t p)
    (hm : s'.mpsc.nMaxProducers = s.mpsc.nMaxProducers ∧
      s'.mpsc.producerCount = s.mpsc.producerCount ∧ s'.mpsc.bufferSize = s.mpsc.bufferSize)
    (hfit : p.sendFits s.mpsc.bufferSize = true)
    (hlt : p.work s.mpsc.nMaxProducers s'.waitGuard + 5 * s'.mpsc.pendingMessage.toNat <
      c.work s.mpsc.nMaxProducers (s.waitGuard c) + 5 * s.mpsc.pendingMessage.toNat) :
    s.Lowers s' := by
  refine Sys.lowers_of_move ht hpc hm
    (fun u hu => threadWork_eq (by rw [hpc, Function.update_noteq hu]) hm.1
      (.inl fun c' hc' => hu (hsole u c' hc'))) ?_ fun _ => hfit
  simp only [Sys.threadWork, hpc, Function.update_same, hown, hm.1, Pc.work]
  exact hlt

theorem Sys.Lowers.congr {s₁ : Sys} (h : s₁.Lowers s') (hpc : s₁.pc = s.pc)
    (hm : s₁.mpsc.nMaxProducers = s.mpsc.nMaxProducers ∧
      s₁.mpsc.producerCount = s.mpsc.producerCount ∧ s₁.mpsc.bufferSize = s.mpsc.bufferSize ∧
      s₁.mpsc.pendingMessage = s.mpsc.pendingMessage ∧ s₁.waitGuard = s.waitGuard) :
    s.Lowers s' := by
  obtain ⟨hmx, hcount, hsize, hp, hg⟩ := hm
  have hw : s₁.work = s.work := by
    simp only [Sys.work, Sys.threadWork, hpc, hmx, hcount, hp, hg]
  exact ⟨h.work.trans_eq hw, fun hf => h.fits fun i hi => by
    rw [hpc, hsize]; exact hf i (hcount ▸ hi)⟩

end Frames

/-! ### A bound on the work left -/

section Bound

variable {mx : Nat}

theorem UserCode.work_le (c : UserCode) : c.work mx ≤ mx + 7 := by
  cases c <;> simp only [UserCode.work] <;> omega

theorem Call.work_le (g : Bool) (c : Call) : c.work mx g ≤ mx + 11 := by
  cases c with
  | registerProducer c | consumerClose c => have := @UserCode.work_le mx c; simp only [Call.work]; omega
  | _ => simp only [Call.work]; (try split) <;> omega

/-- Code outside the creator's thread has at most six steps left. -/
theorem UserCode.work_le_of_ne_main {c : UserCode} {t : Tid} (hk : c.runsOn t) (ht : t ≠ .main) :
    c.work mx ≤ 6 := by
  cases c <;> simp only [UserCode.work] <;> first | omega | exact absurd hk ht

theorem Call.work_le_of_ne_main {c : Call} {t : Tid} (hk : c.runsOn t) (ht : t ≠ .main)
    (g : Bool) : c.work mx g ≤ 11 := by
  cases c with
  | registerProducer c | consumerClose c =>
    have := @UserCode.work_le_of_ne_main mx _ _ hk ht
    simp only [Call.work]; omega
  | join | joinClose => exact absurd hk ht
  | _ => simp only [Call.work]; (try split) <;> omega

theorem Pc.work_le_of_ne_main {p : Pc} {t : Tid} (hk : p.runsOn t) (ht : t ≠ .main)
    (g : Call → Bool) : p.work mx g ≤ 12 := by
  cases p with
  | idle | exited => simp only [Pc.work]; omega
  | user c _ => have := @UserCode.work_le_of_ne_main mx _ _ hk ht; simp only [Pc.work]; omega
  | lock c | wait c =>
    have := @Call.work_le_of_ne_main mx _ _ hk ht
    simp only [Pc.work]; exact Nat.succ_le_succ (this _)
  | owns c => exact (Call.work_le_of_ne_main hk ht _).trans (by omega)
  | joinConsumer | joinProducers _ => exact absurd hk ht

theorem Pc.work_le (g : Call → Bool) (p : Pc) : p.work mx g ≤ mx + 12 := by
  cases p with
  | user c _ => have := @UserCode.work_le mx c; simp only [Pc.work]; omega
  | lock c | wait c => exact Nat.succ_le_succ (Call.work_le _ c)
  | owns c => exact (Call.work_le _ c).trans (by omega)
  | _ => simp only [Pc.work]; omega

/-- The work left is linear in the number of producer slots. -/
theorem Sys.work_le {s : Sys} (hl : Lifecycle s) : s.work ≤ 16 * s.mpsc.nMaxProducers + 29 := by
  set R := insert Tid.consumer ((Finset.range s.mpsc.nMaxProducers).image Tid.producer)
  have hsum : (threadSet s.mpsc.nMaxProducers).sum s.threadWork =
      s.threadWork .main + R.sum s.threadWork := Finset.sum_insert (by simp [R])
  have hmain : s.threadWork .main ≤ s.mpsc.nMaxProducers + 12 := Pc.work_le _ _
  have hR : R.sum s.threadWork ≤ R.card • 12 := Finset.sum_le_card_nsmul _ _ _ fun t ht =>
    Pc.work_le_of_ne_main (hl.kinds t) (by rintro rfl; simp [R] at ht) _
  have hcard : R.card ≤ s.mpsc.nMaxProducers + 1 := (Finset.card_insert_le _ _).trans
    (Nat.succ_le_succ (Finset.card_image_le.trans (Finset.card_range _).le))
  have hp : s.mpsc.pendingMessage.toNat ≤ 1 := Bool.toNat_le _
  rw [Nat.nsmul_eq_mul] at hR
  unfold Sys.work
  rw [hsum]
  omega

end Bound

/-! ### Every critical section lowers the work left -/

section Sections

variable {s s' : Sys}

/-- The election changes `next_waiting_producer_id` only. -/
theorem Sys.elect_mpsc (X : Sys) : X.elect.mpsc = { X.mpsc with
    nextWaitingProducerId := if X.mpsc.nProducersWaiting > 0 && !X.mpsc.closed then
      (X.mpsc.producerWaitingIdsQueue 0 : Int) else X.mpsc.nextWaitingProducerId } := by
  rw [Sys.elect_eq]

theorem lowers_sendWaitLoop {i j ticket : Nat} {data : Bytes} {c : Call}
    (he : s.sendWaitLoop i data j ticket = .ok s') (hown : s.pc (.producer i) = .owns c)
    (ht : .producer i ∈ threadSet s.mpsc.nMaxProducers)
    (hsole : ∀ u c', s.pc u = .owns c' → u = .producer i)
    (hc : c = .send data ∨ c = .sendWait data j ticket) : s.Lowers s' := by
  have hwork : (if s.waitGuard (.sendWait data j ticket) then 9 else 11) ≤
      c.work s.mpsc.nMaxProducers (s.waitGuard c) := by
    rcases hc with rfl | rfl <;> simp only [Call.work, le_refl]
    split <;> omega
  unfold Sys.sendWaitLoop at he
  split_ifs at he with h1 h2
  · -- back to `pthread_cond_wait`: the condition fails
    cases he
    have hg : s.waitGuard (.sendWait data j ticket) = false := by
      simp only [Bool.and_eq_true, Bool.not_eq_true', bne_iff_ne, ne_eq] at h1
      simp [Sys.waitGuard, h1.1, h1.2]
    refine Sys.lowers_of_section hown ht hsole rfl ⟨rfl, rfl, rfl⟩ rfl ?_
    simp only [hg, Bool.false_eq_true, if_false] at hwork
    generalize c.work _ _ = w at hwork ⊢
    simp only [Pc.work, Call.work, if_true, Sys.condWait_mpsc]
    omega
  · cases he
    have hg : s.waitGuard (.sendWait data j ticket) = true := by simp [Sys.waitGuard, h2]
    refine Sys.lowers_of_section hown ht hsole rfl ⟨rfl, rfl, rfl⟩ rfl ?_
    simp only [hg, if_true] at hwork
    generalize c.work _ _ = w at hwork ⊢
    simp only [Pc.work, UserCode.work, Sys.setPc_mpsc, Sys.unlock_mpsc]
    omega
  · -- elected: shift the queue and deposit
    cases hs : mpscShiftProducerWaitQueue s.mpsc with
    | error e => simp [hs, Except.map] at he
    | ok m =>
      simp only [hs, Except.map, Except.ok.injEq] at he
      subst he
      obtain ⟨-, rfl⟩ := shift_ok hs
      have hg : s.waitGuard (.sendWait data j ticket) = true := by
        simp only [Bool.and_eq_true, Bool.not_eq_true', bne_iff_ne, ne_eq, not_and, not_not] at h1
        simp only [Bool.not_eq_true] at h2
        simp [Sys.waitGuard, h1 h2]
      refine Sys.lowers_of_section hown ht hsole (deposit_pc _ _ _ _ _)
        (by simp [Sys.deposit]) rfl ?_
      simp only [hg, if_true] at hwork
      generalize c.work _ _ = w at hwork ⊢
      simp only [Pc.work, UserCode.work, Sys.deposit, Sys.setPc_mpsc, Sys.unlock_mpsc,
        Sys.signal_mpsc, Bool.toNat_true]
      omega

theorem lowers_sendEntry {i : Nat} {data : Bytes} (he : s.sendEntry i data = .ok s')
    (hown : s.pc (.producer i) = .owns (.send data))
    (ht : .producer i ∈ threadSet s.mpsc.nMaxProducers)
    (hsole : ∀ u c', s.pc u = .owns c' → u = .producer i) : s.Lowers s' := by
  rcases Sys.sendEntry_cases he with ⟨-, ⟨-, rfl⟩ | ⟨-, -, m, j, hsub, he⟩ | ⟨-, -, -, rfl⟩⟩
  · refine Sys.lowers_of_section hown ht hsole rfl ⟨rfl, rfl, rfl⟩ rfl ?_
    simp only [Pc.work, Call.work, UserCode.work, Sys.setPc_mpsc, Sys.unlock_mpsc]
    omega
  · -- the subscription touches the queue only
    obtain ⟨rfl, -, -, rfl⟩ := subscribe_ok hsub
    exact (lowers_sendWaitLoop he hown ht hsole (.inl rfl)).congr rfl ⟨rfl, rfl, rfl, rfl, rfl⟩
  · refine Sys.lowers_of_section hown ht hsole (deposit_pc _ _ _ _ _) (by simp [Sys.deposit]) rfl ?_
    simp only [Pc.work, Call.work, UserCode.work, Sys.deposit, Sys.setPc_mpsc, Sys.unlock_mpsc,
      Sys.signal_mpsc, Bool.toNat_true]
    omega

/-- An iteration of the consumer loop in which `my_malloc` succeeds. -/
theorem lowers_consumerLoop (he : s.consumerLoop .consumer true = .ok s')
    (hown : s.pc .consumer = .owns .consumerLoop) (ht : .consumer ∈ threadSet s.mpsc.nMaxProducers)
    (hsole : ∀ u c', s.pc u = .owns c' → u = .consumer) : s.Lowers s' := by
  rcases Sys.consumerLoop_cases he with ⟨hp, hc, rfl⟩ | ⟨hp, hc, rfl⟩ | ⟨-, -, hf, -⟩ |
    ⟨hp, -, rfl⟩ | ⟨hp, -, rfl⟩
  · refine Sys.lowers_of_section hown ht hsole rfl ⟨rfl, rfl, rfl⟩ rfl ?_
    simp [Pc.work, Call.work, Sys.waitGuard, hp, hc]
  · refine Sys.lowers_of_section hown ht hsole rfl ⟨rfl, rfl, rfl⟩ rfl ?_
    simp [Pc.work, Call.work, UserCode.work, Sys.waitGuard, hp, hc]
  · cases hf
  all_goals
    refine Sys.lowers_of_section (p := .user .consumerCallback .none) hown ht hsole (by simp)
      (by simp [Sys.elect_mpsc]) rfl ?_
    simp [Pc.work, Call.work, UserCode.work, Sys.waitGuard, hp, Sys.elect_mpsc]

/-- A new producer task fills a free slot, which the work left had counted. -/
theorem lowers_registerProducer {t : Tid} {caller : UserCode} (hl : Lifecycle s)
    (he : s.registerProducer t caller true = .ok s') (hown : s.pc t = .owns (.registerProducer caller))
    (ht : t ∈ threadSet s.mpsc.nMaxProducers) (hsole : ∀ u c', s.pc u = .owns c' → u = t) :
    s.Lowers s' := by
  rcases Sys.registerProducer_cases he with ⟨-, rfl⟩ | ⟨-, -, rfl⟩ | ⟨hmax, -, -, rfl⟩ |
    ⟨-, -, hf, -⟩
  · refine Sys.lowers_of_section hown ht hsole rfl ⟨rfl, rfl, rfl⟩ rfl ?_
    simp only [Pc.work, Call.work, Sys.setPc_mpsc, Sys.unlock_mpsc]
    omega
  · refine Sys.lowers_of_section hown ht hsole rfl ⟨rfl, rfl, rfl⟩ rfl ?_
    simp only [Pc.work, Call.work, Sys.setPc_mpsc, Sys.unlock_mpsc]
    omega
  swap; · cases hf
  -- the thread of slot `n` starts in its task; then `t` leaves the section
  set n := s.mpsc.producerCount
  have hn : n < s.mpsc.nMaxProducers := lt_of_le_of_ne hl.count_le (Ne.symm hmax)
  have hidle : s.pc (.producer n) = .idle := hl.idle n le_rfl
  have htn : t ≠ .producer n := by rintro rfl; rw [hidle] at hown; cases hown
  set Y := { s with
    mpsc := { s.mpsc with
      producers := Function.update s.mpsc.producers n ⟨false⟩
      producerThreadIds := Function.update s.mpsc.producerThreadIds n (some (.producer n))
      producerCount := n + 1 }
    registered := s.registered ++ [Tid.producer n] }.setPc (.producer n)
      (.user .producerCallback .none) with hY
  have hYpc : ∀ u, u ≠ .producer n → Y.pc u = s.pc u := fun u hu => Function.update_noteq hu _ _
  have hwork : Y.work = s.work := by
    have hsum := sum_add_eq (f := s.threadWork) (g := Y.threadWork)
      (by simpa [threadSet] using hn : Tid.producer n ∈ threadSet s.mpsc.nMaxProducers)
      fun u _ hu => threadWork_eq (hYpc u hu) rfl (.inr rfl)
    have hYn : Y.threadWork (.producer n) = 3 := by simp [hY, Sys.threadWork, Pc.work, UserCode.work]
    have hsn : s.threadWork (.producer n) = 0 := by simp [Sys.threadWork, hidle, Pc.work]
    have hYm : Y.mpsc.nMaxProducers = s.mpsc.nMaxProducers ∧ Y.mpsc.producerCount = n + 1 ∧
        Y.mpsc.pendingMessage = s.mpsc.pendingMessage := ⟨rfl, rfl, rfl⟩
    unfold Sys.work
    rw [hYm.1, hYm.2.1, hYm.2.2]
    omega
  have hfits : s.SendsFit → Y.SendsFit := fun hf i hi => by
    by_cases hin : i = n
    · subst hin; simp [hY, Pc.sendFits]
    · rw [hYpc _ (by simpa using hin)]
      exact hf i (by simp [hY] at hi; omega)
  have hlow : Y.Lowers (Y.unlock.setPc t (.user caller (.registerProducer .none))) := by
    refine Sys.lowers_of_section (hYpc t htn ▸ hown) (by simpa [hY] using ht)
      (fun u c' hu => hsole u c' ?_) rfl ⟨rfl, rfl, rfl⟩ rfl ?_
    · by_cases hun : u = .producer n
      · subst hun; simp [hY] at hu
      · rwa [hYpc u hun] at hu
    · simp only [Pc.work, Call.work, Sys.setPc_mpsc, Sys.unlock_mpsc]
      omega
  exact ⟨hwork ▸ hlow.work, fun hf => hlow.fits (hfits hf)⟩

theorem lowers_runSection {t : Tid} {c : Call} (hl : Lifecycle s) (hown : s.pc t = .owns c)
    (he : s.runSection t true c = some (.ok s')) : s.Lowers s' := by
  have ht := hl.mem_threads (by rw [hown]; nofun)
  have hsole : ∀ u c', s.pc u = .owns c' → u = t := fun _ _ hu => hl.sole_owner hown hu
  have hsec : ∀ {p : Pc}, s'.pc = Function.update s.pc t p →
      s'.mpsc.nMaxProducers = s.mpsc.nMaxProducers ∧ s'.mpsc.producerCount = s.mpsc.producerCount ∧
        s'.mpsc.bufferSize = s.mpsc.bufferSize → p.sendFits s.mpsc.bufferSize = true →
      p.work s.mpsc.nMaxProducers s'.waitGuard + 5 * s'.mpsc.pendingMessage.toNat <
        c.work s.mpsc.nMaxProducers (s.waitGuard c) + 5 * s.mpsc.pendingMessage.toNat →
      s.Lowers s' := fun hpc hm hfit hlt => Sys.lowers_of_section hown ht hsole hpc hm hfit hlt
  rcases Sys.runSection_cases he with ⟨i, data, rfl, rfl, hr⟩ | ⟨i, data, j, ticket, rfl, rfl, hr⟩ |
    ⟨i, rfl, rfl, hr⟩ | ⟨i, rfl, rfl, hr⟩ | ⟨caller, rfl, hr⟩ | ⟨caller, rfl, hr⟩ |
    ⟨rfl, hr⟩ | ⟨rfl, hr⟩ | ⟨rfl, hr⟩
  · exact lowers_sendEntry hr.symm hown ht hsole
  · exact lowers_sendWaitLoop hr.symm hown ht hsole (.inr rfl)
  · cases hr
    exact hsec rfl ⟨rfl, rfl, rfl⟩ rfl (by
      simp only [Sys.producerPing, Pc.work, Call.work, UserCode.work, Sys.setPc_mpsc, Sys.unlock_mpsc]
      omega)
  · cases hr
    have hm : (s.producerDone i).mpsc.nMaxProducers = s.mpsc.nMaxProducers ∧
        (s.producerDone i).mpsc.producerCount = s.mpsc.producerCount ∧
        (s.producerDone i).mpsc.bufferSize = s.mpsc.bufferSize ∧
        (s.producerDone i).mpsc.pendingMessage = s.mpsc.pendingMessage := by
      dsimp only [Sys.producerDone]; split_ifs <;> exact ⟨rfl, rfl, rfl, rfl⟩
    refine hsec (p := .exited) ?_ ⟨hm.1, hm.2.1, hm.2.2.1⟩ rfl ?_
    · dsimp only [Sys.producerDone]; split_ifs <;> rfl
    · simp only [Pc.work, Call.work, hm.2.2.2]
      omega
  · exact lowers_registerProducer hl hr.symm hown ht hsole
  · cases hr
    have hm : (s.consumerClose t caller).mpsc = { s.mpsc with closed := true } := by
      dsimp only [Sys.consumerClose]; rw [Sys.signalWaiting_eq]; rfl
    refine hsec (Sys.consumerClose_pc s t caller) (by rw [hm]; exact ⟨rfl, rfl, rfl⟩) rfl ?_
    simp only [Pc.work, Call.work, UserCode.work, hm]
    omega
  · obtain rfl : t = .consumer := hl.runsOn_owns hown
    exact lowers_consumerLoop hr.symm hown ht hsole
  · rcases Sys.join_cases hr.symm with ⟨-, -, ⟨-, rfl⟩ | ⟨-, rfl⟩⟩ <;>
      exact hsec rfl ⟨rfl, rfl, rfl⟩ rfl
        (by simp only [Pc.work, Call.work, Sys.setPc_mpsc, Sys.unlock_mpsc, Sys.signal_mpsc]; omega)
  · cases hr
    exact hsec rfl ⟨rfl, rfl, rfl⟩ rfl (by
      simp only [Sys.joinClose, Pc.work, Call.work, Sys.setPc_mpsc, Sys.unlock_mpsc]
      omega)

end Sections

/-! ### Every step of a shutdown lowers the work left -/

section Steps

variable {s s' : Sys}

theorem Call.work_le_false (mx : Nat) (g : Bool) (c : Call) : c.work mx g ≤ c.work mx false := by
  cases c <;> cases g <;> simp [Call.work]

/-- Only the creator's program runs in the creator's thread. -/
theorem UserCode.runsOn_main {c : UserCode} (h : c.runsOn .main) : c = .program := by
  cases c <;> first | rfl | obtain ⟨_, ⟨⟩⟩ := h

theorem lowers_step {e : Event} (hl : Lifecycle s) (hs : SignalInv s) (hd : e.Drain = true)
    (he : s.step e = some (.ok s')) : s.Lowers s' := by
  cases e with
  | call t op =>
    -- the creator's program calls `mpsc_join`
    obtain ⟨code, last, c, hpc, hc, rfl⟩ := Sys.step_call he
    simp only [Event.Drain, Bool.and_eq_true, beq_iff_eq] at hd
    obtain ⟨rfl, rfl⟩ := hd
    have hk := hl.kinds .main
    rw [hpc] at hk
    obtain rfl := UserCode.runsOn_main hk
    cases hc
    exact Sys.lowers_of_update hl (by rw [hpc]; nofun) rfl rfl
      (by simp [hpc, Pc.work, Call.work, UserCode.work]) fun _ => rfl
  | ret t =>
    obtain ⟨code, last, p, hpc, hp, rfl⟩ := Sys.step_ret he
    refine Sys.lowers_of_update hl (by rw [hpc]; nofun) rfl rfl ?_ fun _ => ?_ <;>
      cases code <;> cases hp
    all_goals first | rfl | simp [hpc, Pc.work, Call.work, UserCode.work]
  | acquire t =>
    obtain ⟨c, -, hc, rfl⟩ := Sys.step_acquire he
    rcases hc with hc | ⟨hc, hw⟩
    · refine Sys.lowers_of_update hl (by rw [hc]; nofun) rfl rfl ?_ ?_
      · rw [hc]
        exact Nat.lt_succ_of_le (Call.work_le_false _ _ _)
      · rw [hc]; cases c <;> exact id
    · -- woken from `pthread_cond_wait`: the condition holds
      have hg := hs t c hc hw
      refine Sys.lowers_of_update hl (by rw [hc]; nofun) rfl rfl ?_ fun _ => ?_
      · simp [hc, Pc.work, hg]
      · rcases Call.eq_of_cv (hl.waits t c hc) with rfl | ⟨_, _, _, rfl⟩ <;> rfl
  | run t ok =>
    obtain rfl : ok = true := hd
    obtain ⟨c, hown, hr⟩ := Sys.step_run he
    exact lowers_runSection hl hown hr
  | joined t =>
    rcases Sys.step_joined he with ⟨hpc, -, rfl⟩ | ⟨i, u, hpc, hi, -, -, rfl⟩ | ⟨i, hpc, hle, rfl⟩
    · exact Sys.lowers_of_update hl (by rw [hpc]; nofun) rfl rfl
        (by simp [hpc, Pc.work, Call.work]) fun _ => rfl
    · have := hl.count_le
      exact Sys.lowers_of_update hl (by rw [hpc]; nofun) rfl rfl
        (by simp only [hpc, Pc.work]; omega) fun _ => rfl
    · obtain rfl : t = .main := by have := hl.kinds t; rwa [hpc] at this
      have := (hl.join_loop i hpc).2
      have := hl.count_le
      exact Sys.lowers_of_update hl (by rw [hpc]; nofun) rfl rfl
        (by simp only [hpc, Pc.work]; omega) fun _ => rfl

end Steps

/-! ### No step of a shutdown aborts -/

section Aborts

variable {s s' : Sys}

/-- The wait loop of `mpsc_producer_send` writes the queue and the slot only. -/
theorem sendWaitLoop_keeps {i j ticket : Nat} {data : Bytes}
    (he : s.sendWaitLoop i data j ticket = .ok s') :
    s'.mpsc.errorHandlingEnabled = s.mpsc.errorHandlingEnabled ∧
      s'.mpsc.parentThreadId = s.mpsc.parentThreadId ∧ s'.mpsc.joined = s.mpsc.joined ∧
      s'.invocations = s.invocations := by
  unfold Sys.sendWaitLoop at he
  split_ifs at he
  · cases he; exact ⟨rfl, rfl, rfl, rfl⟩
  · cases he; exact ⟨rfl, rfl, rfl, rfl⟩
  · cases hs : mpscShiftProducerWaitQueue s.mpsc with
    | error e => simp [hs, Except.map] at he
    | ok m =>
      simp only [hs, Except.map, Except.ok.injEq] at he
      subst he
      obtain ⟨-, rfl⟩ := shift_ok hs
      simp [Sys.deposit]

theorem Sys.runSection_keeps {t : Tid} {ok : Bool} {c : Call}
    (he : s.runSection t ok c = some (.ok s')) :
    s'.mpsc.errorHandlingEnabled = s.mpsc.errorHandlingEnabled ∧
      s'.mpsc.parentThreadId = s.mpsc.parentThreadId ∧
      (c ≠ .join → s'.mpsc.joined = s.mpsc.joined) ∧
      (c ≠ .consumerLoop → s'.invocations = s.invocations) := by
  rcases Sys.runSection_cases he with ⟨i, data, rfl, rfl, hr⟩ | ⟨i, data, j, ticket, rfl, rfl, hr⟩ |
    ⟨i, rfl, rfl, hr⟩ | ⟨i, rfl, rfl, hr⟩ | ⟨caller, rfl, hr⟩ | ⟨caller, rfl, hr⟩ |
    ⟨rfl, hr⟩ | ⟨rfl, hr⟩ | ⟨rfl, hr⟩
  · rcases Sys.sendEntry_cases hr.symm with ⟨-, ⟨-, rfl⟩ | ⟨-, -, m, j, hsub, he⟩ | ⟨-, -, -, rfl⟩⟩
    · exact ⟨rfl, rfl, fun _ => rfl, fun _ => rfl⟩
    · obtain ⟨rfl, -, -, rfl⟩ := subscribe_ok hsub
      obtain ⟨h1, h2, h3, h4⟩ := sendWaitLoop_keeps he
      exact ⟨h1, h2, fun _ => h3, fun _ => h4⟩
    · simp [Sys.deposit]
  · obtain ⟨h1, h2, h3, h4⟩ := sendWaitLoop_keeps hr.symm
    exact ⟨h1, h2, fun _ => h3, fun _ => h4⟩
  · cases hr; exact ⟨rfl, rfl, fun _ => rfl, fun _ => rfl⟩
  · cases hr
    dsimp only [Sys.producerDone]
    split_ifs <;> exact ⟨rfl, rfl, fun _ => rfl, fun _ => rfl⟩
  · rcases Sys.registerProducer_cases hr.symm with ⟨-, rfl⟩ | ⟨-, -, rfl⟩ | ⟨-, -, -, rfl⟩ |
      ⟨-, -, -, -, rfl⟩ <;> exact ⟨rfl, rfl, fun _ => rfl, fun _ => rfl⟩
  · cases hr
    dsimp only [Sys.consumerClose]
    rw [Sys.signalWaiting_eq]
    exact ⟨rfl, rfl, fun _ => rfl, fun _ => rfl⟩
  · rcases Sys.consumerLoop_cases hr.symm with ⟨-, -, rfl⟩ | ⟨-, -, rfl⟩ | ⟨-, -, -, -, rfl⟩ |
      ⟨-, -, rfl⟩ | ⟨-, -, rfl⟩ <;> simp [Sys.elect_mpsc]
  · rcases Sys.join_cases hr.symm with ⟨-, -, ⟨-, rfl⟩ | ⟨-, rfl⟩⟩ <;>
      exact ⟨rfl, rfl, fun h => absurd rfl h, fun _ => rfl⟩
  · cases hr; exact ⟨rfl, rfl, fun _ => rfl, fun _ => rfl⟩

theorem Sys.step_keeps {e : Event} (he : s.step e = some (.ok s')) :
    s'.mpsc.errorHandlingEnabled = s.mpsc.errorHandlingEnabled ∧
      s'.mpsc.parentThreadId = s.mpsc.parentThreadId := by
  cases e with
  | call t op => obtain ⟨-, -, -, -, -, rfl⟩ := Sys.step_call he; exact ⟨rfl, rfl⟩
  | ret t => obtain ⟨-, -, -, -, -, rfl⟩ := Sys.step_ret he; exact ⟨rfl, rfl⟩
  | acquire t => obtain ⟨-, -, -, rfl⟩ := Sys.step_acquire he; exact ⟨rfl, rfl⟩
  | run t ok =>
    obtain ⟨c, -, hr⟩ := Sys.step_run he
    exact ⟨(Sys.runSection_keeps hr).1, (Sys.runSection_keeps hr).2.1⟩
  | joined t =>
    rcases Sys.step_joined he with ⟨-, -, rfl⟩ | ⟨-, -, -, -, -, -, rfl⟩ | ⟨-, -, -, rfl⟩ <;>
      exact ⟨rfl, rfl⟩

/-- Only the creator's program calls `mpsc_join`, in the thread that created the channel. -/
structure JoinGuard (s : Sys) : Prop where
  parent : s.mpsc.parentThreadId = .main
  joined : s.mpsc.joined = true → (s.pc .main).joining = true

theorem joinGuard_step {e : Event} (hl : Lifecycle s) (h : JoinGuard s)
    (he : s.step e = some (.ok s')) : JoinGuard s' := by
  refine ⟨(Sys.step_keeps he).2.trans h.parent, fun hj => ?_⟩
  -- `main` did not move
  have hstay : ∀ {t : Tid} {p : Pc}, s'.pc = Function.update s.pc t p → t ≠ .main →
      s'.mpsc.joined = s.mpsc.joined → (s'.pc .main).joining = true := fun hpc htm hjs => by
    rw [hpc, Function.update_noteq (Ne.symm htm)]
    exact h.joined (hjs ▸ hj)
  cases e with
  | call t op =>
    obtain ⟨code, last, c, hpc, -, rfl⟩ := Sys.step_call he
    by_cases htm : t = .main
    · subst htm
      have := h.joined hj
      rw [hpc] at this
      cases this
    · exact hstay rfl htm rfl
  | ret t =>
    obtain ⟨code, last, p, hpc, hp, rfl⟩ := Sys.step_ret he
    by_cases htm : t = .main
    · -- the creator's program does not return
      subst htm
      have hk := hl.kinds .main
      rw [hpc] at hk
      obtain rfl := UserCode.runsOn_main hk
      cases hp
    · exact hstay rfl htm rfl
  | acquire t =>
    obtain ⟨c, -, hc, rfl⟩ := Sys.step_acquire he
    by_cases htm : t = .main
    · subst htm
      have hjm := h.joined hj
      simp only [Sys.setPc_pc_eq, Function.update_same]
      rcases hc with hc | ⟨hc, -⟩ <;> rw [hc] at hjm
      · rwa [(Pc.owns_lock c).1]
      · cases hjm
    · exact hstay rfl htm rfl
  | run t ok =>
    obtain ⟨c, hown, hr⟩ := Sys.step_run he
    by_cases hc : c = .join
    · subst hc
      obtain rfl := hl.main_of_owns_join hown (.inl rfl)
      rcases Sys.runSection_cases hr with ⟨_, _, -, ⟨⟩, -⟩ | ⟨_, _, _, _, -, ⟨⟩, -⟩ | ⟨_, -, ⟨⟩, -⟩ |
        ⟨_, -, ⟨⟩, -⟩ | ⟨_, ⟨⟩, -⟩ | ⟨_, ⟨⟩, -⟩ | ⟨⟨⟩, -⟩ | ⟨-, hx⟩ | ⟨⟨⟩, -⟩
      rcases Sys.join_cases hx.symm with ⟨-, -, ⟨-, rfl⟩ | ⟨-, rfl⟩⟩ <;> rfl
    have hjs := (Sys.runSection_keeps hr).2.2.1 hc
    by_cases htm : t = .main
    · -- `main` holds the mutex in the second section of `mpsc_join`
      subst htm
      have hjm := h.joined (hjs ▸ hj)
      rw [hown] at hjm
      obtain rfl : c = .joinClose := by cases c <;> first | rfl | cases hjm
      simp only [Sys.runSection, Option.some.injEq, Except.ok.injEq] at hr
      subst hr
      rfl
    · rcases (moves_runSection hl hown hr).others .main (Ne.symm htm) with hm | hm
      · rw [hm]; exact h.joined (hjs ▸ hj)
      · have := hl.kinds .main; rw [hm] at this; obtain ⟨_, ⟨⟩⟩ := this
  | joined t =>
    rcases Sys.step_joined he with ⟨hpc, -, rfl⟩ | ⟨i, u, hpc, -, -, -, rfl⟩ | ⟨i, hpc, -, rfl⟩ <;>
      · by_cases htm : t = .main
        · subst htm; simp [Pc.joining]
        · exact hstay rfl htm rfl

theorem reachable_joinGuard {s : Sys} (h : Reachable s) : JoinGuard s := by
  induction h with
  | init p buffer producers queue => exact ⟨rfl, nofun⟩
  | step e hr he ih => exact joinGuard_step (reachable_lifecycle hr) ih he

/-- With `pthread_create` succeeding, `mpsc_register_producer` does not abort. -/
theorem registerProducer_ne_error {t : Tid} {caller : UserCode} {f : Fatal} :
    s.registerProducer t caller true ≠ .error f := by
  simp only [Sys.registerProducer, if_pos]
  split <;> [nofun; split <;> nofun]

/-- With `my_malloc` succeeding, an iteration of the consumer loop does not abort. -/
theorem consumerLoop_ne_error {t : Tid} {f : Fatal} : s.consumerLoop t true ≠ .error f := by
  simp only [Sys.consumerLoop, Bool.not_true, Bool.and_false, Bool.false_eq_true, if_false]
  split <;> [nofun; split <;> nofun]

theorem join_ne_error {f : Fatal} (hp : s.mpsc.parentThreadId = .main)
    (hj : s.mpsc.joined = false) (hc : s.mpsc.producerCount ≠ 0) : s.join .main ≠ .error f := by
  simp only [Sys.join, hp, hj, hc, ne_eq, not_true_eq_false, and_false, if_false,
    Bool.false_eq_true]
  split <;> nofun

/-- Once a producer is registered and every send in progress fits, no shutdown step aborts. -/
theorem Sys.drain_ok {e : Event} {r : Except Fatal Sys} (h : Reachable s)
    (hp : 0 < s.mpsc.producerCount) (hf : s.SendsFit) (hd : e.Drain = true)
    (he : s.step e = some r) : ∃ s', r = .ok s' := by
  cases r with
  | ok s' => exact ⟨s', rfl⟩
  | error f =>
    exfalso
    obtain ⟨t, ok, c, rfl, hown, hr⟩ := Sys.step_error he
    obtain rfl : ok = true := hd
    have hl := reachable_lifecycle h
    have hq := reachable_queueInv h
    rcases Sys.runSection_cases hr with ⟨i, data, rfl, rfl, hx⟩ | ⟨i, data, j, ticket, rfl, rfl, hx⟩ |
      ⟨i, rfl, rfl, hx⟩ | ⟨i, rfl, rfl, hx⟩ | ⟨caller, rfl, hx⟩ | ⟨caller, rfl, hx⟩ |
      ⟨rfl, hx⟩ | ⟨rfl, hx⟩ | ⟨rfl, hx⟩
    · -- a payload larger than the slot, which `hf` excludes
      have hlt := (hq.sendEntry_error hl hown hx.symm).2
      have hfit := hf i (hl.running hown).1
      rw [hown] at hfit
      simp [Pc.sendFits] at hfit
      omega
    · exact sendWaitLoop_ne_error (hq.next.imp_right And.left) hx.symm
    · cases hx
    · cases hx
    · exact registerProducer_ne_error hx.symm
    · cases hx
    · exact consumerLoop_ne_error hx.symm
    · -- `mpsc_join` runs in `main`, on a channel not joined yet, with a producer
      obtain rfl := hl.main_of_owns_join hown (.inl rfl)
      have hg := reachable_joinGuard h
      have hj : s.mpsc.joined = false := by
        cases hj : s.mpsc.joined
        · rfl
        · have := hg.joined hj; rw [hown] at this; cases this
      exact join_ne_error hg.parent hj hp.ne' hx.symm
    · cases hx

/-- A shutdown step logs no failed allocation. -/
theorem Sys.drain_keeps_log {e : Event} (hd : e.Drain = true) (he : s.step e = some (.ok s'))
    (hi : s.invocations.getLast? ≠ some .consumerErrorCallback) :
    s'.invocations.getLast? ≠ some .consumerErrorCallback := by
  cases e with
  | call t op => obtain ⟨-, -, -, -, -, rfl⟩ := Sys.step_call he; exact hi
  | ret t => obtain ⟨-, -, -, -, -, rfl⟩ := Sys.step_ret he; exact hi
  | acquire t => obtain ⟨-, -, -, rfl⟩ := Sys.step_acquire he; exact hi
  | joined t =>
    rcases Sys.step_joined he with ⟨-, -, rfl⟩ | ⟨-, -, -, -, -, -, rfl⟩ | ⟨-, -, -, rfl⟩ <;> exact hi
  | run t ok =>
    obtain rfl : ok = true := hd
    obtain ⟨c, -, hr⟩ := Sys.step_run he
    by_cases hc : c = .consumerLoop
    · -- a wait, or a callback that is not the error callback of a failed `my_malloc`
      subst hc
      rcases Sys.runSection_cases hr with ⟨_, _, -, ⟨⟩, -⟩ | ⟨_, _, _, _, -, ⟨⟩, -⟩ | ⟨_, -, ⟨⟩, -⟩ |
        ⟨_, -, ⟨⟩, -⟩ | ⟨_, ⟨⟩, -⟩ | ⟨_, ⟨⟩, -⟩ | ⟨-, hx⟩ | ⟨⟨⟩, -⟩ | ⟨⟨⟩, -⟩
      rcases Sys.consumerLoop_cases hx.symm with ⟨-, -, rfl⟩ | ⟨-, -, rfl⟩ | ⟨-, -, ⟨⟩, -⟩ |
        ⟨-, -, rfl⟩ | ⟨-, -, rfl⟩
      · exact hi
      all_goals simp
    · rw [(Sys.runSection_keeps hr).2.2.2 hc]
      exact hi

theorem Sys.Electing.drain {e : Event} (h : s.Electing) (hd : e.Drain = true)
    (he : s.step e = some (.ok s')) : s'.Electing :=
  h.imp ((Sys.step_keeps he).1.trans) (Sys.drain_keeps_log hd he)

end Aborts

/-! ### The creator's `mpsc_join` can always return -/

/-- Some run of shutdown steps, no longer than the work left, reaches a returned `mpsc_join`. -/
theorem Sys.exit_within_work {s : Sys} (h : Reachable s) (he : s.Electing)
    (hp : 0 < s.mpsc.producerCount) (hf : s.SendsFit) :
    ∃ es s', (∀ e ∈ es, e.Drain = true) ∧ es.length ≤ s.work ∧ s.run es = some s' ∧
      s'.pc .main = .exited := by
  generalize hw : s.work = n
  induction n using Nat.strong_induction_on generalizing s with
  | _ n ih =>
    by_cases hm : s.pc .main = .exited
    · exact ⟨[], s, nofun, Nat.zero_le _, rfl, hm⟩
    obtain ⟨e, hd, hne⟩ : ∃ e : Event, e.Drain = true ∧ s.step e ≠ none := by
      by_contra hall
      push_neg at hall
      exact hm (Sys.Parked.main_exited hall h he)
    obtain ⟨r, hr⟩ := Option.ne_none_iff_exists'.1 hne
    obtain ⟨s', rfl⟩ := Sys.drain_ok h hp hf hd hr
    have hl := reachable_lifecycle h
    have hlow := lowers_step hl (reachable_signalInv h) hd hr
    obtain ⟨es, s'', hds, hlen, hrun, hx⟩ := ih _ (hw ▸ hlow.work) (h.step e hr) (he.drain hd hr)
      (Nat.lt_of_lt_of_le hp (lifecycle_step hl hr).2.count_le) (hlow.fits hf) rfl
    have := hlow.work
    refine ⟨e :: es, s'', List.forall_mem_cons.2 ⟨hd, hds⟩, ?_, by simp only [Sys.run, hr, hrun], hx⟩
    simp only [List.length_cons]
    omega

/-- While the consumer elects, once a producer is registered and no send in
progress is larger than the slot, a run of at most `16 * n_max_producers + 29`
shutdown steps lets `mpsc_join` return. -/
theorem Sys.drain_to_exit {s : Sys} (h : Reachable s) (he : s.Electing)
    (hp : 0 < s.mpsc.producerCount) (hf : s.SendsFit) :
    ∃ es s', (∀ e ∈ es, e.Drain = true) ∧ es.length ≤ 16 * s.mpsc.nMaxProducers + 29 ∧
      s.run es = some s' ∧ s'.pc .main = .exited := by
  obtain ⟨es, s', hd, hlen, hr, hx⟩ := Sys.exit_within_work h he hp hf
  exact ⟨es, s', hd, hlen.trans (Sys.work_le (reachable_lifecycle h)), hr, hx⟩

/-- Along a run of shutdown steps the hypotheses persist and each step lowers the work left. -/
theorem Sys.drain_run {s s' : Sys} {es : List Event} (h : Reachable s) (he : s.Electing)
    (hp : 0 < s.mpsc.producerCount) (hf : s.SendsFit) (hd : ∀ e ∈ es, e.Drain = true)
    (hr : s.run es = some s') :
    Reachable s' ∧ s'.Electing ∧ 0 < s'.mpsc.producerCount ∧ s'.SendsFit ∧
      es.length + s'.work ≤ s.work := by
  induction es generalizing s with
  | nil => cases hr; exact ⟨h, he, hp, hf, by simp⟩
  | cons e es ih =>
    simp only [Sys.run] at hr
    split at hr
    · rename_i s₁ hs
      have hd₁ := hd e (List.mem_cons_self _ _)
      have hl := reachable_lifecycle h
      have hlow := lowers_step hl (reachable_signalInv h) hd₁ hs
      obtain ⟨h', he', hp', hf', hw⟩ := ih (h.step e hs) (he.drain hd₁ hs)
        (Nat.lt_of_lt_of_le hp (lifecycle_step hl hs).2.count_le) (hlow.fits hf)
        (fun e' he' => hd e' (List.mem_cons_of_mem _ he')) hr
      have := hlow.work
      exact ⟨h', he', hp', hf', by simp only [List.length_cons]; omega⟩
    · cases hr

/-- While the consumer elects, with a producer registered and no send in
progress larger than the slot, every interleaving of shutdown steps has at most
`16 * n_max_producers + 29` steps, none aborts, and when none is enabled
`mpsc_join` has returned. The steps are those of `Sys.step`, where a waiter
leaves `pthread_cond_wait` only after a signal; returns without one are not
counted (`spurious_return_stutters`). -/
theorem shutdown_ends {s s' : Sys} {es : List Event} (h : Reachable s) (he : s.Electing)
    (hp : 0 < s.mpsc.producerCount) (hf : s.SendsFit) (hd : ∀ e ∈ es, e.Drain = true)
    (hr : s.run es = some s') :
    es.length ≤ 16 * s.mpsc.nMaxProducers + 29 ∧
      (∀ e r, e.Drain = true → s'.step e = some r → ∃ s'', r = .ok s'') ∧
      (s'.Parked → s'.pc .main = .exited) := by
  obtain ⟨h', he', hp', hf', hw⟩ := Sys.drain_run h he hp hf hd hr
  have := Sys.work_le (reachable_lifecycle h)
  exact ⟨by omega, fun e r hd' hs => Sys.drain_ok h' hp' hf' hd' hs,
    fun hs => hs.main_exited h' he'⟩

/-- `shutdownRun` after producer 0's send: its last 20 steps are a shutdown. -/
theorem shutdown_ends_after_send :
    ∃ s s', noErrorHandlingChannel.run (shutdownRun.take 6) = some s ∧
      s.run (shutdownRun.drop 6) = some s' ∧
      (shutdownRun.drop 6).length ≤ 16 * s.mpsc.nMaxProducers + 29 ∧ s'.pc .main = .exited := by
  have hr : Reachable noErrorHandlingChannel := .init _ _ _ _ rfl rfl
  have hs := @Reachable.run _ _ hr (shutdownRun.take 6) rfl
  exact ⟨_, _, rfl, rfl, (@shutdown_ends _ _ (shutdownRun.drop 6) hs (.inl rfl) (by decide)
    (by unfold Sys.SendsFit; decide) (by decide) rfl).1, rfl⟩

/-- Without error handling, once a producer is registered and no send in
progress is larger than the slot, a run of at most `16 * n_max_producers + 29`
shutdown steps lets `mpsc_join` return. -/
theorem join_can_return {s : Sys} (h : Reachable s) (he : s.mpsc.errorHandlingEnabled = false)
    (hp : 0 < s.mpsc.producerCount) (hf : s.SendsFit) :
    ∃ es s', (∀ e ∈ es, e.Drain = true) ∧ es.length ≤ 16 * s.mpsc.nMaxProducers + 29 ∧
      s.run es = some s' ∧ s'.pc .main = .exited :=
  Sys.drain_to_exit h (.inl he) hp hf

theorem join_can_return_after_election :
    ∃ s, noErrorHandlingChannel.run electionRun = some s ∧
      ∃ es s', (∀ e ∈ es, e.Drain = true) ∧ es.length ≤ 16 * s.mpsc.nMaxProducers + 29 ∧
        s.run es = some s' ∧ s'.pc .main = .exited := by
  have hr : Reachable noErrorHandlingChannel := .init _ _ _ _ rfl rfl
  exact ⟨_, rfl, join_can_return (@Reachable.run _ _ hr electionRun rfl) rfl (by decide)
    (by unfold Sys.SendsFit; decide)⟩

/-- In either mode the same holds unless the consumer's latest callback is the
error callback of a failed `my_malloc`. -/
theorem join_can_return_of_last_callback {s : Sys} (h : Reachable s) (he : s.Electing)
    (hp : 0 < s.mpsc.producerCount) (hf : s.SendsFit) :
    ∃ es s', (∀ e ∈ es, e.Drain = true) ∧ es.length ≤ 16 * s.mpsc.nMaxProducers + 29 ∧
      s.run es = some s' ∧ s'.pc .main = .exited :=
  Sys.drain_to_exit h he hp hf

/-- From `overtakingRun` up to the delivery after the failed allocation. -/
theorem join_can_return_of_last_callback_after_recovery :
    ∃ s, errorHandlingChannel.run (overtakingRun.take 20) = some s ∧
      Invocation.consumerErrorCallback ∈ s.invocations ∧
      ∃ es s', (∀ e ∈ es, e.Drain = true) ∧ es.length ≤ 16 * s.mpsc.nMaxProducers + 29 ∧
        s.run es = some s' ∧ s'.pc .main = .exited := by
  have hr : Reachable errorHandlingChannel := .init _ _ _ _ rfl rfl
  exact ⟨_, rfl, by decide, join_can_return_of_last_callback
    (@Reachable.run _ _ hr (overtakingRun.take 20) rfl) (.inr (by decide)) (by decide)
    (by unfold Sys.SendsFit; decide)⟩

end CMpsc
