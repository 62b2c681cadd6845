import Mathlib.Algebra.GroupWithZero.Nat
import Mathlib.Data.Nat.Find
import Mathlib.Logic.Function.Iterate
import Mathlib.Order.Monotone.Basic
import Mathlib.Tactic.SplitIfs
import Rollout.Service.Polling
import Rollout.Service.Script

/-!
# How polling ends

Polling is followed along the replies that the service would give to one question after another
(`replyAt`), the first of which that is not busy ends it (`Settles`), at its `arrival`. A
cancellation that comes no later ends it before (`poll_of_settles`, `poll_of_cancel`), and there is
no other end (`poll_cases`); without either, polling goes on (`poll_eq_none_iff`).

For replies that are prepared this says when polling ends, with what, and which attempts it has
told. That a cancellation is always noticed needs a delay: without one, a service that answers at
once would be asked again for ever.
-/

namespace Rollout.Service

variable {σ α : Type} {ask : σ → Reply α × σ} {delay limit n : Nat} {cancel : Option Nat}
  {attempt : UInt32} {now : Nat} {state : σ}

/-! ## The replies to one question after another -/

/-- The service's state after a number of questions. -/
def stateAfter (ask : σ → Reply α × σ) (state : σ) (n : Nat) : σ :=
  (fun s => (ask s).2)^[n] state

/-- The reply to the question that comes after `n` others. -/
def replyAt (ask : σ → Reply α × σ) (state : σ) (n : Nat) : Reply α :=
  (ask (stateAfter ask state n)).1

/-- How long it takes until the reply after `n` others is there, if those were busy. -/
def arrival (ask : σ → Reply α × σ) (delay : Nat) (state : σ) (n : Nat) : Nat :=
  ((List.range (n + 1)).map fun k => (replyAt ask state k).took).sum + n * delay

/-- The first `n` replies are busy. -/
def AllBusy (ask : σ → Reply α × σ) (state : σ) (n : Nat) : Prop :=
  ∀ k < n, (replyAt ask state k).isBusy = true

/-- The first reply that is not busy comes after `n` others. -/
def Settles (ask : σ → Reply α × σ) (state : σ) (n : Nat) : Prop :=
  AllBusy ask state n ∧ (replyAt ask state n).isBusy = false

/-- The first reply is that to the first question. -/
@[simp] theorem replyAt_zero : replyAt ask state 0 = (ask state).1 := rfl

/-- The later replies are those from the state after the first question. -/
@[simp] theorem replyAt_succ : replyAt ask state (n + 1) = replyAt ask (ask state).2 n := rfl

/-- More questions lead on from the state after the first. -/
@[simp] theorem stateAfter_succ : stateAfter ask state (n + 1) = stateAfter ask (ask state).2 n :=
  rfl

/-- The first reply arrives after the time that it takes. -/
@[simp] theorem arrival_zero (ask : σ → Reply α × σ) (delay : Nat) (state : σ) :
    arrival ask delay state 0 = (ask state).1.took := by
  simp [arrival]

/-- The later replies arrive after the first and a delay. -/
theorem arrival_succ : arrival ask delay state (n + 1) =
    (ask state).1.took + delay + arrival ask delay (ask state).2 n := by
  unfold arrival
  rw [List.range_succ_eq_map, List.map_cons, List.sum_cons, List.map_map]
  have htail : (fun k => (replyAt ask state k).took) ∘ Nat.succ =
      fun k => (replyAt ask (ask state).2 k).took := rfl
  rw [htail, replyAt_zero, Nat.add_mul]
  omega

/-- Polling that begins at a time goes on, after a busy reply, as polling that begins later. -/
theorem add_arrival_succ : now + arrival ask delay state (n + 1) =
    now + (ask state).1.took + delay + arrival ask delay (ask state).2 n := by
  rw [arrival_succ]
  omega

/-- The next reply arrives after a delay and the time that it takes. -/
theorem arrival_le_succ : arrival ask delay state n + delay ≤ arrival ask delay state (n + 1) := by
  unfold arrival
  rw [List.range_succ (n := n + 1), List.map_append, List.sum_append, Nat.add_mul]
  omega

/-- Later replies arrive no earlier. -/
theorem arrival_mono (ask : σ → Reply α × σ) (delay : Nat) (state : σ) :
    Monotone (arrival ask delay state) :=
  monotone_nat_of_le_succ fun _ => (Nat.le_add_right _ _).trans arrival_le_succ

/-- None of no replies is anything but busy. -/
theorem allBusy_zero : AllBusy ask state 0 :=
  fun _ h => absurd h (Nat.not_lt_zero _)

/-- The first replies are busy if the first is and the ones after it are. -/
theorem allBusy_succ : AllBusy ask state (n + 1) ↔
    (ask state).1.isBusy = true ∧ AllBusy ask (ask state).2 n := by
  unfold AllBusy
  rw [Nat.forall_lt_succ_left]
  rfl

/-- The first reply settles it if it is not busy. -/
theorem settles_zero : Settles ask state 0 ↔ (ask state).1.isBusy = false := by
  simp [Settles, allBusy_zero]

/-- After a busy reply the rest is settled as it would be by itself. -/
theorem settles_succ : Settles ask state (n + 1) ↔
    (ask state).1.isBusy = true ∧ Settles ask (ask state).2 n := by
  unfold Settles
  rw [allBusy_succ, and_assoc]
  rfl

/-! ## Cancellation -/

/-- A cancellation is noticed from its moment on. -/
theorem isCancelled_some {c t : Nat} : isCancelled (some c) t = true ↔ c ≤ t :=
  decide_eq_true_iff

/-- It is not cancelled as long as any cancellation is yet to come. -/
theorem isCancelled_eq_false_iff {t : Nat} :
    isCancelled cancel t = false ↔ ∀ c, cancel = some c → t < c := by
  cases cancel with
  | none => simp [isCancelled]
  | some c => simp [isCancelled]

/-- What is cancelled has a cancellation. -/
theorem isSome_of_isCancelled {t : Nat} (h : isCancelled cancel t = true) :
    cancel.isSome = true := by
  cases cancel with
  | none => contradiction
  | some c => rfl

/-- What was not cancelled later was not before. -/
theorem isCancelled_eq_false_of_le {s t : Nat} (h : isCancelled cancel t = false) (hle : s ≤ t) :
    isCancelled cancel s = false := by
  rw [isCancelled_eq_false_iff] at h ⊢
  exact fun c hc => Nat.lt_of_le_of_lt hle (h c hc)

/-! ## The steps -/

/-- The steps of polling through a number of busy replies. -/
def busySteps (attempt : UInt32) : Nat → List PollStep
  | 0 => []
  | n + 1 => .asked :: .busy (nextAttempt attempt) :: busySteps (nextAttempt attempt) n

/-- One round of the rehearsal, by the times at which a cancellation is noticed. -/
theorem round_rehearsedWorld : (rehearsedWorld ask delay cancel).round attempt (now, state) =
    if isCancelled cancel now then ⟨.inr (.error .cancelled), [.withdrawn], (now, state)⟩
    else if isCancelled cancel (now + (ask state).1.took) then
      ⟨.inr (.error .cancelled), [.asked],
        (cancel.getD (now + (ask state).1.took), (ask state).2)⟩
    else if (ask state).1.isBusy then
      if isCancelled cancel (now + (ask state).1.took + delay) then
        ⟨.inr (.error .cancelled), [.asked, .busy (nextAttempt attempt)],
          (cancel.getD (now + (ask state).1.took + delay), (ask state).2)⟩
      else
        ⟨.inl (nextAttempt attempt), [.asked, .busy (nextAttempt attempt)],
          (now + (ask state).1.took + delay, (ask state).2)⟩
    else
      ⟨.inr (ask state).1.result, [.asked], (now + (ask state).1.took, (ask state).2)⟩ := by
  unfold PollWorld.round Reply.isBusy
  rw [Rehearsal.bind_apply, rehearsedWorld_isCancelled]
  cases hnow : isCancelled cancel now with
  | true => simp
  | false =>
    cases hreply : isCancelled cancel (now + (ask state).1.took) with
    | true => simp [rehearsedWorld_ask, hreply]
    | false =>
      -- Only now the answer counts, and the delay only after a busy one.
      cases hbusy : isBusy (ask state).1.result with
      | false => simp [rehearsedWorld_ask, hreply, hbusy]
      | true =>
        cases hwake : isCancelled cancel (now + (ask state).1.took + delay) <;>
          simp [rehearsedWorld_ask, rehearsedWorld_tell, rehearsedWorld_rest, hreply, hbusy, hwake]

/-- Polling is its first round, and the rounds after it if this one does not end it. -/
theorem poll_succ : poll ask delay cancel (limit + 1) attempt now state =
    if isCancelled cancel now then some ⟨.error .cancelled, [.withdrawn], now, state⟩
    else if isCancelled cancel (now + (ask state).1.took) then
      some ⟨.error .cancelled, [.asked], cancel.getD (now + (ask state).1.took), (ask state).2⟩
    else if (ask state).1.isBusy then
      if isCancelled cancel (now + (ask state).1.took + delay) then
        some ⟨.error .cancelled, [.asked, .busy (nextAttempt attempt)],
          cancel.getD (now + (ask state).1.took + delay), (ask state).2⟩
      else
        (poll ask delay cancel limit (nextAttempt attempt) (now + (ask state).1.took + delay)
          (ask state).2).map (Polled.after [.asked, .busy (nextAttempt attempt)])
    else some ⟨(ask state).1.result, [.asked], now + (ask state).1.took, (ask state).2⟩ := by
  rw [poll, round_rehearsedWorld]
  split_ifs <;> rfl

/-- Polling that is not cancelled before ends with the first reply that is not busy. -/
theorem poll_of_settles (h : Settles ask state n)
    (hlasts : isCancelled cancel (now + arrival ask delay state n) = false) (hlimit : n < limit) :
    poll ask delay cancel limit attempt now state =
      some ⟨(replyAt ask state n).result, busySteps attempt n ++ [.asked],
        now + arrival ask delay state n, stateAfter ask state (n + 1)⟩ := by
  induction n generalizing limit attempt now state with
  | zero =>
    obtain ⟨limit, rfl⟩ := Nat.exists_eq_add_one.2 hlimit
    rw [arrival_zero] at hlasts ⊢
    -- The reply is there before any cancellation, so none is noticed before it.
    have hnow : isCancelled cancel now = false :=
      isCancelled_eq_false_of_le hlasts (Nat.le_add_right _ _)
    have hother := settles_zero.1 h
    simp [poll_succ, hnow, hlasts, hother, busySteps, stateAfter]
  | succ n ih =>
    obtain ⟨limit, rfl⟩ := Nat.exists_eq_add_one.2 (Nat.zero_lt_of_lt hlimit)
    obtain ⟨hbusy, hrest⟩ := settles_succ.1 h
    rw [add_arrival_succ] at hlasts ⊢
    -- Nor is one noticed before a later reply.
    have hwake := isCancelled_eq_false_of_le hlasts (Nat.le_add_right _ _)
    have hreply := isCancelled_eq_false_of_le hwake (Nat.le_add_right _ _)
    have hnow := isCancelled_eq_false_of_le hreply (Nat.le_add_right _ _)
    have hpoll : poll ask delay cancel limit (nextAttempt attempt)
        (now + (ask state).1.took + delay) (ask state).2 = some _ :=
      ih hrest hlasts (Nat.lt_of_succ_lt_succ hlimit)
    simp [poll_succ, hnow, hreply, hwake, hbusy, hpoll, Polled.after, busySteps]

/-- How many replies are busy and arrive before a cancellation, if polling begins at a given
time. -/
def BusyBefore (ask : σ → Reply α × σ) (delay now : Nat) (state : σ) (c m : Nat) : Prop :=
  ∀ k, k < m ↔ AllBusy ask state (k + 1) ∧ now + arrival ask delay state k < c

/-- With a delay, only so many replies arrive before a cancellation. -/
theorem exists_busyBefore (hdelay : 0 < delay) (c : Nat) :
    ∃ m, BusyBefore ask delay now state c m := by
  have hlate : ∃ k, ¬ (AllBusy ask state (k + 1) ∧ now + arrival ask delay state k < c) := by
    refine ⟨c, fun h => ?_⟩
    have hwaits : c * 1 ≤ c * delay := Nat.mul_le_mul_left c hdelay
    have harrival : c * delay ≤ arrival ask delay state c := Nat.le_add_left _ _
    omega
  classical
  refine ⟨Nat.find hlate, fun k => ⟨fun hk => not_not.1 (Nat.find_min hlate hk), fun hk => ?_⟩⟩
  -- What holds of a reply holds of the ones before it, so none before it is the first late one.
  by_contra hle
  have hmono := arrival_mono ask delay state (not_lt.1 hle)
  exact Nat.find_spec hlate ⟨fun j hj => hk.1 j (by omega), by omega⟩

/-- After a busy reply there is one less to come before the cancellation. -/
theorem BusyBefore.succ {c m : Nat} (h : BusyBefore ask delay now state c (m + 1))
    (hbusy : (ask state).1.isBusy = true) :
    BusyBefore ask delay (now + (ask state).1.took + delay) (ask state).2 c m := by
  intro k
  have hk := h (k + 1)
  rw [Nat.add_lt_add_iff_right, allBusy_succ, add_arrival_succ] at hk
  simpa [hbusy] using hk

/-- Polling that is cancelled no later than a reply would end it ends with the cancellation, after
the attempts that found the service busy before. -/
theorem poll_of_cancel {c m : Nat} (hbefore : BusyBefore ask delay now state c m)
    (hsettled : ∀ n, Settles ask state n → c ≤ now + arrival ask delay state n)
    (hlimit : m < limit) :
    ∃ p, poll ask delay (some c) limit attempt now state = some p ∧
      p.result = .error .cancelled ∧ p.now = max now c ∧
      attempts p.steps = attempts (busySteps attempt m) := by
  induction m generalizing limit attempt now state with
  | zero =>
    obtain ⟨limit, rfl⟩ := Nat.exists_eq_add_one.2 hlimit
    rw [poll_succ]
    have hnone : ¬ (AllBusy ask state 1 ∧ now + arrival ask delay state 0 < c) :=
      fun h => absurd ((hbefore 0).2 h) (Nat.lt_irrefl 0)
    rw [allBusy_succ, arrival_zero] at hnone
    by_cases hnow : c ≤ now
    · rw [if_pos (isCancelled_some.2 hnow)]
      exact ⟨_, rfl, rfl, (Nat.max_eq_left hnow).symm, rfl⟩
    · -- The first reply does not arrive before the cancellation: a busy one would be counted, and
      -- another would settle it.
      have hreply : c ≤ now + (ask state).1.took := by
        cases hbusy : (ask state).1.isBusy with
        | true =>
          by_contra hlate
          exact hnone ⟨⟨hbusy, allBusy_zero⟩, not_le.1 hlate⟩
        | false =>
          rw [← arrival_zero ask delay]
          exact hsettled 0 (settles_zero.2 hbusy)
      rw [if_neg (mt isCancelled_some.1 hnow), if_pos (isCancelled_some.2 hreply)]
      exact ⟨_, rfl, rfl, (Nat.max_eq_right (Nat.le_of_not_le hnow)).symm, rfl⟩
  | succ m ih =>
    obtain ⟨limit, rfl⟩ := Nat.exists_eq_add_one.2 (Nat.zero_lt_of_lt hlimit)
    rw [poll_succ]
    -- The first reply is busy and arrives before the cancellation, which comes during the delay or
    -- later.
    obtain ⟨hbusy, hreply⟩ := (hbefore 0).1 (Nat.succ_pos m)
    rw [allBusy_succ] at hbusy
    rw [arrival_zero] at hreply
    have hnow : ¬ c ≤ now := by omega
    rw [if_neg (mt isCancelled_some.1 hnow), if_neg (mt isCancelled_some.1 (not_le.2 hreply)),
      if_pos hbusy.1]
    by_cases hwake : c ≤ now + (ask state).1.took + delay
    · -- No second reply can come before the cancellation.
      have hm : m = 0 := by
        by_contra hpos
        have hsecond := ((hbefore 1).1 (by omega)).2
        rw [add_arrival_succ] at hsecond
        omega
      subst hm
      rw [if_pos (isCancelled_some.2 hwake)]
      exact ⟨_, rfl, rfl, (Nat.max_eq_right (Nat.le_of_not_le hnow)).symm, rfl⟩
    · -- The cancellation comes later, so the rest ends with it, with one busy reply less before it.
      have hrest : ∀ n, Settles ask (ask state).2 n →
          c ≤ now + (ask state).1.took + delay + arrival ask delay (ask state).2 n := by
        intro n hn
        rw [← add_arrival_succ]
        exact hsettled (n + 1) (settles_succ.2 ⟨hbusy.1, hn⟩)
      rw [if_neg (mt isCancelled_some.1 hwake)]
      obtain ⟨p, hp, hresult, hat, hattempts⟩ :=
        ih (hbefore.succ hbusy.1) hrest (Nat.lt_of_succ_lt_succ hlimit)
      rw [hp]
      refine ⟨p.after _, rfl, hresult, ?_, ?_⟩
      · show p.now = _
        omega
      · show nextAttempt attempt :: attempts p.steps = _
        rw [hattempts]
        rfl

/-- Polling ends with the first reply that is not busy or with a cancellation. -/
theorem poll_cases {p : Polled σ α} (h : poll ask delay cancel limit attempt now state = some p) :
    (∃ n < limit, Settles ask state n ∧
      isCancelled cancel (now + arrival ask delay state n) = false ∧
      p = ⟨(replyAt ask state n).result, busySteps attempt n ++ [.asked],
        now + arrival ask delay state n, stateAfter ask state (n + 1)⟩) ∨
    cancel.isSome = true ∧ p.result = .error .cancelled := by
  induction limit generalizing attempt now state p with
  | zero => contradiction
  | succ limit ih =>
    rw [poll_succ] at h
    split_ifs at h with hnow hreply hbusy hwake
    · exact .inr ⟨isSome_of_isCancelled hnow, by rw [← Option.some.inj h]⟩
    · exact .inr ⟨isSome_of_isCancelled hreply, by rw [← Option.some.inj h]⟩
    · exact .inr ⟨isSome_of_isCancelled hwake, by rw [← Option.some.inj h]⟩
    · -- Only a round that is busy and not cancelled goes on, and there the later rounds count.
      obtain ⟨q, hq, rfl⟩ := Option.map_eq_some_iff.1 h
      rcases ih hq with ⟨n, hn, hsettles, hlasts, rfl⟩ | hcancelled
      · refine .inl ⟨n + 1, by omega, settles_succ.2 ⟨hbusy, hsettles⟩, ?_, ?_⟩
        · rw [add_arrival_succ]
          exact hlasts
        · rw [add_arrival_succ]
          rfl
      · exact .inr hcancelled
    · -- The first reply is not busy.
      refine .inl ⟨0, by omega, settles_zero.2 (Bool.eq_false_iff.2 hbusy), ?_, ?_⟩
      · rw [arrival_zero]
        exact Bool.eq_false_iff.2 hreply
      · rw [arrival_zero]
        exact (Option.some.inj h).symm

/-- Polling never ends with the answer that the service is busy. -/
theorem isBusy_eq_false_of_poll {p : Polled σ α}
    (h : poll ask delay cancel limit attempt now state = some p) {e : Error}
    (he : p.result = .error e) : e.isBusy = false := by
  rcases poll_cases h with ⟨n, -, ⟨-, hother⟩, -, rfl⟩ | ⟨-, hcancelled⟩
  · replace he : (replyAt ask state n).result = .error e := he
    unfold Reply.isBusy at hother
    rw [he] at hother
    exact hother
  · rw [hcancelled] at he
    cases he
    rfl

/-- Polling that has not ended found the service busy each time and was not cancelled. -/
theorem poll_eq_none_iff : poll ask delay cancel limit attempt now state = none ↔
    AllBusy ask state limit ∧
      ∀ k < limit, isCancelled cancel (now + arrival ask delay state k + delay) = false := by
  induction limit generalizing attempt now state with
  | zero => simp [poll, allBusy_zero]
  | succ limit ih =>
    rw [poll_succ, allBusy_succ, Nat.forall_lt_succ_left]
    rw [arrival_zero]
    -- What is required of the first round is that it is busy and not cancelled by its end.
    have hround : isCancelled cancel (now + (ask state).1.took + delay) = false →
        isCancelled cancel now = false ∧ isCancelled cancel (now + (ask state).1.took) = false :=
      fun hwake => ⟨isCancelled_eq_false_of_le hwake (by omega),
        isCancelled_eq_false_of_le hwake (by omega)⟩
    split_ifs with hnow hreply hbusy hwake
    · refine iff_of_false nofun fun h => ?_
      rw [(hround h.2.1).1] at hnow
      contradiction
    · refine iff_of_false nofun fun h => ?_
      rw [(hround h.2.1).2] at hreply
      contradiction
    · refine iff_of_false nofun fun h => ?_
      rw [h.2.1] at hwake
      contradiction
    · rw [Option.map_eq_none_iff, ih]
      simp only [add_arrival_succ]
      simp [hbusy, hwake]
    · exact iff_of_false nofun fun h => hbusy h.1.1

/-- More questions do not change how polling ended. -/
theorem poll_mono {p : Polled σ α} {limit' : Nat} (hle : limit ≤ limit')
    (h : poll ask delay cancel limit attempt now state = some p) :
    poll ask delay cancel limit' attempt now state = some p := by
  induction limit generalizing limit' attempt now state p with
  | zero => contradiction
  | succ limit ih =>
    obtain ⟨limit', rfl⟩ := Nat.exists_eq_add_one.2 (Nat.zero_lt_of_lt hle)
    rw [poll_succ] at h ⊢
    split_ifs at h ⊢
    · exact h
    · exact h
    · exact h
    · obtain ⟨q, hq, rfl⟩ := Option.map_eq_some_iff.1 h
      rw [ih (Nat.le_of_succ_le_succ hle) hq]
      rfl
    · exact h

/-! ## The numbers of attempts -/

/-- The number of the attempt after `k` others; the highest number stays. -/
def attemptNumber (k : Nat) : UInt32 :=
  UInt32.ofNat (min (k + 1) (UInt32.size - 1))

/-- Counting attempts from none gives their numbers. -/
theorem nextAttempt_iterate (k : Nat) : nextAttempt^[k + 1] 0 = attemptNumber k := by
  induction k with
  | zero => decide
  | succ k ih =>
    rw [Function.iterate_succ_apply', ih]
    have hsize : UInt32.size = 4294967296 := rfl
    have hnat : (attemptNumber k).toNat = min (k + 1) (UInt32.size - 1) :=
      UInt32.toNat_ofNat_of_lt' (by omega)
    unfold nextAttempt
    rw [hnat]
    split
    · next hmore =>
      -- There is a higher number, and it is the next.
      have hmin : min (k + 1 + 1) (UInt32.size - 1) = min (k + 1) (UInt32.size - 1) + 1 := by omega
      unfold attemptNumber
      rw [hmin, UInt32.ofNat_add]
      rfl
    · next hfull =>
      -- The highest number stays.
      have hmin : min (k + 1 + 1) (UInt32.size - 1) = min (k + 1) (UInt32.size - 1) := by omega
      unfold attemptNumber
      rw [hmin]

/-- Attempts of steps one after another are in this order. -/
theorem attempts_append (first rest : List PollStep) :
    attempts (first ++ rest) = attempts first ++ attempts rest :=
  List.filterMap_append

/-- Questions of steps one after another add up. -/
theorem questions_append (first rest : List PollStep) :
    questions (first ++ rest) = questions first + questions rest :=
  List.countP_append

/-- Busy replies tell of one attempt each. -/
theorem attempts_busySteps (attempt : UInt32) (n : Nat) :
    attempts (busySteps attempt n) = (List.range n).map fun k => nextAttempt^[k + 1] attempt := by
  induction n generalizing attempt with
  | zero => rfl
  | succ n ih =>
    show nextAttempt attempt :: attempts (busySteps (nextAttempt attempt) n) = _
    rw [ih, List.range_succ_eq_map, List.map_cons, List.map_map]
    rfl

/-- Busy replies answer one question each. -/
theorem questions_busySteps (attempt : UInt32) (n : Nat) :
    questions (busySteps attempt n) = n := by
  induction n generalizing attempt with
  | zero => rfl
  | succ n ih =>
    unfold questions at ih ⊢
    rw [busySteps, List.countP_cons_of_pos rfl, List.countP_cons_of_neg (by simp), ih]

/-- Each busy reply is to a question that is put. -/
theorem count_asked_busySteps (attempt : UInt32) (n : Nat) :
    (busySteps attempt n).count .asked = n := by
  induction n generalizing attempt with
  | zero => rfl
  | succ n ih =>
    rw [busySteps, List.count_cons_self, List.count_cons_of_ne (by simp), ih]

/-- The attempts that are told while the service is busy are numbered from one on. -/
theorem attempts_busySteps_zero (n : Nat) :
    attempts (busySteps 0 n) = (List.range n).map attemptNumber := by
  rw [attempts_busySteps]
  exact List.map_congr_left fun k _ => nextAttempt_iterate k

/-- The numbers of fewer attempts come first among those of more. -/
theorem prefix_numbers_of_le {m n : Nat} (h : m ≤ n) :
    (List.range m).map attemptNumber <+: (List.range n).map attemptNumber := by
  rw [← Nat.min_eq_left h, ← List.take_range]
  exact (List.take_prefix m _).map attemptNumber

/-! ## Polling that has not ended -/

/-- The steps of polling that has put at most `limit` questions, whether it has ended or not. If it
has not, every one of them found the service busy (`poll_eq_none_iff`). -/
def stepsWithin (ask : σ → Reply α × σ) (delay : Nat) (cancel : Option Nat) (limit : Nat)
    (attempt : UInt32) (now : Nat) (state : σ) : List PollStep :=
  match poll ask delay cancel limit attempt now state with
  | some p => p.steps
  | none => busySteps attempt limit

/-- The steps of polling that has ended are all of its steps. -/
theorem stepsWithin_of_poll {p : Polled σ α}
    (h : poll ask delay cancel limit attempt now state = some p) :
    stepsWithin ask delay cancel limit attempt now state = p.steps := by
  unfold stepsWithin
  rw [h]

/-- The steps are those of the first round, and those of the rounds after it if it does not end. -/
theorem stepsWithin_succ : stepsWithin ask delay cancel (limit + 1) attempt now state =
    if isCancelled cancel now then [.withdrawn]
    else if isCancelled cancel (now + (ask state).1.took) then [.asked]
    else if (ask state).1.isBusy then
      if isCancelled cancel (now + (ask state).1.took + delay) then
        [.asked, .busy (nextAttempt attempt)]
      else .asked :: .busy (nextAttempt attempt) :: stepsWithin ask delay cancel limit
        (nextAttempt attempt) (now + (ask state).1.took + delay) (ask state).2
    else [.asked] := by
  unfold stepsWithin
  rw [poll_succ]
  split_ifs
  · rfl
  · rfl
  · rfl
  · cases poll ask delay cancel limit (nextAttempt attempt) (now + (ask state).1.took + delay)
      (ask state).2 <;> rfl
  · rfl

/-- More questions only add steps. -/
theorem stepsWithin_mono {limit' : Nat} (hle : limit ≤ limit') :
    stepsWithin ask delay cancel limit attempt now state <+:
      stepsWithin ask delay cancel limit' attempt now state := by
  induction limit generalizing limit' attempt now state with
  | zero => exact List.nil_prefix
  | succ limit ih =>
    obtain ⟨limit', rfl⟩ := Nat.exists_eq_add_one.2 (Nat.zero_lt_of_lt hle)
    rw [stepsWithin_succ, stepsWithin_succ]
    split_ifs
    · exact List.prefix_rfl
    · exact List.prefix_rfl
    · exact List.prefix_rfl
    · exact (List.prefix_append_right_inj [_, _]).2 (ih (Nat.le_of_succ_le_succ hle))
    · exact List.prefix_rfl

/-- Polling that is not cancelled from the beginning puts its question. -/
theorem asked_mem_stepsWithin (hnow : isCancelled cancel now = false) (hlimit : 0 < limit) :
    .asked ∈ stepsWithin ask delay cancel limit attempt now state := by
  obtain ⟨limit, rfl⟩ := Nat.exists_eq_add_one.2 hlimit
  rw [stepsWithin_succ, if_neg (Bool.eq_false_iff.1 hnow)]
  split_ifs <;> exact List.mem_cons_self

/-- Without a cancellation, polling that has found the service busy some times tells these attempts
first, however it goes on. -/
theorem prefix_stepsWithin_of_allBusy {m : Nat} (hbusy : AllBusy ask state m) (hle : m ≤ limit) :
    (List.range m).map attemptNumber <+:
      attempts (stepsWithin ask delay none limit 0 now state) := by
  unfold stepsWithin
  split
  · next p hp =>
    rcases poll_cases hp with ⟨n, -, ⟨hsettles, hother⟩, -, rfl⟩ | ⟨hnone, -⟩
    · -- The reply that ends it is not among the busy ones.
      have hmn : m ≤ n := by
        by_contra hlt
        rw [hbusy n (not_le.1 hlt)] at hother
        contradiction
      rw [attempts_append, attempts_busySteps_zero]
      exact (prefix_numbers_of_le hmn).trans (List.prefix_append _ _)
    · contradiction
  · rw [attempts_busySteps_zero]
    exact prefix_numbers_of_le hle

/-! ## Answers -/

/-- The first reply that is not busy comes after `n` others, holds the answer `x`, and arrives
before any cancellation. -/
structure Fetches (ask : σ → Reply α × σ) (delay : Nat) (cancel : Option Nat) (now : Nat)
    (state : σ) (n : Nat) (x : α) : Prop where
  settles : Settles ask state n
  result_eq : (replyAt ask state n).result = .ok x
  lasts : ∀ c, cancel = some c → now + arrival ask delay state n < c

/-- Polling ends with an answer exactly if that is fetched within the questions that it has. -/
theorem poll_eq_ok_iff {x : α} {p : Polled σ α} :
    poll ask delay cancel limit attempt now state = some p ∧ p.result = .ok x ↔
      ∃ n < limit, Fetches ask delay cancel now state n x ∧
        p = ⟨.ok x, busySteps attempt n ++ [.asked], now + arrival ask delay state n,
          stateAfter ask state (n + 1)⟩ := by
  constructor
  · rintro ⟨hp, hx⟩
    -- A cancellation is no answer, so it has ended with a reply.
    rcases poll_cases hp with ⟨n, hn, hsettles, hlasts, rfl⟩ | ⟨-, hcancelled⟩
    · replace hx : (replyAt ask state n).result = .ok x := hx
      exact ⟨n, hn, ⟨hsettles, hx, isCancelled_eq_false_iff.1 hlasts⟩, by rw [hx]⟩
    · rw [hcancelled] at hx
      contradiction
  · rintro ⟨n, hn, ⟨hsettles, hx, hlasts⟩, rfl⟩
    refine ⟨?_, rfl⟩
    rw [poll_of_settles hsettles (isCancelled_eq_false_iff.2 hlasts) hn, hx]

/-- An answer that is fetched ends polling in as many questions as it takes. -/
theorem count_asked_of_fetches {x : α} (h : Fetches ask delay cancel now state n x)
    (hlimit : n < limit) :
    (stepsWithin ask delay cancel limit attempt now state).count .asked = n + 1 := by
  obtain ⟨hpoll, -⟩ := poll_eq_ok_iff.2 ⟨n, hlimit, h, rfl⟩
  rw [stepsWithin_of_poll hpoll, List.count_append, count_asked_busySteps]
  rfl

/-! ## Prepared replies -/

/-- Of several replies that are prepared the first is given and taken away. -/
theorem nextReply_cons (kind : String) (reply last : Reply α) (rest : List (Reply α)) :
    nextReply kind (reply :: (rest ++ [last])) = (reply, rest ++ [last]) := by
  cases rest <;> rfl

/-- Prepared replies are given in order, and the last one again and again. -/
theorem replyAt_nextReply (kind : String) (earlier : List (Reply α)) (last : Reply α) (k : Nat) :
    replyAt (nextReply kind) (earlier ++ [last]) k = earlier.getD k last := by
  induction k generalizing earlier with
  | zero =>
    cases earlier with
    | nil => rfl
    | cons reply rest => exact congrArg Prod.fst (nextReply_cons kind reply last rest)
  | succ k ih =>
    cases earlier with
    | nil => exact ih []
    | cons reply rest =>
      rw [replyAt_succ, List.cons_append, nextReply_cons]
      exact ih rest

/-- With a delay between questions and replies that are prepared, each after its own time and the
last one again and again, polling ends with the first reply that is not busy, when that has arrived
after the busy ones and their delays, unless a cancellation comes first: then it ends at the moment
of the cancellation, at once if that is the beginning. Either way the attempts that found the
service busy are told by their numbers, and with a cancellation they are the first ones of polling
that is not cancelled. A busy reply is never the end. A cancellation at the very moment of a reply
comes before it. -/
theorem poll_outcome (kind : String) (earlier : List (Reply α)) (last : Reply α) {delay : Nat}
    (hdelay : 0 < delay) (cancel : Option Nat) :
    let replies := earlier ++ [last]
    let reply := fun k => earlier.getD k last
    let arrives := fun n => ((List.range (n + 1)).map fun k => (reply k).took).sum + n * delay
    let first := fun n => (∀ k < n, (reply k).isBusy = true) ∧ (reply n).isBusy = false
    let numbers := fun n => (List.range n).map attemptNumber
    let run := fun limit => poll (nextReply kind) delay cancel limit 0 0 replies
    (∀ n, first n → (∀ c, cancel = some c → arrives n < c) →
      ∃ p, (∀ limit, n < limit → run limit = some p) ∧ p.result = (reply n).result ∧
        p.now = arrives n ∧ questions p.steps = n + 1 ∧ attempts p.steps = numbers n) ∧
    (∀ c, cancel = some c → (∀ n, first n → c ≤ arrives n) →
      ∃ m p, (∀ k, k < m ↔ (∀ j ≤ k, (reply j).isBusy = true) ∧ arrives k < c) ∧
        (∀ limit, m < limit → run limit = some p) ∧ p.result = .error .cancelled ∧
        p.now = c ∧ attempts p.steps = numbers m ∧
        ∀ limit, m ≤ limit → attempts p.steps <+:
          attempts (stepsWithin (nextReply kind) delay none limit 0 0 replies)) ∧
    (cancel = none → (∀ k, (reply k).isBusy = true) → ∀ limit, run limit = none) ∧
    ∀ limit p, run limit = some p → ∀ e, p.result = .error e → e.isBusy = false := by
  intro replies reply arrives first numbers run
  -- What the prepared replies are to the lemmas about any service.
  have hreply : ∀ k, replyAt (nextReply kind) replies k = reply k :=
    replyAt_nextReply kind earlier last
  have harrives : ∀ n, arrival (nextReply kind) delay replies n = arrives n := by
    intro n
    unfold arrival
    simp only [hreply]
    rfl
  have hfirst : ∀ n, Settles (nextReply kind) replies n ↔ first n := by
    intro n
    unfold Settles AllBusy
    simp only [hreply]
    rfl
  refine ⟨?_, ?_, ?_, ?_⟩
  · -- A reply that is not busy comes before any cancellation.
    intro n hn hlasts
    refine ⟨⟨(replyAt (nextReply kind) replies n).result, busySteps 0 n ++ [.asked],
      0 + arrival (nextReply kind) delay replies n, stateAfter (nextReply kind) replies (n + 1)⟩,
      fun limit hlimit => poll_of_settles ((hfirst n).2 hn) ?_ hlimit, ?_, ?_, ?_, ?_⟩
    · rw [Nat.zero_add, harrives]
      exact isCancelled_eq_false_iff.2 hlasts
    · exact congrArg Reply.result (hreply n)
    · exact (Nat.zero_add _).trans (harrives n)
    · show questions (busySteps 0 n ++ [.asked]) = n + 1
      rw [questions_append, questions_busySteps]
      rfl
    · show attempts (busySteps 0 n ++ [.asked]) = numbers n
      rw [attempts_append, attempts_busySteps_zero]
      exact List.append_nil _
  · -- The cancellation comes first, after the busy replies before it.
    rintro c rfl hlate
    obtain ⟨m, hm⟩ : ∃ m, BusyBefore (nextReply kind) delay 0 replies c m :=
      exists_busyBefore hdelay c
    have hsettled : ∀ n, Settles (nextReply kind) replies n →
        c ≤ 0 + arrival (nextReply kind) delay replies n := by
      intro n hn
      rw [Nat.zero_add, harrives]
      exact hlate n ((hfirst n).1 hn)
    obtain ⟨p, hp, hresult, hnow, hattempts⟩ := poll_of_cancel hm hsettled (Nat.lt_succ_self m)
    rw [attempts_busySteps_zero] at hattempts
    -- The number of these is that of the busy replies before the cancellation.
    have hbefore : ∀ k, k < m ↔ (∀ j ≤ k, (reply j).isBusy = true) ∧ arrives k < c := by
      intro k
      have hk := hm k
      unfold AllBusy at hk
      simp only [hreply, harrives, Nat.zero_add, Nat.lt_succ_iff] at hk
      exact hk
    refine ⟨m, p, hbefore, fun limit hlimit => poll_mono hlimit hp, hresult, ?_, hattempts, ?_⟩
    · rw [hnow, Nat.zero_max]
    · intro limit hle
      rw [hattempts]
      have hbusy : AllBusy (nextReply kind) replies m := by
        intro k hk
        rw [hreply]
        exact ((hbefore k).1 hk).1 k (Nat.le_refl k)
      exact prefix_stepsWithin_of_allBusy hbusy hle
  · -- Without a cancellation a service that stays busy is asked for ever.
    rintro rfl hbusy limit
    refine poll_eq_none_iff.2 ⟨fun k _ => ?_, fun k _ => rfl⟩
    rw [hreply]
    exact hbusy k
  · -- A busy reply is not the end.
    intro limit p hp e he
    exact isBusy_eq_false_of_poll hp he

/-- Two busy replies and then an answer. -/
def busyTwice : List (Reply Nat) :=
  [⟨.error (.network (.serviceBusy "mirrors")), 5⟩, ⟨.error (.network (.serviceBusy "mirrors")), 0⟩]

/-- After 5, 15 and 28 milliseconds the replies are there. A cancellation after 12 comes before the
second. -/
theorem poll_outcome_busyTwice :
    (∃ p, poll (nextReply "mirrors") 10 none 3 0 0 (busyTwice ++ [⟨.ok 7, 3⟩]) = some p ∧
      p.result = .ok 7 ∧ p.now = 28 ∧ questions p.steps = 3 ∧ attempts p.steps = [1, 2]) ∧
    ∃ p, poll (nextReply "mirrors") 10 (some 12) 3 0 0 (busyTwice ++ [⟨.ok 7, 3⟩]) = some p ∧
      p.result = .error .cancelled ∧ p.now = 12 ∧ attempts p.steps = [1] := by
  constructor
  · obtain ⟨hends, -⟩ := poll_outcome "mirrors" busyTwice ⟨.ok 7, 3⟩ (by decide : 0 < 10) none
    obtain ⟨p, hp, hresult, hnow, hquestions, hattempts⟩ := hends 2 (by decide) nofun
    exact ⟨p, hp 3 (by decide), hresult, hnow, hquestions, hattempts⟩
  · obtain ⟨-, hcancels, -⟩ :=
      poll_outcome "mirrors" busyTwice ⟨.ok 7, 3⟩ (by decide : 0 < 10) (some 12)
    -- No reply that is not busy comes within twelve milliseconds.
    obtain ⟨m, p, hbefore, hp, hresult, hnow, hattempts, -⟩ := hcancels 12 rfl fun n hn => by
      rcases n with _ | _ | n
      · exact absurd hn.2 (by decide)
      · exact absurd hn.2 (by decide)
      · show 12 ≤ List.sum _ + (n + 2) * 10
        omega
    -- Exactly one busy reply arrives before the cancellation.
    have hfirst : 0 < m := (hbefore 0).2 (by decide)
    have hsecond : ¬ 1 < m := fun h => absurd ((hbefore 1).1 h).2 (by decide)
    obtain rfl : m = 1 := by omega
    exact ⟨p, hp 3 (by decide), hresult, hnow, hattempts⟩

end Rollout.Service
