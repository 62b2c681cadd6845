import Rollout.Operation.Relay
import Rollout.Program
import Rollout.Proofs.Operation.Progress

/-!
# Events reach their handler

Whatever branches are taken in a relay, the handler is given what the operation tells: each event
once, in the order in which they are told, and all of them before the result is returned.

`Takes` lists what taking a branch can do. Each of its cases moves events from what is ahead to the
channel, or from there to the handler, so that what has been handled, what is queued and what is yet
to be told are together the events of the operation (`Faithful`). The measure `branchesLeft` drops
with every branch, and the operation is ready until the result has been returned. So a relay cannot
go on for ever and cannot get stuck (`exists_run_returned`).

A run of the program is carried out without a channel. It ends as with any relay of its events
(`Plan.run_eq_of_relayed`).
-/

namespace Rollout.Operation.Relay

variable {α : Type} {r r' : Relay α} {branch : Branch} {branches : List Branch}
  {history : List Happening} {result : α}

/-! ## One branch -/

/-- What taking a branch does. -/
inductive Takes : Relay α → Branch → Relay α → Prop where
  | tells (event ahead) (result : α) (channel handled) :
    Takes ⟨.told event :: ahead, result, channel, handled, none⟩ .operation
      ⟨ahead, result, channel ++ [event], handled, none⟩
  | asks (request ahead) (result : α) (channel handled) :
    Takes ⟨.asked request :: ahead, result, channel, handled, none⟩ .operation
      ⟨ahead, result, channel, handled, none⟩
  | completes (result : α) (channel handled) :
    Takes ⟨[], result, channel, handled, none⟩ .operation
      ⟨[], result, [], handled ++ channel, some result⟩
  | receives (ahead) (result : α) (event channel handled) :
    Takes ⟨ahead, result, event :: channel, handled, none⟩ .channel
      ⟨ahead, result, channel, handled ++ [event], none⟩

/-- Draining gives the handler the rest of the channel in its order. -/
theorem drain_eq (handled channel : List Event) : drain handled channel = handled ++ channel := by
  induction channel generalizing handled with
  | nil => exact (List.append_nil _).symm
  | cons event channel ih => rw [drain, ih, List.append_assoc, List.singleton_append]

/-- The cases are what taking a branch can do, and nothing else. -/
theorem take?_eq_some_iff : r.take? branch = some r' ↔ Takes r branch r' := by
  obtain ⟨ahead, result, channel, handled, returned⟩ := r
  constructor
  · intro h
    -- After the return no branch can be taken, and before it each branch has its cases.
    cases returned with
    | some x => contradiction
    | none =>
      cases branch with
      | operation =>
        rcases ahead with _ | ⟨event | request, ahead⟩
        · cases h
          show Takes _ _ ⟨[], result, [], drain handled channel, some result⟩
          rw [drain_eq]
          exact .completes ..
        · cases h
          exact .tells ..
        · cases h
          exact .asks ..
      | channel =>
        cases channel with
        | nil => contradiction
        | cons event channel =>
          cases h
          exact .receives ..
  · intro h
    -- Conversely each case is computed, but for the draining of the channel.
    cases h with
    | completes result channel handled =>
      rw [← drain_eq]
      rfl
    | tells | asks | receives => rfl

/-- The operation is ready until the result has been returned. -/
theorem returned_eq_none_iff : r.returned = none ↔ ∃ branch r', r.take? branch = some r' := by
  constructor
  · intro h
    refine ⟨.operation, r.advance, ?_⟩
    unfold take?
    rw [h]
    rfl
  · rintro ⟨branch, r', h⟩
    cases take?_eq_some_iff.1 h <;> rfl

/-! ## What is kept -/

/-- The events of an operation are those that have been handled, those that are queued and those
that are yet to be told, in this order. When the result has been returned, all have been handled. -/
structure Faithful (history : List Happening) (result : α) (r : Relay α) : Prop where
  events_eq : r.handled ++ r.channel ++ events r.ahead = events history
  result_eq : r.result = result
  /-- Only the result of the operation is returned, and not before all its events are handled. -/
  of_returned : ∀ x, r.returned = some x → x = result ∧ r.handled = events history

/-- At the start all events are yet to be told. -/
theorem faithful_start (history : List Happening) (result : α) :
    Faithful history result (start history result) :=
  ⟨rfl, rfl, nofun⟩

/-- Taking a branch keeps the events in their order. -/
theorem Faithful.takes (h : Faithful history result r) (htakes : Takes r branch r') :
    Faithful history result r' := by
  obtain ⟨hevents, hresult, -⟩ := h
  -- Only the completion returns anything.
  have hopen : ∀ x : α, none = some x → x = result ∧ r'.handled = events history := by
    intro x hx
    contradiction
  cases htakes with
  | tells event ahead result channel handled =>
    -- The event is no longer ahead and stands at the end of the channel.
    refine ⟨?_, hresult, hopen⟩
    rw [← hevents]
    show handled ++ (channel ++ [event]) ++ events ahead =
      handled ++ channel ++ event :: events ahead
    simp only [List.append_assoc, List.singleton_append]
  | asks request ahead result channel handled => exact ⟨hevents, hresult, hopen⟩
  | completes result channel handled =>
    -- Nothing is ahead, so what was queued was the rest of the events.
    replace hevents : handled ++ channel = events history := by
      rw [← hevents]
      exact (List.append_nil _).symm
    refine ⟨?_, hresult, fun x hx => ⟨?_, hevents⟩⟩
    · rw [← hevents]
      simp [events]
    · rw [← hresult]
      exact (Option.some.inj hx).symm
  | receives ahead result event channel handled =>
    -- The event is no longer queued and has been handled last.
    refine ⟨?_, hresult, hopen⟩
    rw [← hevents]
    simp only [List.append_assoc, List.singleton_append]

/-- A bound on the number of branches that can still be taken. -/
def branchesLeft (r : Relay α) : Nat :=
  r.ahead.length + (events r.ahead).length + r.channel.length + if r.returned.isNone then 1 else 0

/-- With every branch that is taken fewer are left. -/
theorem Takes.branchesLeft_lt (h : Takes r branch r') : r'.branchesLeft < r.branchesLeft := by
  cases h with
  | tells event ahead result channel handled =>
    -- The event is no longer ahead and is queued, and one happening fewer is ahead.
    simp +arith [branchesLeft, events]
  | asks | completes | receives => simp [branchesLeft, events]

/-! ## Many branches -/

/-- Taking many branches keeps the events in their order. -/
theorem Faithful.run (h : Faithful history result r) (hrun : r.run? branches = some r') :
    Faithful history result r' := by
  induction branches generalizing r with
  | nil =>
    cases hrun
    exact h
  | cons branch branches ih =>
    obtain ⟨next, htake, hrest⟩ := Option.bind_eq_some_iff.1 hrun
    exact ih (h.takes (take?_eq_some_iff.1 htake)) hrest

/-- No more branches are taken than are left at the beginning. -/
theorem length_add_branchesLeft_le (hrun : r.run? branches = some r') :
    branches.length + r'.branchesLeft ≤ r.branchesLeft := by
  induction branches generalizing r with
  | nil =>
    cases hrun
    exact Nat.le_of_eq (Nat.zero_add _)
  | cons branch branches ih =>
    obtain ⟨next, htake, hrest⟩ := Option.bind_eq_some_iff.1 hrun
    have hlt := (take?_eq_some_iff.1 htake).branchesLeft_lt
    have hle := ih hrest
    rw [List.length_cons]
    omega

/-- From every state of a relay branches lead on to the return. -/
theorem exists_run_returned (r : Relay α) :
    ∃ branches r', r.run? branches = some r' ∧ r'.returned.isSome = true := by
  induction hleft : r.branchesLeft using Nat.strong_induction_on generalizing r with
  | _ left ih =>
    cases hreturned : r.returned with
    | some x => exact ⟨[], r, rfl, by rw [hreturned]; rfl⟩
    | none =>
      obtain ⟨branch, next, htake⟩ := returned_eq_none_iff.1 hreturned
      have hlt := (take?_eq_some_iff.1 htake).branchesLeft_lt
      obtain ⟨branches, r', hrun, hend⟩ := ih next.branchesLeft (hleft ▸ hlt) next rfl
      refine ⟨branch :: branches, r', ?_, hend⟩
      rw [run?, htake]
      exact hrun

/-- Whatever branches are taken, no event is lost, repeated or out of its place: what the handler
has been given, what is queued and what is yet to be told are the events of the operation. What is
returned is its result, and by then the handler has been given all its events. Until then another
branch can be taken, and no more can be taken than one for each happening, one for the receipt of
each event and one for the completion. So the result is returned in the end. -/
theorem relay_outcome (h : (start history result).run? branches = some r) :
    r.handled ++ r.channel ++ events r.ahead = events history ∧
    (∀ x, r.returned = some x → x = result ∧ r.handled = events history) ∧
    (r.returned = none ↔ ∃ branch r', r.take? branch = some r') ∧
    branches.length ≤ history.length + (events history).length + 1 ∧
    ∃ more r', r.run? more = some r' ∧ r'.returned = some result := by
  -- The invariant and the measure, carried over the branches that were taken.
  have hfaithful := (faithful_start history result).run h
  have hbound := length_add_branchesLeft_le h
  refine ⟨hfaithful.events_eq, hfaithful.of_returned, returned_eq_none_iff,
    Nat.le_trans (Nat.le_add_right ..) hbound, ?_⟩
  -- Some branches lead to a return, and by the invariant it returns the result.
  obtain ⟨more, r', hmore, hend⟩ := exists_run_returned r
  obtain ⟨x, hx⟩ := Option.isSome_iff_exists.1 hend
  obtain ⟨rfl, -⟩ := (hfaithful.run hmore).of_returned x hx
  exact ⟨more, r', hmore, hx⟩

/-- Three events are told, of which only the first is received before the operation completes. -/
def backlogged : Option (Relay Nat) :=
  (start [.told (.started "load"), .asked .mirrors, .told (.debug "a"), .told (.debug "b")] 7).run?
    [.operation, .operation, .channel, .operation, .operation, .operation]

/-- The handler is given the other two as well before the result is returned. -/
theorem relay_outcome_backlogged :
    ∃ r, backlogged = some r ∧ r.returned = some 7 ∧
      r.handled = [.started "load", .debug "a", .debug "b"] := by
  obtain ⟨r, hrun, hreturned⟩ : ∃ r, backlogged = some r ∧ r.returned = some 7 := ⟨_, rfl, rfl⟩
  obtain ⟨-, hreturn, -⟩ := relay_outcome hrun
  exact ⟨r, hrun, hreturned, (hreturn 7 hreturned).2⟩

end Rollout.Operation.Relay

namespace Rollout.Plan

open Operation

/-- However the events of an operation are relayed, the run ends with what the handler has been
given and what has been returned. -/
theorem run_eq_of_relayed {σ : Type} {plan : Plan} {around : Surroundings}
    {transport : Http.Transport σ} {cancel : Option Nat} {limit : Nat} {state : σ}
    {ended : Ended σ (Except Error Output)} {branches : List Relay.Branch}
    {r : Relay (Except Error Output)} {x : Except Error Output}
    (hended : plan.operation.run (plan.client.responder transport) cancel limit 0 state =
      some ended)
    (hrun : (Relay.start ended.history ended.result).run? branches = some r)
    (hreturned : r.returned = some x) :
    plan.run around transport cancel limit state =
      some (plan.finish around r.handled x, ended.state) := by
  obtain ⟨rfl, hhandled⟩ := ((Relay.faithful_start _ _).run hrun).of_returned x hreturned
  unfold run
  rw [hended, hhandled]
  rfl

end Rollout.Plan
