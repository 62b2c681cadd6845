import Rollout.Operation.Deployments
import Rollout.Proofs.Operation.Progress
import Rollout.Service.Script

/-!
# Discarding a draft

A draft is discarded by two questions. The service lists its drafts, and if the name is among them
it is asked to delete the deployment of that name (`progress_discardDraft`). So what a run asks for
and what it ends with follow from the two answers, in three cases (`Discards`, `run_discardDraft`).

The names that are listed decide, and not the statuses that stand beside them. A service that lists
a deployment although it is no draft has it deleted. That nothing but drafts is deleted
(`SparesOthers`) therefore holds of exactly the runs in which the name is not listed for other
deployments alone (`discardDraft_sparesOthers_iff`).
-/

namespace Rollout

/-- The service reports a draft, or no status at all. -/
def Service.Deployment.IsDraft (d : Service.Deployment) : Prop :=
  d.status = "DRAFT" ∨ d.status = ""

instance (d : Service.Deployment) : Decidable d.IsDraft :=
  inferInstanceAs (Decidable (d.status = "DRAFT" ∨ d.status = ""))

namespace Operation

open Service

variable {σ : Type} {answer : Responder σ} {cancel : Option Nat} {limit now : Nat} {state : σ}
  {name : String}

/-- It tells that it begins, asks for the drafts, and asks for the deletion if the name is among
them. -/
theorem progress_discardDraft (name : String) :
    (discardDraft name).progress answer cancel limit now state =
      (((question (.deployments "DRAFT")).progress answer cancel limit now state).proceed
        (fun _ => []) fun drafts now state =>
          if drafts.any (·.name == name) then
            ((question (.delete name)).progress answer cancel limit now state).proceed (fun _ => [])
              fun _ => .ended [.told (.completed ("discard_draft " ++ name) true)] (.ok ())
          else
            .ended [.told (.failed ("discard_draft " ++ name)
                (Error.operation (.draftNotFound name)).failure)]
              (.error (.operation (.draftNotFound name))) now state).after
        [.told (.started ("discard_draft " ++ name))] := by
  unfold discardDraft
  dsimp only
  rw [progress_tellAll_bind]
  refine congrArg (Progress.after _) (progress_bind_eq_proceed (fun _ _ _ => rfl) ?_)
  intro drafts now state
  dsimp only
  split
  · exact progress_bind_eq_proceed (fun _ _ _ => rfl) fun _ _ _ => rfl
  · rfl

/-! ## The three cases -/

/-- A deployment of this name is listed. -/
def ListsName (deployments : List Deployment) (name : String) : Prop :=
  ∃ d ∈ deployments, d.name = name

instance (deployments : List Deployment) (name : String) : Decidable (ListsName deployments name) :=
  inferInstanceAs (Decidable (∃ d ∈ deployments, d.name = name))

/-- A deployment of this name is listed, and as a draft. -/
def ListsDraft (deployments : List Deployment) (name : String) : Prop :=
  ∃ d ∈ deployments, d.name = name ∧ d.IsDraft

instance (deployments : List Deployment) (name : String) :
    Decidable (ListsDraft deployments name) :=
  inferInstanceAs (Decidable (∃ d ∈ deployments, d.name = name ∧ d.IsDraft))

/-- The search finds the name if it is listed. -/
theorem any_name_eq_true_iff {deployments : List Deployment} :
    deployments.any (·.name == name) = true ↔ ListsName deployments name := by
  simp [ListsName, List.any_eq_true]

/-- The search does not find the name if nothing that is listed has it. -/
theorem any_name_eq_false_iff {deployments : List Deployment} :
    deployments.any (·.name == name) = false ↔ ∀ d ∈ deployments, d.name ≠ name := by
  simp [List.any_eq_false]

/-- The answer to the question for the drafts, and the service after it. -/
abbrev draftListing (answer : Responder σ) (state : σ) : Reply (List Deployment) × σ :=
  answer (.deployments "DRAFT") state

/-- What discarding a draft asks for and ends with, by what the service answers. -/
inductive Discards (answer : Responder σ) (name : String) (state : σ) :
    List Request → Except Error Unit → Prop where
  /-- There is no listing. -/
  | unavailable {err : Error} (h : (draftListing answer state).1.result = .error err) :
    Discards answer name state [.deployments "DRAFT"] (.error err)
  /-- The name is not listed. -/
  | unlisted {deployments : List Deployment}
    (h : (draftListing answer state).1.result = .ok deployments)
    (hname : ¬ ListsName deployments name) :
    Discards answer name state [.deployments "DRAFT"] (.error (.operation (.draftNotFound name)))
  /-- The name is listed, and the answer to the deletion is the end. -/
  | listed {deployments : List Deployment}
    (h : (draftListing answer state).1.result = .ok deployments)
    (hname : ListsName deployments name) :
    Discards answer name state [.deployments "DRAFT", .delete name]
      (answer (.delete name) (draftListing answer state).2).1.result

/-- Discarding a draft always ends, in one of the three cases. -/
theorem run_discardDraft (answer : Responder σ) (name : String) (cancel : Option Nat)
    (limit now : Nat) (state : σ) :
    ∃ e, (discardDraft name).run answer cancel limit now state = some e ∧
      Discards answer name state (requests e.history) e.result := by
  rw [run_eq_ended?, progress_discardDraft, progress_question]
  cases hlisting : (answer (.deployments "DRAFT") state).1.result with
  | error err => exact ⟨_, rfl, .unavailable hlisting⟩
  | ok deployments =>
    rw [Progress.proceed_ended_ok]
    by_cases hname : ListsName deployments name
    · rw [if_pos (any_name_eq_true_iff.2 hname), progress_question]
      -- A success is announced after the deletion; the result is the answer either way.
      have hdeletes := Discards.listed hlisting hname
      cases hdeletion : (answer (.delete name) (draftListing answer state).2).1.result with
      | error err =>
        rw [hdeletion] at hdeletes
        exact ⟨_, rfl, hdeletes⟩
      | ok x =>
        rw [hdeletion] at hdeletes
        exact ⟨_, rfl, hdeletes⟩
    · rw [if_neg (mt any_name_eq_true_iff.1 hname)]
      exact ⟨_, rfl, .unlisted hlisting hname⟩

/-! ## What is deleted -/

/-- A run asks for no deletion but of a deployment of this name that is listed as a draft, and finds
no draft where there is none. -/
structure SparesOthers (answer : Responder σ) (name : String) (state : σ)
    (e : Ended σ (Except Error Unit)) : Prop where
  /-- The drafts are listed, and then at most one deletion is asked for, that of the name. -/
  requests_eq : requests e.history = [.deployments "DRAFT"] ∨
    requests e.history = [.deployments "DRAFT", .delete name]
  /-- Before the deletion the name was listed as a draft. -/
  listed_of_delete : .delete name ∈ requests e.history → ∃ deployments,
    (draftListing answer state).1.result = .ok deployments ∧ ListsDraft deployments name
  /-- What is not listed as a draft is not found, and not deleted. -/
  not_found : ∀ deployments, (draftListing answer state).1.result = .ok deployments →
    ¬ ListsDraft deployments name →
      e.result = .error (.operation (.draftNotFound name)) ∧ .delete name ∉ requests e.history

/-- The name is listed, and only for deployments that are no drafts. -/
def Mislisted (answer : Responder σ) (name : String) (state : σ) : Prop :=
  ∃ deployments, (draftListing answer state).1.result = .ok deployments ∧
    ListsName deployments name ∧ ¬ ListsDraft deployments name

/-- If the name is not listed for other deployments alone, no other is deleted. -/
theorem Discards.sparesOthers {e : Ended σ (Except Error Unit)}
    (h : Discards answer name state (requests e.history) e.result)
    (hmislisted : ¬ Mislisted answer name state) : SparesOthers answer name state e := by
  generalize hrequests : requests e.history = asked, hresult : e.result = result at h
  cases h with
  | @unavailable err hlisting =>
    -- There is no listing, so nothing is deleted and nothing was to be found.
    refine ⟨.inl hrequests, fun hdelete => ?_, fun deployments hlisted _ => ?_⟩
    · simp [hrequests] at hdelete
    · rw [hlisting] at hlisted
      contradiction
  | @unlisted deployments hlisting hname =>
    -- The name is not listed, so it is not found and not deleted.
    have hnot : .delete name ∉ requests e.history := by simp [hrequests]
    exact ⟨.inl hrequests, fun hdelete => absurd hdelete hnot, fun _ _ _ => ⟨hresult, hnot⟩⟩
  | @listed deployments hlisting hname =>
    -- The name is listed, and so it is listed as a draft.
    have hdraft : ListsDraft deployments name := by
      by_contra hother
      exact hmislisted ⟨deployments, hlisting, hname, hother⟩
    refine ⟨.inr hrequests, fun _ => ⟨deployments, hlisting, hdraft⟩,
      fun deployments' h hother => ?_⟩
    obtain rfl : deployments = deployments' := Except.ok.inj (hlisting.symm.trans h)
    exact absurd hdraft hother

/-- What is listed only for other deployments is deleted. -/
theorem Discards.delete_mem {requested : List Request} {result : Except Error Unit}
    (h : Discards answer name state requested result) (hmislisted : Mislisted answer name state) :
    .delete name ∈ requested := by
  obtain ⟨deployments, hlisted, hname, -⟩ := hmislisted
  cases h with
  | unavailable hlisting =>
    rw [hlisted] at hlisting
    contradiction
  | unlisted hlisting hunlisted =>
    obtain rfl := Except.ok.inj (hlisted.symm.trans hlisting)
    exact absurd hname hunlisted
  | listed => simp

/-- Discarding a draft always ends, in one of the three cases. No deployment but a draft is deleted
in exactly the runs in which the name is not listed for other deployments alone. -/
theorem discardDraft_sparesOthers_iff (answer : Responder σ) (name : String) (cancel : Option Nat)
    (limit now : Nat) (state : σ) :
    ∃ e, (discardDraft name).run answer cancel limit now state = some e ∧
      Discards answer name state (requests e.history) e.result ∧
      (SparesOthers answer name state e ↔ ¬ Mislisted answer name state) := by
  obtain ⟨e, hrun, hdiscards⟩ := run_discardDraft answer name cancel limit now state
  refine ⟨e, hrun, hdiscards, fun hspares hmislisted => ?_, hdiscards.sparesOthers⟩
  have hdelete := hdiscards.delete_mem hmislisted
  obtain ⟨deployments, hlisting, -, hother⟩ := hmislisted
  exact (hspares.not_found deployments hlisting hother).2 hdelete

/-- A service that lists a running deployment among its drafts. -/
def carelessService : Script where
  components := []
  mirrors := []
  deployments := [⟨.ok [⟨"lab", "RUNNING"⟩, ⟨"old", "DRAFT"⟩], 0⟩]
  delete := [⟨.ok (), 0⟩]
  connection := []

/-- Its draft is listed as one, and discarding it deletes nothing else. -/
theorem discardDraft_sparesOthers_old :
    ∃ e, (discardDraft "old").run Script.responder none 1 0 carelessService = some e ∧
      requests e.history = [.deployments "DRAFT", .delete "old"] ∧
      SparesOthers Script.responder "old" carelessService e := by
  obtain ⟨e, hrun, -, hspares⟩ :=
    discardDraft_sparesOthers_iff Script.responder "old" none 1 0 carelessService
  refine ⟨e, hrun, ?_, hspares.2 ?_⟩
  · obtain rfl := Option.some.inj hrun
    decide
  · rintro ⟨deployments, hlisted, -, hother⟩
    obtain rfl := Except.ok.inj hlisted
    exact hother (by decide)

/-- Its running deployment is deleted too. -/
theorem discardDraft_running_deleted :
    ∃ e, (discardDraft "lab").run Script.responder none 1 0 carelessService = some e ∧
      requests e.history = [.deployments "DRAFT", .delete "lab"] ∧ e.result = .ok () ∧
      ¬ SparesOthers Script.responder "lab" carelessService e := by
  refine ⟨_, rfl, by decide, rfl, fun hspares => ?_⟩
  obtain ⟨deployments, hlisted, hdraft⟩ := hspares.listed_of_delete (by decide)
  obtain rfl := Except.ok.inj hlisted
  exact absurd hdraft (by decide)

end Operation

end Rollout
