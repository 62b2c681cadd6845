import Mathlib.Data.List.Perm.Basic
import Rollout.Operation.Execute
import Rollout.Proofs.Catalog.Normalize
import Rollout.Proofs.Session.Run

/-!
# The order of choices

What a key finds does not depend on what has been chosen before. So choices for different components
succeed in every order, and a component other than the proxy holds what was chosen for it.

The proxy is the exception, because an engine with other marks than the one before it brings its own
proxy. If it is chosen after a proxy it takes that away again, even one that fits it (`Replaces`);
if the proxy is chosen after the engine, it stays. Apart from that the order makes no difference
(`choices_in_any_order`). What follows here first says what a component holds that no choice is
about, and then cuts the choices at the one that is in question.
-/

namespace Rollout

/-- The action that makes a choice. -/
def Choice.action (choice : Choice) : Session.Action :=
  .select choice.component choice.key

/-- Each choice names an artifact of the catalog. -/
def Catalog.HasAll (catalog : Catalog) (choices : List Choice) : Prop :=
  ∀ choice ∈ choices, ∃ a, catalog.find? choice.component choice.key = some a

/-- Some of the choices name artifacts too. -/
theorem Catalog.HasAll.subset {catalog : Catalog} {choices part : List Choice}
    (h : catalog.HasAll choices) (hsub : part ⊆ choices) : catalog.HasAll part :=
  fun choice hchoice => h choice (hsub hchoice)

/-- Where choices are for different components, a choice shares its own with none before it and none
after it. -/
theorem Choice.ne_of_nodup {before rest : List Choice} {choice : Choice}
    (h : ((before ++ choice :: rest).map (·.component)).Nodup) :
    (∀ other ∈ before, other.component ≠ choice.component) ∧
      ∀ other ∈ rest, other.component ≠ choice.component := by
  rw [List.map_append, List.map_cons] at h
  obtain ⟨-, hrest, hacross⟩ := List.nodup_append.1 h
  refine ⟨fun other hother => ?_, fun other hother heq => ?_⟩
  · -- Those before it are of other components than it and all after it.
    exact hacross _ (List.mem_map_of_mem hother) _ List.mem_cons_self
  · rw [← heq] at hrest
    exact (List.nodup_cons.1 hrest).1 (List.mem_map_of_mem hother)

namespace Session

/-- The session after choices have been made one after another. -/
def afterChoices (s : Session) (choices : List Choice) : Session :=
  s.after (choices.map Choice.action)

/-- An engine brings a proxy: its marks are not those of the engine that is chosen now, and this is
the first proxy of the catalog that fits. -/
def Brings (s : Session) (core proxy : Artifact) : Prop :=
  (∀ old, s.selection.get? .core = some old → old.marks ≠ core.marks) ∧
    s.catalog.proxyFor? core = some proxy

/-- In this order an engine is chosen after a proxy, and it brings another proxy. -/
def Replaces (s : Session) (order : List Choice) (proxy : Artifact) : Prop :=
  ∃ before pick rest engine core, order = before ++ pick :: rest ∧ pick.component = .proxy ∧
    engine ∈ rest ∧ engine.component = .core ∧
    s.catalog.find? .core engine.key = some core ∧ s.Brings core proxy

variable {s : Session} {choices : List Choice}

/-! ## One choice -/

/-- A choice that names an artifact selects it. -/
theorem perform_action {choice : Choice} {a : Artifact}
    (h : s.catalog.find? choice.component choice.key = some a) :
    s.perform choice.action = ({ s with selection := s.choosing choice.component a },
      .selected (s.outcomeOf choice.component a), (s.choose choice.component a).2.2) := by
  have hselect := select_eq_ok_of_find (find_eq_ok_iff.2 h)
  simp only [Choice.action, perform, hselect, choose_fst, choose_outcome]

/-- When an engine brings a proxy. -/
theorem brings_iff {core proxy : Artifact} :
    s.Brings core proxy ↔ proxyOutcome s.catalog s.selection core = .resolved proxy := by
  rw [proxyOutcome_eq_resolved_iff]
  unfold Brings Selection.AsksForProxy
  simp only [ne_eq, Artifact.marks_eq_iff]

/-- What becomes of the proxy depends on the engine before alone. -/
theorem proxyOutcome_congr {catalog : Catalog} {selection selection' : Selection}
    (h : selection.get? .core = selection'.get? .core) (core : Artifact) :
    proxyOutcome catalog selection core = proxyOutcome catalog selection' core := by
  unfold proxyOutcome
  rw [h]

/-! ## Several choices -/

/-- Later choices are made in the session after the earlier ones. -/
theorem afterChoices_append (s : Session) (first rest : List Choice) :
    s.afterChoices (first ++ rest) = (s.afterChoices first).afterChoices rest := by
  simp [afterChoices, after]

/-- A choice that names an artifact selects it, and the others are made after it. -/
theorem afterChoices_cons {choice : Choice} {a : Artifact}
    (h : s.catalog.find? choice.component choice.key = some a) (rest : List Choice) :
    s.afterChoices (choice :: rest) =
      afterChoices { s with selection := s.choosing choice.component a } rest := by
  show after (s.perform choice.action).1 _ = _
  rw [perform_action h]
  rfl

/-- Choices leave the catalog as it is. -/
theorem catalog_afterChoices (h : s.catalog.HasAll choices) :
    (s.afterChoices choices).catalog = s.catalog := by
  induction choices generalizing s with
  | nil => rfl
  | cons choice rest ih =>
    obtain ⟨a, ha⟩ := h choice List.mem_cons_self
    have hrest : s.catalog.HasAll rest := h.subset (List.subset_cons_self _ _)
    rw [afterChoices_cons ha]
    exact ih (s := { s with selection := s.choosing choice.component a }) hrest

/-- A component that no choice is about stays as it is, except that an engine may bring a proxy. -/
theorem get?_afterChoices_of_forall_ne (h : s.catalog.HasAll choices) {c : Component}
    (hne : ∀ choice ∈ choices, choice.component ≠ c)
    (hcore : c = .proxy → ∀ choice ∈ choices, choice.component ≠ .core) :
    (s.afterChoices choices).selection.get? c = s.selection.get? c := by
  induction choices generalizing s with
  | nil => rfl
  | cons choice rest ih =>
    obtain ⟨a, ha⟩ := h choice List.mem_cons_self
    have hrest : s.catalog.HasAll rest := h.subset (List.subset_cons_self _ _)
    have hstep : (s.choosing choice.component a).get? c = s.selection.get? c :=
      get?_choosing_of_ne s a (hne choice List.mem_cons_self)
        fun hboth => hcore hboth.2 choice List.mem_cons_self hboth.1
    rw [afterChoices_cons ha, ← hstep]
    exact ih (s := { s with selection := s.choosing choice.component a }) hrest
      (fun other hother => hne other (List.mem_cons_of_mem _ hother))
      (fun hc other hother => hcore hc other (List.mem_cons_of_mem _ hother))

/-- After a choice, a component that the later ones are not about is as this choice leaves it. -/
theorem get?_afterChoices_cons {choice : Choice} {rest : List Choice} {a : Artifact}
    (h : s.catalog.HasAll (choice :: rest))
    (ha : s.catalog.find? choice.component choice.key = some a) {c : Component}
    (hne : ∀ other ∈ rest, other.component ≠ c)
    (hcore : c = .proxy → ∀ other ∈ rest, other.component ≠ .core) :
    (s.afterChoices (choice :: rest)).selection.get? c =
      (s.choosing choice.component a).get? c := by
  rw [afterChoices_cons ha]
  exact get?_afterChoices_of_forall_ne
    (s := { s with selection := s.choosing choice.component a })
    (h.subset (List.subset_cons_self _ _)) hne hcore

/-- A component holds what was chosen for it last, except that an engine may bring a proxy. -/
theorem get?_afterChoices_self {before rest : List Choice} {choice : Choice} {a : Artifact}
    (h : s.catalog.HasAll (before ++ choice :: rest))
    (ha : s.catalog.find? choice.component choice.key = some a)
    (hrest : ∀ other ∈ rest, other.component ≠ choice.component)
    (hcore : choice.component = .proxy → ∀ other ∈ rest, other.component ≠ .core) :
    (s.afterChoices (before ++ choice :: rest)).selection.get? choice.component = some a := by
  -- The choices before it leave the catalog, and those after it leave the component.
  have hcatalog : (s.afterChoices before).catalog = s.catalog :=
    catalog_afterChoices (h.subset (List.subset_append_left _ _))
  have hlater : s.catalog.HasAll (choice :: rest) := h.subset (List.subset_append_right _ _)
  rw [← hcatalog] at ha hlater
  rw [afterChoices_append, get?_afterChoices_cons hlater ha hrest hcore]
  exact get?_choosing_self _ _ _

/-- After the last engine has been chosen the proxy is what the outcome of that choice leaves. The
outcome depends on the engine before it, which is the one at the start if no other was chosen. -/
theorem get?_proxy_afterChoices {before rest : List Choice} {engine : Choice} {core : Artifact}
    (h : s.catalog.HasAll (before ++ engine :: rest)) (hengine : engine.component = .core)
    (hcore : s.catalog.find? .core engine.key = some core)
    (hbefore : ∀ other ∈ before, other.component ≠ .core)
    (hrest : ∀ other ∈ rest, other.component ≠ .core ∧ other.component ≠ .proxy) :
    (s.afterChoices (before ++ engine :: rest)).selection.get? .proxy =
      (proxyOutcome s.catalog s.selection core).proxyAfter
        ((s.afterChoices before).selection.get? .proxy) := by
  have hearlier : s.catalog.HasAll before := h.subset (List.subset_append_left _ _)
  have hcatalog : (s.afterChoices before).catalog = s.catalog := catalog_afterChoices hearlier
  have hlater : s.catalog.HasAll (engine :: rest) := h.subset (List.subset_append_right _ _)
  have hsame : (s.afterChoices before).selection.get? .core = s.selection.get? .core :=
    get?_afterChoices_of_forall_ne hearlier hbefore (fun hc => nomatch hc)
  rw [← hengine, ← hcatalog] at hcore
  rw [← hcatalog] at hlater
  -- The choices before this one change the selection, but neither the catalog nor the engine.
  rw [afterChoices_append,
    get?_afterChoices_cons hlater hcore (fun other hother => (hrest other hother).2)
      (fun _ other hother => (hrest other hother).1),
    hengine, get?_choosing_proxy, hcatalog, proxyOutcome_congr hsame]

/-! ## Choices for different components -/

section Different

variable (hdiff : (choices.map (·.component)).Nodup) (h : s.catalog.HasAll choices)

include hdiff h

/-- A component other than the proxy holds what was chosen for it. -/
theorem get?_afterChoices_of_mem {choice : Choice} (hmem : choice ∈ choices)
    (hproxy : choice.component ≠ .proxy) :
    (s.afterChoices choices).selection.get? choice.component =
      s.catalog.find? choice.component choice.key := by
  obtain ⟨a, ha⟩ := h choice hmem
  obtain ⟨before, rest, rfl⟩ := List.append_of_mem hmem
  rw [ha]
  exact get?_afterChoices_self h ha (Choice.ne_of_nodup hdiff).2 (fun hc => absurd hc hproxy)

/-- If no proxy is chosen, the proxy is what the chosen engine leaves. -/
theorem get?_proxy_afterChoices_of_engine {engine : Choice} {core : Artifact}
    (hmem : engine ∈ choices) (hengine : engine.component = .core)
    (hcore : s.catalog.find? .core engine.key = some core)
    (hnone : ∀ choice ∈ choices, choice.component ≠ .proxy) :
    (s.afterChoices choices).selection.get? .proxy =
      (proxyOutcome s.catalog s.selection core).proxyAfter (s.selection.get? .proxy) := by
  obtain ⟨before, rest, rfl⟩ := List.append_of_mem hmem
  obtain ⟨hbefore, hrest⟩ := Choice.ne_of_nodup hdiff
  rw [hengine] at hbefore hrest
  -- No proxy is chosen before the engine or after it, so the one at the start is what it finds.
  have hearlier : ∀ other ∈ before, other.component ≠ .proxy := fun other hother =>
    hnone other (List.mem_append_left _ hother)
  rw [get?_proxy_afterChoices h hengine hcore hbefore fun other hother =>
      ⟨hrest other hother, hnone other (by simp [hother])⟩,
    get?_afterChoices_of_forall_ne (h.subset (List.subset_append_left _ _)) hearlier
      (fun _ => hbefore)]

/-- If an engine is chosen after the proxy, the proxy is what the engine leaves of it. -/
theorem get?_proxy_afterChoices_of_engine_after {before rest : List Choice} {pick engine : Choice}
    {a core : Artifact} (hsplit : choices = before ++ pick :: rest)
    (hpick : pick.component = .proxy) (ha : s.catalog.find? .proxy pick.key = some a)
    (hmem : engine ∈ rest) (hengine : engine.component = .core)
    (hcore : s.catalog.find? .core engine.key = some core) :
    (s.afterChoices choices).selection.get? .proxy =
      (proxyOutcome s.catalog s.selection core).proxyAfter (some a) := by
  obtain ⟨between, last, rfl⟩ := List.append_of_mem hmem
  subst hsplit
  have hproxies := (Choice.ne_of_nodup hdiff).2
  -- The same choices, cut at the engine.
  have hcut : before ++ pick :: (between ++ engine :: last) =
      (before ++ pick :: between) ++ engine :: last := by simp
  rw [hcut] at hdiff h ⊢
  obtain ⟨hbefore, hlast⟩ := Choice.ne_of_nodup hdiff
  rw [hengine] at hbefore hlast
  rw [hpick] at hproxies
  have hearlier : s.catalog.HasAll (before ++ pick :: between) :=
    h.subset (List.subset_append_left _ _)
  have hheld : (s.afterChoices (before ++ pick :: between)).selection.get? .proxy = some a := by
    rw [← hpick] at ha ⊢
    exact get?_afterChoices_self hearlier ha
      (fun other hother => hpick ▸ hproxies other (by simp [hother]))
      (fun _ other hother => hbefore other (by simp [hother]))
  rw [get?_proxy_afterChoices h hengine hcore hbefore fun other hother =>
    ⟨hlast other hother, hproxies other (by simp [hother])⟩, hheld]

/-- A chosen proxy that is replaced leaves the other one. -/
theorem get?_proxy_afterChoices_of_replaces {proxy : Artifact}
    (hreplaces : s.Replaces choices proxy) :
    (s.afterChoices choices).selection.get? .proxy = some proxy := by
  obtain ⟨before, pick, rest, engine, core, hsplit, hpick, hmem, hengine, hcore, hbrings⟩ :=
    hreplaces
  obtain ⟨a, ha⟩ := h pick (by simp [hsplit])
  rw [hpick] at ha
  rw [get?_proxy_afterChoices_of_engine_after hdiff h hsplit hpick ha hmem hengine hcore,
    brings_iff.1 hbrings]
  rfl

/-- A chosen proxy that is not replaced stays. -/
theorem get?_proxy_afterChoices_of_not_replaces {pick : Choice} (hmem : pick ∈ choices)
    (hpick : pick.component = .proxy) (hkept : ∀ proxy, ¬ s.Replaces choices proxy) :
    (s.afterChoices choices).selection.get? .proxy = s.catalog.find? .proxy pick.key := by
  obtain ⟨a, ha⟩ := h pick hmem
  obtain ⟨before, rest, hsplit⟩ := List.append_of_mem hmem
  rw [hpick] at ha
  rw [ha]
  by_cases hlater : ∃ engine ∈ rest, engine.component = .core
  · -- The engine brings no proxy, for else it would replace the chosen one.
    obtain ⟨engine, hengine, hcomponent⟩ := hlater
    obtain ⟨core, hcore⟩ := h engine (by simp [hsplit, hengine])
    rw [hcomponent] at hcore
    rw [get?_proxy_afterChoices_of_engine_after hdiff h hsplit hpick ha hengine hcomponent hcore]
    cases hout : proxyOutcome s.catalog s.selection core with
    | unchanged => rfl
    | noCandidate => rfl
    | resolved proxy =>
      exact absurd ⟨before, pick, rest, engine, core, hsplit, hpick, hengine, hcomponent, hcore,
        brings_iff.2 hout⟩ (hkept proxy)
  · subst hsplit
    rw [← hpick] at ha ⊢
    exact get?_afterChoices_self h ha (Choice.ne_of_nodup hdiff).2
      (fun _ other hother hcore => hlater ⟨other, hother, hcore⟩)

/-- In two orders in which the same proxy replaces the chosen one, or none does, the proxy is
the same in the end. -/
theorem get?_proxy_afterChoices_eq {order : List Choice} (hperm : order.Perm choices)
    (hsame : ∀ proxy, s.Replaces order proxy ↔ s.Replaces choices proxy) :
    (s.afterChoices order).selection.get? .proxy =
      (s.afterChoices choices).selection.get? .proxy := by
  have hdiff' : (order.map (·.component)).Nodup := (hperm.map _).nodup_iff.2 hdiff
  have h' : s.catalog.HasAll order := h.subset hperm.subset
  -- A chosen proxy is replaced or stays; otherwise only a chosen engine counts.
  by_cases hpicked : ∃ pick ∈ choices, pick.component = .proxy
  · obtain ⟨pick, hmem, hpick⟩ := hpicked
    by_cases hreplaced : ∃ proxy, s.Replaces choices proxy
    · obtain ⟨proxy, hreplaces⟩ := hreplaced
      rw [get?_proxy_afterChoices_of_replaces hdiff h hreplaces,
        get?_proxy_afterChoices_of_replaces hdiff' h' ((hsame proxy).2 hreplaces)]
    · have hkept : ∀ proxy, ¬ s.Replaces choices proxy := not_exists.1 hreplaced
      have hkept' : ∀ proxy, ¬ s.Replaces order proxy := fun proxy hreplaces =>
        hkept proxy ((hsame proxy).1 hreplaces)
      rw [get?_proxy_afterChoices_of_not_replaces hdiff h hmem hpick hkept,
        get?_proxy_afterChoices_of_not_replaces hdiff' h' (hperm.mem_iff.2 hmem) hpick hkept']
  · have hne : ∀ choice ∈ choices, choice.component ≠ .proxy := fun choice hmem hpick =>
      hpicked ⟨choice, hmem, hpick⟩
    have hne' : ∀ choice ∈ order, choice.component ≠ .proxy := fun choice hmem =>
      hne choice (hperm.mem_iff.1 hmem)
    by_cases hengine : ∃ engine ∈ choices, engine.component = .core
    · obtain ⟨engine, hmem, hcomponent⟩ := hengine
      obtain ⟨core, hcore⟩ := h engine hmem
      rw [hcomponent] at hcore
      rw [get?_proxy_afterChoices_of_engine hdiff h hmem hcomponent hcore hne,
        get?_proxy_afterChoices_of_engine hdiff' h' (hperm.mem_iff.2 hmem) hcomponent hcore hne']
    · have hcore : ∀ choice ∈ choices, choice.component ≠ .core := fun choice hmem heq =>
        hengine ⟨choice, hmem, heq⟩
      rw [get?_afterChoices_of_forall_ne h hne fun _ => hcore,
        get?_afterChoices_of_forall_ne h' hne' fun _ choice hmem =>
          hcore choice (hperm.mem_iff.1 hmem)]

/-- Orders in which the same happens to the proxy lead to the same selection. -/
theorem selection_afterChoices_eq {order : List Choice} (hperm : order.Perm choices)
    (hsame : ∀ proxy, s.Replaces order proxy ↔ s.Replaces choices proxy) :
    (s.afterChoices order).selection = (s.afterChoices choices).selection := by
  have hdiff' : (order.map (·.component)).Nodup := (hperm.map _).nodup_iff.2 hdiff
  have h' : s.catalog.HasAll order := h.subset hperm.subset
  apply Selection.ext_get?
  intro c
  -- The proxy is the same by assumption. Any other component holds what was chosen for it in either
  -- order, or what it held before.
  by_cases hproxy : c = .proxy
  · rw [hproxy]
    exact get?_proxy_afterChoices_eq hdiff h hperm hsame
  · by_cases hchosen : ∃ choice ∈ choices, choice.component = c
    · obtain ⟨choice, hmem, rfl⟩ := hchosen
      rw [get?_afterChoices_of_mem hdiff h hmem hproxy,
        get?_afterChoices_of_mem hdiff' h' (hperm.mem_iff.2 hmem) hproxy]
    · have hne : ∀ choice ∈ choices, choice.component ≠ c := fun choice hmem hc =>
        hchosen ⟨choice, hmem, hc⟩
      rw [get?_afterChoices_of_forall_ne h hne fun hc => absurd hc hproxy,
        get?_afterChoices_of_forall_ne h' (fun choice hmem => hne choice (hperm.mem_iff.1 hmem))
          fun hc => absurd hc hproxy]

end Different

/-- An engine that replaces a proxy is chosen after it. -/
theorem Replaces.sublist {order : List Choice} {proxy : Artifact} (h : s.Replaces order proxy) :
    [.proxy, .core].Sublist (order.map (·.component)) := by
  obtain ⟨before, pick, rest, engine, core, rfl, hpick, hmem, hengine, -, -⟩ := h
  have hrest : [Component.core].Sublist (rest.map (·.component)) := by
    rw [List.singleton_sublist, ← hengine]
    exact List.mem_map_of_mem hmem
  rw [List.map_append, List.map_cons, hpick]
  exact (hrest.cons_cons _).trans (List.sublist_append_right _ _)

/-! ## Every order -/

/-- Choices that name artifacts all succeed. -/
theorem answers_of_hasAll (h : s.catalog.HasAll choices) :
    ∀ t ∈ s.history (choices.map Choice.action), ∃ outcome, t.answer = .selected outcome := by
  induction choices generalizing s with
  | nil => exact fun _ hmem => nomatch hmem
  | cons choice rest ih =>
    obtain ⟨a, ha⟩ := h choice List.mem_cons_self
    have hperform := perform_action ha
    intro t hmem
    rcases List.mem_cons.1 hmem with rfl | hmem
    · exact ⟨_, congrArg (·.2.1) hperform⟩
    · rw [hperform] at hmem
      exact ih (s := { s with selection := s.choosing choice.component a })
        (h.subset (List.subset_cons_self _ _)) t hmem

end Session

open Operation in
/-- Events that are told in two parts are told in one. -/
theorem Operation.tellAll_append_bind {α : Type} (first rest : List Event)
    (next : Operation α) :
    (do tellAll (first ++ rest); next) = (do tellAll first; tellAll rest; next) := by
  induction first with
  | nil => rfl
  | cons event first ih => exact congrArg (tell event) ih

open Operation Session in
/-- The command makes choices that name artifacts, telling of each, and goes on with the others in
the session after them. -/
theorem Operation.choose_append {s : Session} {choices : List Choice}
    (h : s.catalog.HasAll choices) (later : List Choice) :
    choose s (choices ++ later) = (do
      tellAll (told (s.history (choices.map Choice.action)))
      choose (s.afterChoices choices) later) := by
  induction choices generalizing s with
  | nil => rfl
  | cons choice rest ih =>
    obtain ⟨a, ha⟩ := h choice List.mem_cons_self
    have hselect := select_eq_ok_of_find (find_eq_ok_iff.2 ha)
    have hrest := ih (s := { s with selection := s.choosing choice.component a })
      (h.subset (List.subset_cons_self _ _))
    -- The first choice tells of itself, and the others of themselves after it.
    have htold : told (s.history ((choice :: rest).map Choice.action)) =
        (s.choose choice.component a).2.2 ++
          told (history { s with selection := s.choosing choice.component a }
            (rest.map Choice.action)) := by
      show (s.perform choice.action).2.2 ++ told (history (s.perform choice.action).1 _) = _
      rw [perform_action ha]
    rw [List.cons_append, choose, hselect, htold, tellAll_append_bind, afterChoices_cons ha,
      ← hrest, ← choose_fst]

open Operation Session in
/-- The command that makes these choices tells of each and goes on with the session after the
last. -/
theorem Operation.choose_of_hasAll {s : Session} {choices : List Choice}
    (h : s.catalog.HasAll choices) :
    choose s choices = (do
      tellAll (told (s.history (choices.map Choice.action)))
      return .ok (s.afterChoices choices)) := by
  have happend := choose_append h []
  rw [List.append_nil] at happend
  exact happend

namespace Session

/-- Choices for different components that each name an artifact of the catalog succeed in every
order, and the command makes them all. Afterwards each chosen component holds what was chosen for
it, unless an engine was chosen after the proxy and replaces it, and then the proxy is the one that
the engine brings. Orders in which the same happens to the proxy lead to the same selection. -/
theorem choices_in_any_order {s : Session} {choices order : List Choice}
    (hdiff : (choices.map (·.component)).Nodup) (h : s.catalog.HasAll choices)
    (hperm : order.Perm choices) :
    (∀ t ∈ s.history (order.map Choice.action), ∃ outcome, t.answer = .selected outcome) ∧
    Operation.choose s order = (do
      Operation.tellAll (told (s.history (order.map Choice.action)))
      return .ok (s.afterChoices order)) ∧
    (∀ choice ∈ choices, (choice.component = .proxy → ∀ proxy, ¬ s.Replaces order proxy) →
      (s.afterChoices order).selection.get? choice.component =
        s.catalog.find? choice.component choice.key) ∧
    (∀ proxy, s.Replaces order proxy →
      (s.afterChoices order).selection.get? .proxy = some proxy) ∧
    ((∀ proxy, s.Replaces order proxy ↔ s.Replaces choices proxy) →
      (s.afterChoices order).selection = (s.afterChoices choices).selection) := by
  have hdiff' : (order.map (·.component)).Nodup := (hperm.map _).nodup_iff.2 hdiff
  have h' : s.catalog.HasAll order := h.subset hperm.subset
  refine ⟨answers_of_hasAll h', Operation.choose_of_hasAll h', ?_,
    fun proxy => get?_proxy_afterChoices_of_replaces hdiff' h',
    selection_afterChoices_eq hdiff h hperm⟩
  -- A chosen proxy stays if it is not replaced, and every other component holds what was chosen.
  intro choice hmem hkept
  have hmem' : choice ∈ order := hperm.mem_iff.2 hmem
  by_cases hproxy : choice.component = .proxy
  · rw [hproxy]
    exact get?_proxy_afterChoices_of_not_replaces hdiff' h' hmem' hproxy (hkept hproxy)
  · exact get?_afterChoices_of_mem hdiff' h' hmem' hproxy

/-- Two lines of the engine, with one proxy for the first and two for the second. -/
def twoLineOffers : List Service.Offer :=
  [⟨"core", [Catalog.sampleBuild "4.1.0" none "a", Catalog.sampleBuild "4.2.0" none "b"]⟩,
    ⟨"proxy", [Catalog.sampleBuild "4.1.1" none "p", Catalog.sampleBuild "4.2.1" none "q",
      Catalog.sampleBuild "4.2.5" none "r"]⟩]

/-- The first proxy of the second line. -/
def firstProxy : Artifact :=
  ⟨"4.2.1", none, "q", .community, 0, .remote⟩

/-- The second proxy of the second line. -/
def secondProxy : Artifact :=
  ⟨"4.2.5", none, "r", .community, 0, .remote⟩

/-- The catalog of the two lines. -/
def twoLineCatalog : Catalog :=
  (Catalog.empty.insert .core [⟨"4.1.0", none, "a", .community, 0, .remote⟩,
    ⟨"4.2.0", none, "b", .community, 0, .remote⟩]).insert .proxy
    [⟨"4.1.1", none, "p", .community, 0, .remote⟩, firstProxy, secondProxy]

/-- The engine of the second line is chosen. -/
def engineChoice : Choice :=
  ⟨.core, ⟨"4.2.0", none, "b"⟩⟩

/-- The second proxy of the second line is chosen. -/
def proxyChoice : Choice :=
  ⟨.proxy, ⟨"4.2.5", none, "r"⟩⟩

/-- With the engine first the proxy that was chosen stays. -/
theorem choices_in_any_order_engineFirst :
    let first := (Session.start twoLineCatalog .install .standard).1
    ([proxyChoice, engineChoice].map (·.component)).Nodup ∧
      twoLineCatalog.HasAll [proxyChoice, engineChoice] ∧
      [engineChoice, proxyChoice].Perm [proxyChoice, engineChoice] ∧
      (first.afterChoices [engineChoice, proxyChoice]).selection.get? .proxy =
        some secondProxy := by
  intro first
  have hdiff : ([proxyChoice, engineChoice].map (·.component)).Nodup := by decide
  have hall : twoLineCatalog.HasAll [proxyChoice, engineChoice] := by
    intro choice hmem
    rw [← Option.isSome_iff_exists]
    revert choice
    decide +kernel
  have hperm : [engineChoice, proxyChoice].Perm [proxyChoice, engineChoice] := .swap _ _ _
  have hcatalog : first.catalog = twoLineCatalog := by rfl
  obtain ⟨-, -, hheld, -⟩ := choices_in_any_order (s := first) hdiff hall hperm
  refine ⟨hdiff, hall, hperm, ?_⟩
  -- The engine comes first, so it does not replace the proxy.
  have hproxy := hheld proxyChoice (by decide) fun _ _ hreplaces =>
    absurd hreplaces.sublist (by decide)
  exact hproxy.trans (by decide +kernel)

/-- An engine that is chosen after a proxy may replace it although it fits, so that the order of two
choices matters and the proxy is not the one that was chosen. -/
theorem choices_order_matters :
    let first := (Session.start twoLineCatalog .install .standard).1
    Catalog.normalize .standard twoLineOffers = .ok twoLineCatalog ∧
      ([proxyChoice, engineChoice].map (·.component)).Nodup ∧
      twoLineCatalog.find? proxyChoice.component proxyChoice.key = some secondProxy ∧
      (twoLineCatalog.find? engineChoice.component engineChoice.key).isSome = true ∧
      (first.afterChoices [proxyChoice, engineChoice]).selection.get? .proxy = some firstProxy ∧
      (first.afterChoices [engineChoice, proxyChoice]).selection.get? .proxy = some secondProxy ∧
      (first.afterChoices [proxyChoice, engineChoice]).selection ≠
        (first.afterChoices [engineChoice, proxyChoice]).selection := by
  refine ⟨by rfl, by decide, by decide +kernel, by decide +kernel, by decide +kernel,
    by decide +kernel, by decide +kernel⟩

end Session

end Rollout
