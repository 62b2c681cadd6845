import Rollout.Proofs.Catalog.Lookup
import Rollout.Proofs.Session.Run

/-!
# The proxy follows the engine

The proxy is looked for again only when the marks of the engine change, and if none fits it stays as
it was, so it depends on the engines that were chosen before. Even so it is the first in the catalog
that fits the engine, whenever there is one that fits, unless the user has picked a proxy and no
engine has brought its own since (`ProxyPicked`). For an engine with the marks of the one before it
this is so because the search depends on the marks alone, and a proxy that was left behind is
replaced when an engine comes that has one.

So of a run without picks of a proxy only the last choice for each component counts
(`Session.get?_after_eq`).
-/

namespace Rollout

namespace Session

/-! ## Picks -/

/-- The key by which a turn has chosen an artifact of a component, if it has. -/
def Turn.pick? (t : Turn) (c : Component) : Option Key :=
  match t.action, t.answer with
  | .select d key, .selected _ => if d = c then some key else none
  | _, _ => none

/-- The last key by which an artifact of a component was chosen, if any was. -/
def lastPick (turns : List Turn) (c : Component) : Option Key :=
  (turns.filterMap (·.pick? c)).getLast?

/-- In this turn an engine was chosen and brought its proxy. -/
def Turn.BringsProxy (t : Turn) : Prop :=
  (t.pick? .core).isSome ∧ ∃ proxy, t.answer = .selected (.resolved proxy)

/-- A proxy was picked, and no engine has brought its own since. -/
def ProxyPicked (turns : List Turn) : Prop :=
  ∃ earlier pick later, turns = earlier ++ pick :: later ∧ (pick.pick? .proxy).isSome ∧
    ∀ t ∈ later, ¬ t.BringsProxy

/-- A later pick takes the place of the earlier ones. -/
theorem lastPick_concat (turns : List Turn) (t : Turn) (c : Component) :
    lastPick (turns ++ [t]) c = (t.pick? c).or (lastPick turns c) := by
  unfold lastPick
  rw [List.filterMap_append]
  cases hpick : t.pick? c with
  | none => simp [hpick]
  | some key => simp [hpick]

/-- A pick of a proxy is in force at once. -/
theorem proxyPicked_of_pick (turns : List Turn) {t : Turn} (h : (t.pick? .proxy).isSome) :
    ProxyPicked (turns ++ [t]) :=
  ⟨turns, t, [], rfl, h, fun _ hmem => nomatch hmem⟩

/-- A pick of a proxy stays in force until an engine brings its own. -/
theorem ProxyPicked.concat {turns : List Turn} {t : Turn} (h : ProxyPicked turns)
    (ht : ¬ t.BringsProxy) : ProxyPicked (turns ++ [t]) := by
  obtain ⟨earlier, pick, later, rfl, hpick, hlater⟩ := h
  refine ⟨earlier, pick, later ++ [t], by simp, hpick, fun u hu => ?_⟩
  rcases List.mem_append.1 hu with hu | hu
  · exact hlater u hu
  · rw [List.mem_singleton.1 hu]
    exact ht

/-- Without a pick of a proxy none is in force. -/
theorem not_proxyPicked {turns : List Turn} (h : ∀ t ∈ turns, t.pick? .proxy = none) :
    ¬ ProxyPicked turns := by
  rintro ⟨earlier, pick, later, rfl, hpick, -⟩
  have hnone := h pick (by simp)
  rw [hnone] at hpick
  contradiction

/-- The pick of a turn in which an artifact was chosen. -/
theorem pick?_turn_of_perform {s s' : Session} {c : Component} {key : Key}
    {outcome : ProxyOutcome} {events : List Event}
    (h : s.perform (.select c key) = (s', .selected outcome, events)) (d : Component) :
    (s.turn (.select c key)).pick? d = if c = d then some key else none := by
  unfold turn Turn.pick?
  rw [h]

/-- A turn in which nothing was chosen has no pick. -/
theorem pick?_turn_of_not_selected {s : Session} {action : Action}
    (h : ∀ outcome, (s.perform action).2.1 ≠ .selected outcome) (d : Component) :
    (s.turn action).pick? d = none := by
  unfold turn Turn.pick?
  dsimp only
  split
  · next heq => exact absurd heq (h _)
  · rfl

/-! ## The invariant -/

/-- Unless a picked proxy is in force, the proxy is the one for the engine, if there is one. -/
structure Following (catalog : Catalog) (turns : List Turn) (s : Session) : Prop where
  catalog_eq : s.catalog = catalog
  proxy_eq : ∀ {core proxy : Artifact}, s.selection.get? .core = some core →
    ¬ ProxyPicked turns → catalog.proxyFor? core = some proxy →
    s.selection.get? .proxy = some proxy

namespace Following

variable {catalog : Catalog} {turns : List Turn} {s : Session}

/-- A new session has the proxy for its engine. -/
theorem start (catalog : Catalog) (flow : Flow) (policy : ResolverPolicy) :
    Following catalog [] (Session.start catalog flow policy).1 := by
  rw [start_fst]
  refine ⟨rfl, ?_⟩
  intro core proxy hcore _ hfound
  -- The engine of a new session is the recommended one, and its proxy comes before a
  -- recommendation.
  have hrecommended : recommend catalog policy.preferredLine .core = some core := by
    rw [← get?_seeded_of_ne catalog policy (by decide)]
    exact hcore
  show (seeded catalog policy).get? .proxy = some proxy
  rw [get?_seeded_proxy, hrecommended, Option.bind_some, hfound, Option.some_or]

/-- A turn that leaves engine and proxy alone, picks no proxy and brings none keeps the
invariant. -/
theorem of_same {s' : Session} {t : Turn} (h : Following catalog turns s)
    (hcatalog : s'.catalog = s.catalog)
    (hcore : s'.selection.get? .core = s.selection.get? .core)
    (hproxy : s'.selection.get? .proxy = s.selection.get? .proxy) (ht : ¬ t.BringsProxy) :
    Following catalog (turns ++ [t]) s' := by
  refine ⟨hcatalog.trans h.catalog_eq, ?_⟩
  intro core proxy hget hpicked hfound
  rw [hproxy]
  exact h.proxy_eq (hcore ▸ hget) (fun hbefore => hpicked (hbefore.concat ht)) hfound

/-- The choice of an engine keeps the invariant, whatever becomes of the proxy. -/
theorem choosing_core {core : Artifact} {t : Turn} (h : Following catalog turns s)
    (ht : t.answer = .selected (proxyOutcome s.catalog s.selection core)) :
    Following catalog (turns ++ [t]) { s with selection := s.choosing .core core } := by
  refine ⟨h.catalog_eq, ?_⟩
  intro core' proxy hcore hpicked hfound
  -- The engine is the one that was chosen just now.
  have hsame : core = core' := by
    rw [get?_choosing_self] at hcore
    exact Option.some.inj hcore
  subst hsame
  show (s.choosing .core core).get? .proxy = some proxy
  rw [get?_choosing_proxy]
  rcases proxyOutcome_cases s.catalog s.selection core with
    ⟨resolved, -, hresolved, hout⟩ | ⟨-, hnone, -⟩ | ⟨hneeds, hout⟩
  · rw [hout]
    -- The proxy that was found is the one for this engine.
    rw [h.catalog_eq, hfound] at hresolved
    exact hresolved.symm
  · -- None was found, but there is one.
    rw [h.catalog_eq, hfound] at hnone
    contradiction
  · -- The engine before had the same marks, hence the same proxy, and this turn brings none.
    obtain ⟨old, hold, hmarks⟩ := needsProxy_eq_false_iff.1 hneeds
    have hbrings : ¬ t.BringsProxy := by
      rintro ⟨-, proxy, hanswer⟩
      rw [ht, hout] at hanswer
      cases hanswer
    rw [hout]
    refine h.proxy_eq hold (fun hbefore => hpicked (hbefore.concat hbrings)) ?_
    rw [catalog.proxyFor?_congr hmarks]
    exact hfound

/-- Every action keeps the invariant. -/
theorem perform (h : Following catalog turns s) (action : Action) :
    Following catalog (turns ++ [s.turn action]) (s.perform action).1 := by
  rcases s.perform_cases action with
    ⟨c, key, a, rfl, -, hperform⟩ | ⟨hanswer, -, hcatalog, -, -, hselection⟩
  · have hpick := pick?_turn_of_perform hperform
    have hturn : (s.turn (.select c key)).answer = .selected (s.outcomeOf c a) := by
      unfold turn
      rw [hperform]
    rw [hperform]
    -- Choosing the engine is the case above; choosing the proxy picks it; any other choice leaves
    -- both alone.
    by_cases hcore : c = .core
    · subst hcore
      exact h.choosing_core hturn
    · by_cases hproxy : c = .proxy
      · -- A proxy was picked, so nothing is claimed.
        have hpicked := proxyPicked_of_pick turns (t := s.turn (.select c key))
          (by rw [hpick, if_pos hproxy]; rfl)
        exact ⟨h.catalog_eq, fun _ hnot _ => absurd hpicked hnot⟩
      · have hbrings : ¬ (s.turn (.select c key)).BringsProxy := by
          rintro ⟨hsome, -⟩
          rw [hpick, if_neg hcore] at hsome
          contradiction
        exact h.of_same rfl (get?_choosing_of_ne s a hcore fun hc => hcore hc.1)
          (get?_choosing_of_ne s a hproxy fun hc => hcore hc.1) hbrings
  · have hbrings : ¬ (s.turn action).BringsProxy := by
      rintro ⟨hsome, -⟩
      rw [pick?_turn_of_not_selected hanswer] at hsome
      contradiction
    exact h.of_same hcatalog (by rw [hselection]) (by rw [hselection]) hbrings

/-- Every state that is reached satisfies the invariant. -/
theorem after (catalog : Catalog) (flow : Flow) (policy : ResolverPolicy)
    (actions : List Action) :
    Following catalog ((Session.start catalog flow policy).1.history actions)
      ((Session.start catalog flow policy).1.after actions) :=
  run_induction (start catalog flow policy) (fun _ _ a h => h.perform a) actions

end Following

/-! ## Only the last picks count -/

/-- What is chosen for a component other than the proxy after some turns: what was picked last, or
else what was recommended. -/
def chosenAfter (catalog : Catalog) (policy : ResolverPolicy) (turns : List Turn)
    (c : Component) : Option Artifact :=
  match lastPick turns c with
  | some key => catalog.find? c key
  | none => recommend catalog policy.preferredLine c

/-- Every component but the proxy holds what was picked for it last. -/
structure HoldsPicks (catalog : Catalog) (policy : ResolverPolicy) (turns : List Turn)
    (s : Session) : Prop where
  catalog_eq : s.catalog = catalog
  get?_eq : ∀ {c : Component}, c ≠ .proxy →
    s.selection.get? c = chosenAfter catalog policy turns c

/-- Every action keeps the last picks. -/
theorem HoldsPicks.perform {catalog : Catalog} {policy : ResolverPolicy} {turns : List Turn}
    {s : Session} (h : HoldsPicks catalog policy turns s) (action : Action) :
    HoldsPicks catalog policy (turns ++ [s.turn action]) (s.perform action).1 := by
  rcases s.perform_cases action with
    ⟨c, key, a, rfl, hfind, hperform⟩ | ⟨hanswer, -, hcatalog, -, -, hselection⟩
  · have hpick := pick?_turn_of_perform hperform
    rw [hperform]
    refine ⟨h.catalog_eq, ?_⟩
    intro d hd
    show (s.choosing c a).get? d = _
    unfold chosenAfter
    rw [lastPick_concat, hpick]
    -- The component of the choice holds what was picked now, and any other what it held.
    by_cases hc : c = d
    · subst hc
      rw [get?_choosing_self, if_pos rfl, Option.some_or, ← h.catalog_eq]
      exact (find_eq_ok_iff.1 hfind).symm
    · rw [get?_choosing_of_ne s a hc fun hproxy => hd hproxy.2, if_neg hc, Option.none_or]
      exact h.get?_eq hd
  · -- Nothing was picked, and the selection is the same.
    refine ⟨hcatalog.trans h.catalog_eq, ?_⟩
    intro d hd
    unfold chosenAfter
    rw [lastPick_concat, pick?_turn_of_not_selected hanswer, Option.none_or, hselection]
    exact h.get?_eq hd

/-- In every state that is reached, a component other than the proxy holds what was picked for it
last, or else what was recommended. -/
theorem get?_after_eq (catalog : Catalog) (flow : Flow) (policy : ResolverPolicy)
    (actions : List Action) {c : Component} (hc : c ≠ .proxy) :
    ((Session.start catalog flow policy).1.after actions).selection.get? c =
      chosenAfter catalog policy ((Session.start catalog flow policy).1.history actions) c := by
  -- At the start nothing was picked, and what is chosen was recommended.
  have hstart : HoldsPicks catalog policy [] (Session.start catalog flow policy).1 := by
    rw [start_fst]
    exact ⟨rfl, fun hd => get?_seeded_of_ne catalog policy hd⟩
  have hafter := run_induction (P := HoldsPicks catalog policy) hstart
    (fun _ _ a h => h.perform a) actions
  exact hafter.get?_eq hc

/-- Keys with the same text are the same pick. -/
theorem chosenAfter_congr {catalog : Catalog} {policy : ResolverPolicy} {turns turns' : List Turn}
    {c : Component}
    (h : (lastPick turns c).map Key.text = (lastPick turns' c).map Key.text) :
    chosenAfter catalog policy turns c = chosenAfter catalog policy turns' c := by
  unfold chosenAfter
  cases hlast : lastPick turns c with
  | none =>
    cases hlast' : lastPick turns' c with
    | none => rfl
    | some key' => simp [hlast, hlast'] at h
  | some key =>
    cases hlast' : lastPick turns' c with
    | none => simp [hlast, hlast'] at h
    | some key' =>
      rw [hlast, hlast'] at h
      exact catalog.find?_congr c (Option.some.inj h)

/-! ## What this means for the user -/

/-- In every state that is reached with no picked proxy in force, the proxy is the one that is found
for the engine, if any is compatible with it. -/
theorem get?_proxy_after (catalog : Catalog) (flow : Flow) (policy : ResolverPolicy)
    (actions : List Action) {core : Artifact}
    (hcore : ((Session.start catalog flow policy).1.after actions).selection.get? .core = some core)
    (hpicked : ¬ ProxyPicked ((Session.start catalog flow policy).1.history actions))
    (hfits : ∃ proxy ∈ catalog.artifacts .proxy, core.Compatible proxy) :
    ∃ proxy, catalog.proxyFor? core = some proxy ∧
      ((Session.start catalog flow policy).1.after actions).selection.get? .proxy = some proxy := by
  obtain ⟨candidate, hmem, hcompatible⟩ := hfits
  obtain ⟨proxy, hfound⟩ := Catalog.exists_proxyFor? hmem hcompatible
  have hfollowing := Following.after catalog flow policy actions
  exact ⟨proxy, hfound, hfollowing.proxy_eq hcore hpicked hfound⟩

/-- Unless a picked proxy is in force, the proxy is the first in the catalog that is compatible with
the engine, if there is one. So two runs from a new session in which no proxy is picked, and the
same is picked last for each other component, end with the same selection if there is a proxy for
the engine at the end, whatever engines came in between. -/
theorem proxy_follows_core (catalog : Catalog) (flow : Flow) (policy : ResolverPolicy) :
    let first := (Session.start catalog flow policy).1
    (∀ actions core, (first.after actions).selection.get? .core = some core →
      ¬ ProxyPicked (first.history actions) →
      (∃ proxy ∈ catalog.artifacts .proxy, core.Compatible proxy) →
      ∃ before proxy rest, catalog.artifacts .proxy = before ++ proxy :: rest ∧
        core.Compatible proxy ∧ (∀ other ∈ before, ¬ core.Compatible other) ∧
        (first.after actions).selection.get? .proxy = some proxy) ∧
    (∀ actions actions' core,
      (∀ t ∈ first.history actions ++ first.history actions', t.pick? .proxy = none) →
      (∀ c, c ≠ .proxy → (lastPick (first.history actions) c).map Key.text =
        (lastPick (first.history actions') c).map Key.text) →
      (first.after actions).selection.get? .core = some core →
      (∃ proxy ∈ catalog.artifacts .proxy, core.Compatible proxy) →
      (first.after actions).selection = (first.after actions').selection) := by
  intro first
  refine ⟨?_, ?_⟩
  · -- In one run the proxy is the first that is compatible.
    intro actions core hcore hpicked hfits
    obtain ⟨proxy, hfound, hproxy⟩ :=
      get?_proxy_after catalog flow policy actions hcore hpicked hfits
    obtain ⟨hcompatible, before, rest, hlist, hbefore⟩ := Catalog.proxyFor?_eq_some_iff.1 hfound
    exact ⟨before, proxy, rest, hlist, hcompatible, hbefore, hproxy⟩
  · intro actions actions' core hpicks hlast hcore hfits
    -- In two runs the last picks decide about all but the proxy.
    have hsame : ∀ c, c ≠ .proxy → (first.after actions).selection.get? c =
        (first.after actions').selection.get? c := by
      intro c hc
      calc (first.after actions).selection.get? c
          = chosenAfter catalog policy (first.history actions) c :=
            get?_after_eq catalog flow policy actions hc
        _ = chosenAfter catalog policy (first.history actions') c := chosenAfter_congr (hlast c hc)
        _ = (first.after actions').selection.get? c :=
            (get?_after_eq catalog flow policy actions' hc).symm
    -- Both runs end with the same engine, and so with the same proxy.
    have hcore' : (first.after actions').selection.get? .core = some core :=
      (hsame .core (by decide)).symm.trans hcore
    have hnone : ¬ ProxyPicked (first.history actions) :=
      not_proxyPicked fun t ht => hpicks t (List.mem_append_left _ ht)
    have hnone' : ¬ ProxyPicked (first.history actions') :=
      not_proxyPicked fun t ht => hpicks t (List.mem_append_right _ ht)
    obtain ⟨proxy, hfound, hproxy⟩ := get?_proxy_after catalog flow policy actions hcore hnone hfits
    obtain ⟨proxy', hfound', hproxy'⟩ :=
      get?_proxy_after catalog flow policy actions' hcore' hnone' hfits
    apply Selection.ext_get?
    intro c
    by_cases hc : c = .proxy
    · rw [hc, hproxy, hproxy', ← hfound, hfound']
    · exact hsame c hc

/-- A build of the community edition. -/
def communityBuild (version checksum : String) : Artifact :=
  ⟨version, some "1", checksum, .community, 0, .remote⟩

/-- Three engines, of which the second has no proxy that fits it and the third shares its proxies
with the first. -/
def roundTripCatalog : Catalog :=
  (Catalog.empty.insert .core
    [communityBuild "4.1.0" "a", communityBuild "5.1.0" "b", communityBuild "4.1.9" "c"]).insert
    .proxy [communityBuild "4.2.1" "p", communityBuild "4.1.9" "q", communityBuild "4.1.2" "r"]

/-- The engine of another line is chosen, and then the first one again. -/
def roundTrip : List Action :=
  [.select .core ⟨"5.1.0", some "1", "b"⟩, .select .core ⟨"4.1.9", some "1", "c"⟩,
    .select .core ⟨"4.1.0", some "1", "a"⟩]

/-- After the way there and back the proxy is the first one that fits, and the selection is what it
would be without the way. -/
theorem proxy_follows_core_roundTrip :
    let first := (Session.start roundTripCatalog .install .standard).1
    (∃ before proxy rest, roundTripCatalog.artifacts .proxy = before ++ proxy :: rest ∧
      (communityBuild "4.1.0" "a").Compatible proxy ∧
      (∀ other ∈ before, ¬ (communityBuild "4.1.0" "a").Compatible other) ∧
      (first.after roundTrip).selection.get? .proxy = some proxy) ∧
    (first.after roundTrip).selection =
      (first.after [.select .core ⟨"4.1.0", some "1", "a"⟩]).selection := by
  intro first
  obtain ⟨hproxy, hselection⟩ := proxy_follows_core roundTripCatalog .install .standard
  have hcore : (first.after roundTrip).selection.get? .core =
      some (communityBuild "4.1.0" "a") := by
    decide +kernel
  have hfits : ∃ proxy ∈ roundTripCatalog.artifacts .proxy,
      (communityBuild "4.1.0" "a").Compatible proxy :=
    ⟨communityBuild "4.1.9" "q", by decide +kernel, by decide +kernel⟩
  have hpicked : ∀ t ∈ first.history roundTrip, t.pick? .proxy = none := by decide +kernel
  refine ⟨hproxy _ _ hcore (not_proxyPicked hpicked) hfits,
    hselection _ _ _ (by decide +kernel) ?_ hcore hfits⟩
  intro c _
  cases c <;> decide +kernel

end Session

end Rollout
