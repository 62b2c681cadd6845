import Rollout.Compatibility

/-!
# What a change of the engine does

`changeCore` sets the engine and, where its marks differ from those of the engine before it, the
first proxy that fits. The statements here say what it does to each component and when each outcome
arises, so that a proof about sessions need not look into it. That the search for a proxy is left
out when the marks stay is harmless because the search depends on the marks alone
(`Catalog.proxyFor?_congr`).

`changeCore_effect` joins them for every selection, also one that no session reaches. An engine with
the marks of the one that is chosen only takes its place (`changeCore_of_compatible`), so a change
that is made again does nothing, and no row of such engines moves the proxy
(`get?_proxy_afterCores`).
-/

namespace Rollout

/-! ## Marks -/

/-- A proxy can stand in front of an engine: the editions are the same, and so are the characters of
the versions at positions 0 and 2. -/
def Artifact.Compatible (core proxy : Artifact) : Prop :=
  core.edition = proxy.edition ∧ core.versionChar? 0 = proxy.versionChar? 0 ∧
    core.versionChar? 2 = proxy.versionChar? 2

instance (core proxy : Artifact) : Decidable (core.Compatible proxy) :=
  inferInstanceAs (Decidable (_ ∧ _ ∧ _))

/-- Artifacts have the same marks if edition and characters are the same. -/
theorem Artifact.marks_eq_iff {a b : Artifact} : a.marks = b.marks ↔ a.Compatible b := by
  unfold marks Compatible
  rw [Marks.mk.injEq]

/-- An artifact can stand in front of one like itself. -/
theorem Artifact.Compatible.refl (a : Artifact) : a.Compatible a :=
  ⟨rfl, rfl, rfl⟩

/-- Of two artifacts each can stand in front of the other or neither. -/
theorem Artifact.Compatible.symm {a b : Artifact} (h : a.Compatible b) : b.Compatible a :=
  marks_eq_iff.1 (marks_eq_iff.2 h).symm

/-- What is compatible with the same artifact is compatible. -/
theorem Artifact.Compatible.trans {a b c : Artifact} (hab : a.Compatible b)
    (hbc : b.Compatible c) : a.Compatible c :=
  marks_eq_iff.1 ((marks_eq_iff.2 hab).trans (marks_eq_iff.2 hbc))

/-- Comparing marks decides compatibility. -/
theorem Artifact.fits_iff {core proxy : Artifact} :
    proxy.fits core = true ↔ core.Compatible proxy := by
  unfold fits
  rw [decide_eq_true_eq, marks_eq_iff]

/-- No proxy is asked for exactly if there was an engine with the same marks. -/
theorem needsProxy_eq_false_iff {previous : Option Artifact} {core : Artifact} :
    needsProxy previous core = false ↔ ∃ old, previous = some old ∧ old.marks = core.marks := by
  simp [needsProxy]

/-- The proxy for an engine depends on its marks alone. -/
theorem Catalog.proxyFor?_congr (catalog : Catalog) {core core' : Artifact}
    (h : core.marks = core'.marks) : catalog.proxyFor? core = catalog.proxyFor? core' := by
  have hfits : (fun proxy : Artifact => proxy.fits core) = fun proxy => proxy.fits core' := by
    funext proxy
    unfold Artifact.fits
    rw [h]
  unfold Catalog.proxyFor?
  rw [hfits]

/-- The proxy for an engine is the first in the catalog that is compatible with it. -/
theorem Catalog.proxyFor?_eq_some_iff {catalog : Catalog} {core proxy : Artifact} :
    catalog.proxyFor? core = some proxy ↔
      core.Compatible proxy ∧ ∃ before after, catalog.artifacts .proxy = before ++ proxy :: after ∧
        ∀ other ∈ before, ¬ core.Compatible other := by
  unfold Catalog.proxyFor?
  rw [List.find?_eq_some_iff_append]
  simp only [← Artifact.fits_iff, Bool.not_eq_true', Bool.not_eq_true]

/-- A proxy is found if any is compatible. -/
theorem Catalog.exists_proxyFor? {catalog : Catalog} {core proxy : Artifact}
    (hmem : proxy ∈ catalog.artifacts .proxy) (hfits : core.Compatible proxy) :
    ∃ first, catalog.proxyFor? core = some first := by
  rw [← Option.isSome_iff_exists]
  unfold Catalog.proxyFor?
  rw [List.find?_isSome]
  exact ⟨proxy, hmem, Artifact.fits_iff.2 hfits⟩

/-- No proxy is found exactly if none is compatible. -/
theorem Catalog.proxyFor?_eq_none_iff {catalog : Catalog} {core : Artifact} :
    catalog.proxyFor? core = none ↔
      ∀ proxy ∈ catalog.artifacts .proxy, ¬ core.Compatible proxy := by
  unfold Catalog.proxyFor?
  rw [List.find?_eq_none]
  simp only [Artifact.fits_iff]

/-- The proxy for an engine is one of the catalog. -/
theorem Catalog.mem_of_proxyFor? {catalog : Catalog} {core proxy : Artifact}
    (h : catalog.proxyFor? core = some proxy) : proxy ∈ catalog.artifacts .proxy :=
  List.mem_of_find?_eq_some h

/-! ## Outcomes -/

/-- When each outcome arises: the marks decide whether a proxy is asked for, and the catalog whether
there is one. -/
theorem proxyOutcome_cases (catalog : Catalog) (selection : Selection) (core : Artifact) :
    (∃ proxy, needsProxy (selection.get? .core) core = true ∧
      catalog.proxyFor? core = some proxy ∧
      proxyOutcome catalog selection core = .resolved proxy) ∨
    (needsProxy (selection.get? .core) core = true ∧ catalog.proxyFor? core = none ∧
      proxyOutcome catalog selection core = .noCandidate) ∨
    (needsProxy (selection.get? .core) core = false ∧
      proxyOutcome catalog selection core = .unchanged) := by
  unfold proxyOutcome
  cases hneeds : needsProxy (selection.get? .core) core with
  | true => cases hfound : catalog.proxyFor? core <;> simp
  | false => simp

/-- An engine asks for a proxy: none is chosen, or the one that is chosen has another edition or
another character at one of the two positions. -/
def Selection.AsksForProxy (selection : Selection) (core : Artifact) : Prop :=
  ∀ old, selection.get? .core = some old → ¬ old.Compatible core

section Outcome

variable {catalog : Catalog} {selection : Selection} {core : Artifact}

/-- The marks are compared to decide whether a proxy is asked for. -/
theorem needsProxy_eq_true_iff :
    needsProxy (selection.get? .core) core = true ↔ selection.AsksForProxy core := by
  rw [← Bool.not_eq_false, needsProxy_eq_false_iff]
  simp only [Artifact.marks_eq_iff, not_exists, not_and]
  rfl

/-- A proxy is found if one is asked for and the catalog has one. -/
theorem proxyOutcome_eq_resolved_iff {proxy : Artifact} :
    proxyOutcome catalog selection core = .resolved proxy ↔
      selection.AsksForProxy core ∧ catalog.proxyFor? core = some proxy := by
  rw [← needsProxy_eq_true_iff]
  rcases proxyOutcome_cases catalog selection core with
    ⟨resolved, hneeds, hfound, hout⟩ | ⟨-, hnone, hout⟩ | ⟨hneeds, hout⟩
  · rw [hout, hneeds, hfound]
    simp
  · simp [hout, hnone]
  · simp [hout, hneeds]

/-- There is no candidate if a proxy is asked for and the catalog has none. -/
theorem proxyOutcome_eq_noCandidate_iff :
    proxyOutcome catalog selection core = .noCandidate ↔
      selection.AsksForProxy core ∧ catalog.proxyFor? core = none := by
  rw [← needsProxy_eq_true_iff]
  rcases proxyOutcome_cases catalog selection core with
    ⟨resolved, -, hfound, hout⟩ | ⟨hneeds, hnone, hout⟩ | ⟨hneeds, hout⟩
  · simp [hout, hfound]
  · simp [hout, hneeds, hnone]
  · simp [hout, hneeds]

/-- Nothing changes if the engine that was chosen has the same marks. -/
theorem proxyOutcome_eq_unchanged_iff :
    proxyOutcome catalog selection core = .unchanged ↔
      ∃ old, selection.get? .core = some old ∧ old.Compatible core := by
  have hsame : needsProxy (selection.get? .core) core = false ↔
      ∃ old, selection.get? .core = some old ∧ old.Compatible core := by
    rw [needsProxy_eq_false_iff]
    simp only [Artifact.marks_eq_iff]
  rw [← hsame]
  rcases proxyOutcome_cases catalog selection core with
    ⟨resolved, hneeds, -, hout⟩ | ⟨hneeds, -, hout⟩ | ⟨hneeds, hout⟩
  · simp [hout, hneeds]
  · simp [hout, hneeds]
  · simp [hout, hneeds]

end Outcome

/-! ## The selection after the change -/

/-- The proxy that an outcome leaves, when another was there before it. -/
def ProxyOutcome.proxyAfter (before : Option Artifact) : ProxyOutcome → Option Artifact
  | resolved proxy => some proxy
  | unchanged | noCandidate => before

/-- The outcome is the one that the selection and the catalog give. -/
@[simp] theorem changeCore_snd (catalog : Catalog) (selection : Selection) (core : Artifact) :
    (changeCore catalog selection core).2 = proxyOutcome catalog selection core := by
  unfold changeCore
  cases h : proxyOutcome catalog selection core <;> rfl

/-- The engine is chosen, whatever becomes of the proxy. -/
@[simp] theorem get?_changeCore_core (catalog : Catalog) (selection : Selection)
    (core : Artifact) : (changeCore catalog selection core).1.get? .core = some core := by
  unfold changeCore
  cases h : proxyOutcome catalog selection core <;> simp

/-- The proxy is the one that the outcome leaves. -/
@[simp] theorem get?_changeCore_proxy (catalog : Catalog) (selection : Selection)
    (core : Artifact) :
    (changeCore catalog selection core).1.get? .proxy =
      (proxyOutcome catalog selection core).proxyAfter (selection.get? .proxy) := by
  unfold changeCore
  cases h : proxyOutcome catalog selection core <;> simp [ProxyOutcome.proxyAfter]

/-- Only the engine and the proxy can change. -/
theorem get?_changeCore_of_ne (catalog : Catalog) (selection : Selection) (core : Artifact)
    {c : Component} (hcore : c ≠ .core) (hproxy : c ≠ .proxy) :
    (changeCore catalog selection core).1.get? c = selection.get? c := by
  unfold changeCore
  cases h : proxyOutcome catalog selection core <;> simp [hcore.symm, hproxy.symm]

/-! ## Engines with the same marks -/

/-- To choose what is chosen already changes nothing. -/
theorem Selection.set_eq_self {selection : Selection} {c : Component} {a : Artifact}
    (h : selection.get? c = some a) : selection.set c a = selection := by
  apply Selection.ext_get?
  intro d
  by_cases hd : c = d
  · subst hd
    rw [get?_set_self, h]
  · exact get?_set_of_ne selection a hd

/-- An engine with the marks of the one that is chosen takes its place, and that is all. -/
theorem changeCore_of_compatible (catalog : Catalog) {selection : Selection} {old core : Artifact}
    (hold : selection.get? .core = some old) (hsame : old.Compatible core) :
    changeCore catalog selection core = (selection.set .core core, .unchanged) := by
  have hout : proxyOutcome catalog selection core = .unchanged :=
    proxyOutcome_eq_unchanged_iff.2 ⟨old, hold, hsame⟩
  unfold changeCore
  rw [hout]

/-- The selection after engines have been chosen one after another. -/
def Selection.afterCores (catalog : Catalog) (selection : Selection) (cores : List Artifact) :
    Selection :=
  cores.foldl (fun selection core => (changeCore catalog selection core).1) selection

/-- As long as the marks stay, no change moves the proxy. -/
theorem get?_proxy_afterCores (catalog : Catalog) {selection : Selection} {old : Artifact}
    (hold : selection.get? .core = some old) {cores : List Artifact}
    (hsame : ∀ core ∈ cores, old.Compatible core) :
    (selection.afterCores catalog cores).get? .proxy = selection.get? .proxy := by
  -- The engine that is chosen last takes the part of the old one, whose marks it has.
  induction cores generalizing selection old with
  | nil => rfl
  | cons core cores ih =>
    obtain ⟨hfirst, hrest⟩ := List.forall_mem_cons.1 hsame
    have hchanged := changeCore_of_compatible catalog hold hfirst
    have hnext : ∀ next ∈ cores, core.Compatible next := fun next hmem =>
      hfirst.symm.trans (hrest next hmem)
    calc (selection.afterCores catalog (core :: cores)).get? .proxy
        = ((changeCore catalog selection core).1.afterCores catalog cores).get? .proxy := rfl
      _ = ((selection.set .core core).afterCores catalog cores).get? .proxy := by rw [hchanged]
      _ = (selection.set .core core).get? .proxy := ih (Selection.get?_set_self _ _ _) hnext
      _ = selection.get? .proxy := Selection.get?_set_of_ne _ _ (by decide)

/-! ## The effect as a whole -/

/-- A change sets the engine and leaves all but engine and proxy alone. It resolves to a proxy
exactly if one is asked for and this is the first that is compatible, and then that proxy is chosen;
it has no candidate exactly if one is asked for and none is compatible; otherwise nothing changes,
and in these two cases the proxy stays. To make the change again does nothing, and no engines with
the same edition and characters move the proxy afterwards. -/
theorem changeCore_effect (catalog : Catalog) (selection : Selection) (core : Artifact) :
    let after := (changeCore catalog selection core).1
    let outcome := (changeCore catalog selection core).2
    (after.get? .core = some core ∧
      ∀ c, c ≠ .core → c ≠ .proxy → after.get? c = selection.get? c) ∧
    (∀ proxy, outcome = .resolved proxy ↔ selection.AsksForProxy core ∧ core.Compatible proxy ∧
      ∃ before rest, catalog.artifacts .proxy = before ++ proxy :: rest ∧
        ∀ other ∈ before, ¬ core.Compatible other) ∧
    (∀ proxy, outcome = .resolved proxy → after.get? .proxy = some proxy) ∧
    (outcome = .noCandidate ↔ selection.AsksForProxy core ∧
      ∀ proxy ∈ catalog.artifacts .proxy, ¬ core.Compatible proxy) ∧
    (outcome = .unchanged ↔ ¬ selection.AsksForProxy core) ∧
    (outcome = .noCandidate ∨ outcome = .unchanged →
      after.get? .proxy = selection.get? .proxy) ∧
    changeCore catalog after core = (after, .unchanged) ∧
    ∀ later, (∀ next ∈ later, core.Compatible next) →
      (after.afterCores catalog later).get? .proxy = after.get? .proxy := by
  intro after outcome
  -- Everything is read off the outcome and the proxy that it leaves.
  have hout : outcome = proxyOutcome catalog selection core := changeCore_snd catalog selection core
  have hcore : after.get? .core = some core := get?_changeCore_core catalog selection core
  have hproxy : after.get? .proxy = outcome.proxyAfter (selection.get? .proxy) := by
    rw [hout]
    exact get?_changeCore_proxy catalog selection core
  refine ⟨⟨hcore, fun c => get?_changeCore_of_ne catalog selection core⟩, ?_, ?_, ?_, ?_, ?_, ?_,
    fun later => get?_proxy_afterCores catalog hcore⟩
  · -- A proxy that is found is the first that is compatible, and it is chosen.
    intro proxy
    rw [hout, proxyOutcome_eq_resolved_iff, Catalog.proxyFor?_eq_some_iff]
  · intro proxy hresolved
    rw [hproxy, hresolved]
    rfl
  · rw [hout, proxyOutcome_eq_noCandidate_iff, Catalog.proxyFor?_eq_none_iff]
  · rw [hout, proxyOutcome_eq_unchanged_iff]
    simp [Selection.AsksForProxy]
  · -- Either of the other outcomes leaves the proxy as it is.
    rintro (hkept | hkept)
    · rw [hproxy, hkept]
      rfl
    · rw [hproxy, hkept]
      rfl
  · -- Made again, the change finds an engine with the same marks.
    rw [changeCore_of_compatible catalog hcore (.refl core), Selection.set_eq_self hcore]

/-- A build of the community edition. -/
def shortBuild (version : String) : Artifact :=
  ⟨version, none, version, .community, 0, .remote⟩

/-- Proxies of which the last three have no third character in their versions. -/
def shortCatalog : Catalog :=
  Catalog.empty.insert .proxy [shortBuild "4.1.0",
    { shortBuild "4" with edition := .commercial }, shortBuild "4.", shortBuild "4"]

/-- An engine without a third character takes the first proxy of its edition that has none either,
and keeps it when another such engine is chosen. -/
theorem changeCore_effect_shortVersion :
    let before := (Selection.empty.set .core (shortBuild "4.1.7")).set .proxy (shortBuild "4.1.0")
    let change := changeCore shortCatalog before (shortBuild "4")
    change.2 = .resolved (shortBuild "4.") ∧
      (∀ next ∈ [shortBuild "4x", shortBuild "4"], (shortBuild "4").Compatible next) ∧
      (change.1.afterCores shortCatalog [shortBuild "4x", shortBuild "4"]).get? .proxy =
        some (shortBuild "4.") := by
  intro before change
  obtain ⟨-, hresolved, hchosen, -, -, -, -, hlater⟩ :=
    changeCore_effect shortCatalog before (shortBuild "4")
  -- The engine before it has a third character, and this one has none.
  have hasks : before.AsksForProxy (shortBuild "4") := by
    intro old hold
    obtain rfl : shortBuild "4.1.7" = old := Option.some.inj hold
    decide
  have hout : change.2 = .resolved (shortBuild "4.") :=
    (hresolved _).2 ⟨hasks, by decide, [shortBuild "4.1.0",
      { shortBuild "4" with edition := .commercial }], [shortBuild "4"], rfl, by decide⟩
  have hsame : ∀ next ∈ [shortBuild "4x", shortBuild "4"], (shortBuild "4").Compatible next := by
    decide
  exact ⟨hout, hsame, (hlater _ hsame).trans (hchosen _ hout)⟩

end Rollout
