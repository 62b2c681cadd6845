import Mathlib.Logic.Relation
import Rollout.Proofs.Catalog.Rejection

/-!
# What a catalog depends on

Of a listing a catalog keeps no more than what it says of each component: the builds of all its
offers in one row, and whether these were no offer, one or several. Listings that agree in this
(`SuppliedAlike`) are normalized to the same catalog or not at all. What stands between the offers
of a component does not count, nor what the offers are called, nor where one ends and the next
begins: all these changes of a listing (`Rearranged`) supply the components alike, and so does any
row of them, forth and back.

Both listings fail or neither, but not always with the same error: the complaint is about the first
build that cannot be read, and which one is the first may depend on how the offers are interleaved.
-/

namespace Rollout.Catalog

open Service

variable {options : Options} {offers offers' offers'' : List Offer}

/-! ## Supplies -/

/-- Both numbers are none, both are one, or both are several. -/
def SameAmount (m n : Nat) : Prop :=
  m = 0 ∧ n = 0 ∨ m = 1 ∧ n = 1 ∨ 2 ≤ m ∧ 2 ≤ n

instance (m n : Nat) : Decidable (SameAmount m n) :=
  inferInstanceAs (Decidable (_ ∨ _))

/-- Two listings say the same of every component. -/
structure SuppliedAlike (options : Options) (offers offers' : List Offer) : Prop where
  /-- In both the component has no offer, or one, or several. -/
  amount : ∀ c, SameAmount (buildsOf options offers c).length (buildsOf options offers' c).length
  /-- Its offers have the same builds, in the same order. -/
  builds : ∀ c, (buildsOf options offers c).flatten = (buildsOf options offers' c).flatten

/-- A listing supplies the components like itself. -/
theorem suppliedAlike_refl (options : Options) (offers : List Offer) :
    SuppliedAlike options offers offers :=
  ⟨fun c => by unfold SameAmount; omega, fun _ => rfl⟩

/-- Of two listings each supplies them like the other. -/
theorem SuppliedAlike.symm (h : SuppliedAlike options offers offers') :
    SuppliedAlike options offers' offers := by
  refine ⟨fun c => ?_, fun c => (h.builds c).symm⟩
  have hamount := h.amount c
  unfold SameAmount at hamount ⊢
  omega

/-- Listings that supply them like the same one supply them alike. -/
theorem SuppliedAlike.trans (h : SuppliedAlike options offers offers')
    (h' : SuppliedAlike options offers' offers'') : SuppliedAlike options offers offers'' := by
  refine ⟨fun c => ?_, fun c => (h.builds c).trans (h'.builds c)⟩
  have hamount := h.amount c
  have hamount' := h'.amount c
  unfold SameAmount at hamount hamount' ⊢
  omega

/-! ## The catalog of a supply -/

/-- What is kept of a component depends on its artifacts in one row, and on whether these come from
several offers. -/
theorem arrange_congr (floor : Option String) {lists lists' : List (List Artifact)}
    (hflatten : lists.flatten = lists'.flatten) (hamount : SameAmount lists.length lists'.length) :
    arrange floor lists = arrange floor lists' := by
  have hmany : 1 < lists.length ↔ 1 < lists'.length := by
    unfold SameAmount at hamount
    omega
  unfold arrange
  simp only [hflatten, hmany]

/-- Listings that supply the components alike have the same catalog, if they have one. -/
theorem eq_of_suppliedAlike (h : SuppliedAlike options offers offers') {catalog catalog' : Catalog}
    (hok : normalize options offers = .ok catalog)
    (hok' : normalize options offers' = .ok catalog') : catalog = catalog' := by
  refine Catalog.ext (ByComponent.ext_get fun c => ?_)
  obtain ⟨lists, hread, hlist⟩ := normalize_eq_ok hok c
  obtain ⟨lists', hread', hlist'⟩ := normalize_eq_ok hok' c
  -- The artifacts are read from the same builds, and there is one list of them for each offer.
  have hflatten : lists.flatten = lists'.flatten := by
    have hmap : lists.flatten.map (Except.ok (ε := CatalogError)) = lists'.flatten.map .ok := by
      rw [← map_flatten_eq hread, ← map_flatten_eq hread', h.builds c]
    exact (List.map_inj_right fun _ _ => Except.ok.inj).1 hmap
  -- There are as many lists as offers, so both have none, one or several.
  have hamount : SameAmount lists.length lists'.length := by
    have hlength := congrArg List.length hread
    have hlength' := congrArg List.length hread'
    simp only [List.length_map] at hlength hlength'
    rw [← hlength, ← hlength']
    exact h.amount c
  have hnil : lists = [] ↔ lists' = [] := by
    rw [← List.length_eq_zero_iff, ← List.length_eq_zero_iff]
    unfold SameAmount at hamount
    omega
  show catalog.artifacts? c = catalog'.artifacts? c
  simp only [hlist, hlist', hnil, arrange_congr _ hflatten hamount]

/-- A listing fails if and only if some component has a build that cannot be read. -/
theorem exists_normalize_eq_error_iff_buildsOf :
    (∃ e, normalize options offers = .error e) ↔
      ∃ c, ∃ build ∈ (buildsOf options offers c).flatten,
        HasUnknownEdition build ∨ HasUnknownOrigin build := by
  simp only [exists_normalize_eq_error_iff, mem_buildsOf_flatten]
  constructor
  · rintro ⟨offer, hoffer, ⟨c, hcomponent⟩, build, hbuild, hunknown⟩
    exact ⟨c, build, ⟨offer, hoffer, hcomponent, hbuild⟩, hunknown⟩
  · rintro ⟨c, build, ⟨offer, hoffer, hcomponent, hbuild⟩, hunknown⟩
    exact ⟨offer, hoffer, ⟨c, hcomponent⟩, build, hbuild, hunknown⟩

/-- Listings that supply the components alike are normalized to the same catalog, or both fail. -/
theorem normalize_of_suppliedAlike (h : SuppliedAlike options offers offers') :
    (∃ e e', normalize options offers = .error e ∧ normalize options offers' = .error e') ∨
      ∃ catalog, normalize options offers = .ok catalog ∧
        normalize options offers' = .ok catalog := by
  -- Whether a build cannot be read is decided by the builds, so both fail or neither.
  have hfails : (∃ e, normalize options offers = .error e) ↔
      ∃ e, normalize options offers' = .error e := by
    simp only [exists_normalize_eq_error_iff_buildsOf, h.builds]
  cases hresult : normalize options offers with
  | error e =>
    obtain ⟨e', he'⟩ := hfails.1 ⟨e, hresult⟩
    exact .inl ⟨e, e', rfl, he'⟩
  | ok catalog =>
    cases hresult' : normalize options offers' with
    | error e' =>
      obtain ⟨e, he⟩ := hfails.2 ⟨e', hresult'⟩
      rw [hresult] at he
      contradiction
    | ok catalog' =>
      rw [eq_of_suppliedAlike h hresult hresult']
      exact .inr ⟨catalog', rfl, rfl⟩

/-! ## Changes of a listing -/

/-- A change of a listing that leaves every component what is offered for it. -/
inductive Rearranged (options : Options) : List Offer → List Offer → Prop
  /-- Two neighbours that do not belong to the same component change places. -/
  | swap (before after : List Offer) {a b : Offer}
    (hne : options.componentOf? a.name ≠ options.componentOf? b.name) :
    Rearranged options (before ++ a :: b :: after) (before ++ b :: a :: after)
  /-- An offer that belongs to no component is left out. -/
  | drop (before after : List Offer) {foreign : Offer}
    (hnone : options.componentOf? foreign.name = none) :
    Rearranged options (before ++ foreign :: after) (before ++ after)
  /-- An offer gets another name of its component. -/
  | rename (before after : List Offer) (builds : List Build) {name name' : String}
    (hsame : options.componentOf? name = options.componentOf? name') :
    Rearranged options (before ++ ⟨name, builds⟩ :: after) (before ++ ⟨name', builds⟩ :: after)
  /-- One offer of a component ends, and its next one begins, at another build. -/
  | shift (before between after : List Offer) {name next : String} {c : Component}
    {builds builds' rest rest' : List Build} (hname : options.componentOf? name = some c)
    (hnext : options.componentOf? next = some c)
    (hbetween : ∀ offer ∈ between, options.componentOf? offer.name ≠ some c)
    (hbuilds : builds ++ rest = builds' ++ rest') :
    Rearranged options (before ++ ⟨name, builds⟩ :: (between ++ ⟨next, rest⟩ :: after))
      (before ++ ⟨name, builds'⟩ :: (between ++ ⟨next, rest'⟩ :: after))

/-- Offers of one listing after another are in this order. -/
@[simp] theorem buildsOf_append (c : Component) :
    buildsOf options (offers ++ offers') c =
      buildsOf options offers c ++ buildsOf options offers' c := by
  simp [buildsOf]

/-- The first offer counts for the component that it belongs to. -/
theorem buildsOf_cons (offer : Offer) (c : Component) :
    buildsOf options (offer :: offers) c =
      if options.componentOf? offer.name = some c then offer.builds :: buildsOf options offers c
      else buildsOf options offers c := by
  unfold buildsOf
  rw [List.filter_cons]
  by_cases hcomponent : options.componentOf? offer.name = some c <;> simp [hcomponent]

/-- Listings with as many offers of each component, and the same builds in them, supply the
components alike. -/
theorem suppliedAlike_of_length_eq
    (hlength : ∀ c, (buildsOf options offers c).length = (buildsOf options offers' c).length)
    (hbuilds : ∀ c, (buildsOf options offers c).flatten = (buildsOf options offers' c).flatten) :
    SuppliedAlike options offers offers' := by
  refine ⟨fun c => ?_, hbuilds⟩
  rw [hlength c]
  unfold SameAmount
  omega

/-- Listings with the same builds offer by offer supply the components alike. -/
theorem suppliedAlike_of_buildsOf_eq
    (h : ∀ c, buildsOf options offers c = buildsOf options offers' c) :
    SuppliedAlike options offers offers' :=
  suppliedAlike_of_length_eq (fun c => congrArg List.length (h c))
    (fun c => congrArg List.flatten (h c))

/-- None of the changes touches what is offered for a component. -/
theorem Rearranged.suppliedAlike (h : Rearranged options offers offers') :
    SuppliedAlike options offers offers' := by
  cases h with
  | @swap before after a b hne =>
    refine suppliedAlike_of_buildsOf_eq fun c => ?_
    rw [buildsOf_append, buildsOf_append]
    simp only [buildsOf_cons]
    -- At most one of the two belongs to the component, so that its offers stay in their order.
    by_cases ha : options.componentOf? a.name = some c
    · have hb : options.componentOf? b.name ≠ some c := fun hb => hne (ha.trans hb.symm)
      simp only [if_pos ha, if_neg hb]
    · simp only [if_neg ha]
  | drop before after hnone =>
    refine suppliedAlike_of_buildsOf_eq fun c => ?_
    simp [buildsOf_cons, hnone]
  | rename before after builds hsame =>
    refine suppliedAlike_of_buildsOf_eq fun c => ?_
    simp [buildsOf_cons, hsame]
  | @shift _ between _ _ _ c builds builds' _ _ hname hnext hbetween hbuilds =>
    have hnone : buildsOf options between c = [] := by
      simpa [buildsOf, List.filter_eq_nil_iff] using hbetween
    refine suppliedAlike_of_length_eq (fun d => ?_) (fun d => ?_)
    · by_cases hd : c = d <;> simp [buildsOf_cons, hname, hnext, hd]
    · by_cases hd : c = d
      · subst hd
        -- With nothing of the component between them, the builds of the two offers are in one row.
        simp only [buildsOf_append, buildsOf_cons, hname, hnext, hnone, if_true, List.nil_append,
          List.flatten_append, List.flatten_cons, ← List.append_assoc builds,
          ← List.append_assoc builds', hbuilds]
      · simp [buildsOf_cons, hname, hnext, hd]

/-- Any row of changes, forth and back, leaves every component what is offered for it. -/
theorem suppliedAlike_of_eqvGen (h : Relation.EqvGen (Rearranged options) offers offers') :
    SuppliedAlike options offers offers' := by
  induction h with
  | rel offers offers' h => exact h.suppliedAlike
  | refl offers => exact suppliedAlike_refl options offers
  | symm offers offers' _ ih => exact ih.symm
  | trans offers offers' offers'' _ _ ih ih' => exact ih.trans ih'

/-- Two listings that say the same of every component are normalized to the same catalog, or both
fail. In particular no row of these changes makes a difference: neighbours of different components
change places, offers that belong to no component come and go, an offer gets another name of its
component, and builds go over from one offer of a component to its next. -/
theorem normalize_depends_on_supply (options : Options) (offers offers' : List Offer)
    (h : SuppliedAlike options offers offers' ∨
      Relation.EqvGen (Rearranged options) offers offers') :
    (∃ e e', normalize options offers = .error e ∧ normalize options offers' = .error e') ∨
      ∃ catalog, normalize options offers = .ok catalog ∧
        normalize options offers' = .ok catalog := by
  rcases h with h | h
  · exact normalize_of_suppliedAlike h
  · exact normalize_of_suppliedAlike (suppliedAlike_of_eqvGen h)

/-- The builds of the sample in other offers: the engine's two names stand the other way round, its
first offer ends after one build, and nothing else is left that belongs to no component. -/
def regroupedOffers : List Offer :=
  [⟨"proxy", []⟩, ⟨"core", [sampleBuild "4.1" (some "") "a"]⟩,
   ⟨"engine", [sampleBuild "3.9" (some "1") "b", sampleBuild "4.1" none "a",
     sampleBuild "4.10" (some "2") "c"]⟩]

/-- Both listings have the catalog of the sample, and so has the sample without the offer that
belongs to no component. -/
theorem normalize_depends_on_supply_regrouped :
    normalize sampleOptions sampleOffers = .ok sampleCatalog ∧
      normalize sampleOptions regroupedOffers = .ok sampleCatalog ∧
      normalize sampleOptions (sampleOffers.eraseIdx 2) = .ok sampleCatalog := by
  have hok : normalize sampleOptions sampleOffers = .ok sampleCatalog := by rfl
  -- What is supplied like the sample has its catalog.
  have hsame : ∀ offers, (SuppliedAlike sampleOptions sampleOffers offers ∨
      Relation.EqvGen (Rearranged sampleOptions) sampleOffers offers) →
      normalize sampleOptions offers = .ok sampleCatalog := by
    intro offers h
    rcases normalize_depends_on_supply sampleOptions sampleOffers offers h with
      ⟨e, -, herror, -⟩ | ⟨catalog, hcatalog, hcatalog'⟩
    · rw [hok] at herror
      contradiction
    · exact hcatalog'.trans (hcatalog.symm.trans hok)
  have hsupply : SuppliedAlike sampleOptions sampleOffers regroupedOffers :=
    ⟨fun c => by cases c <;> decide +kernel, fun c => by cases c <;> decide +kernel⟩
  have hdrop : Rearranged sampleOptions sampleOffers (sampleOffers.eraseIdx 2) :=
    .drop (sampleOffers.take 2) (sampleOffers.drop 3) (by decide +kernel)
  exact ⟨hok, hsame _ (.inl hsupply), hsame _ (.inr (.rel _ _ hdrop))⟩

end Rollout.Catalog
