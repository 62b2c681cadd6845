import Rollout.Proofs.Catalog.Normalize

/-!
# Which listings cannot be normalized

A build cannot be read if it has an edition or an origin that nobody knows. The listing is read
offer by offer and build by build, and the first build of a component that cannot be read ends it.
So it fails as if all builds of components were read in one row (`normalize_eq_error_iff`), and
`mapM_eq_error_iff` finds the build that is to blame. This happens before any artifact is left out:
a build that is too old, or that stands in the listing twice, is read as well.
-/

namespace Rollout

/-! ## Editions and origins -/

/-- The names by which a listing calls editions. -/
def Edition.spellings : List String :=
  ["ce", "community", "business", "commercial"]

/-- The names by which a listing calls origins. -/
def Origin.spellings : List String :=
  ["remote", "remote-mirror", "local", "local-image"]

/-- An edition is unknown if it has none of the names that a listing uses. -/
theorem Edition.ofName?_eq_none_iff {s : String} : ofName? s = none ↔ s ∉ spellings := by
  unfold ofName? spellings
  split <;> simp_all

/-- An origin is unknown if it has none of the names that a listing uses. -/
theorem Origin.ofName?_eq_none_iff {s : String} : ofName? s = none ↔ s ∉ spellings := by
  unfold ofName? spellings
  split <;> simp_all

/-- An edition is refused if it is given and has no known name, and the complaint repeats it. -/
theorem Edition.ofListing_eq_error_iff {given : Option String} {e : CatalogError} :
    ofListing given = .error e ↔ ∃ s, given = some s ∧ s ∉ spellings ∧ e = .invalidEdition s := by
  cases given with
  | none => simp [ofListing]
  | some s =>
    cases hname : ofName? s with
    | none => simp [ofListing, parse, hname, ← ofName?_eq_none_iff, eq_comm]
    | some edition => simp [ofListing, parse, hname, ← ofName?_eq_none_iff]

/-- An origin is refused if it is given and has no known name, and the complaint repeats it. -/
theorem Origin.ofListing_eq_error_iff {given : Option String} {e : CatalogError} :
    ofListing given = .error e ↔ ∃ s, given = some s ∧ s ∉ spellings ∧ e = .invalidOrigin s := by
  cases given with
  | none => simp [ofListing]
  | some s =>
    cases hname : ofName? s with
    | none => simp [ofListing, hname, ← ofName?_eq_none_iff, eq_comm]
    | some origin => simp [ofListing, hname, ← ofName?_eq_none_iff]

namespace Catalog

open Service

/-! ## Builds -/

/-- The build has an edition that nobody knows. -/
def HasUnknownEdition (build : Build) : Prop :=
  ∃ s, build.edition = some s ∧ s ∉ Edition.spellings

/-- The build has an origin that nobody knows. -/
def HasUnknownOrigin (build : Build) : Prop :=
  ∃ s, build.origin = some s ∧ s ∉ Origin.spellings

/-- The complaint about a build that cannot be read. Of two faults the edition is named. -/
inductive Complaint (build : Build) : CatalogError → Prop
  | edition {s : String} (given : build.edition = some s) (unknown : s ∉ Edition.spellings) :
    Complaint build (.invalidEdition s)
  | origin {s : String} (known : ¬ HasUnknownEdition build) (given : build.origin = some s)
    (unknown : s ∉ Origin.spellings) : Complaint build (.invalidOrigin s)

/-- There is something to complain about exactly if the edition or the origin is unknown. -/
theorem exists_complaint_iff {build : Build} :
    (∃ e, Complaint build e) ↔ HasUnknownEdition build ∨ HasUnknownOrigin build := by
  constructor
  · rintro ⟨_, ⟨given, unknown⟩ | ⟨_, given, unknown⟩⟩
    · exact .inl ⟨_, given, unknown⟩
    · exact .inr ⟨_, given, unknown⟩
  · -- If both are unknown, the complaint is about the edition.
    by_cases hedition : HasUnknownEdition build
    · obtain ⟨s, given, unknown⟩ := hedition
      exact fun _ => ⟨_, .edition given unknown⟩
    · rintro (h | ⟨s, given, unknown⟩)
      · exact absurd h hedition
      · exact ⟨_, .origin hedition given unknown⟩

/-- The edition of a build is read unless it is unknown. -/
theorem exists_ofListing_iff {build : Build} :
    (∃ edition, Edition.ofListing build.edition = .ok edition) ↔ ¬ HasUnknownEdition build := by
  constructor
  · rintro ⟨edition, hedition⟩ ⟨s, given, unknown⟩
    have herror := Edition.ofListing_eq_error_iff.2 ⟨s, given, unknown, rfl⟩
    rw [hedition] at herror
    contradiction
  · intro known
    cases hedition : Edition.ofListing build.edition with
    | error e =>
      obtain ⟨s, given, unknown, -⟩ := Edition.ofListing_eq_error_iff.1 hedition
      exact absurd ⟨s, given, unknown⟩ known
    | ok edition => exact ⟨edition, rfl⟩

/-- Reading a build fails with the complaint about it. -/
theorem artifactOf_eq_error_iff {build : Build} {e : CatalogError} :
    artifactOf build = .error e ↔ Complaint build e := by
  unfold artifactOf
  simp only [bind_eq_error_iff, Edition.ofListing_eq_error_iff, Origin.ofListing_eq_error_iff]
  constructor
  · -- The origin is read after the edition, and then nothing can fail.
    rintro (⟨s, given, unknown, rfl⟩ | ⟨edition, hedition, ⟨s, given, unknown, rfl⟩ | ⟨_, _, ⟨⟩⟩⟩)
    · exact .edition given unknown
    · exact .origin (exists_ofListing_iff.1 ⟨edition, hedition⟩) given unknown
  · rintro (⟨given, unknown⟩ | ⟨known, given, unknown⟩)
    · exact .inl ⟨_, given, unknown, rfl⟩
    · obtain ⟨edition, hedition⟩ := exists_ofListing_iff.2 known
      exact .inr ⟨edition, hedition, .inl ⟨_, given, unknown, rfl⟩⟩

/-- A build can be read if and only if its edition and its origin are known. -/
theorem exists_artifactOf_iff {build : Build} :
    (∃ a, artifactOf build = .ok a) ↔ ¬ (HasUnknownEdition build ∨ HasUnknownOrigin build) := by
  rw [← exists_complaint_iff]
  simp only [← artifactOf_eq_error_iff]
  cases artifactOf build <;> simp

/-! ## Listings -/

/-- The offers of a listing that belong to a component. -/
def ofComponents (options : Options) (offers : List Offer) : List Offer :=
  offers.filter fun offer => (options.componentOf? offer.name).isSome

/-- What is placed with the components is placed from the offers that belong to one. -/
theorem placed_ofComponents (options : Options) (offers : List Offer) :
    placed options (ofComponents options offers) = placed options offers := by
  unfold placed ofComponents
  rw [List.filterMap_filter]
  congr 1
  funext offer
  cases options.componentOf? offer.name <;> rfl

/-- The builds that are placed are those of the offers that belong to a component, in listing
order. -/
theorem flatMap_placed (options : Options) (offers : List Offer) :
    (placed options offers).flatMap (·.2) = (ofComponents options offers).flatMap (·.builds) := by
  unfold placed ofComponents
  induction offers with
  | nil => rfl
  | cons offer offers ih =>
    cases hcomponent : options.componentOf? offer.name with
    | none => simpa [hcomponent] using ih
    | some c => simpa [hcomponent] using ih

/-- Reading an offer fails as reading its builds does. -/
theorem readPlaced_eq_error_iff {offer : Component × List Build} {e : CatalogError} :
    readPlaced offer = .error e ↔ offer.2.mapM artifactOf = .error e := by
  unfold readPlaced
  rw [bind_eq_error_iff]
  simp [pure, Except.pure]

/-- An offer can be read if its builds can. -/
theorem exists_readPlaced_iff {offer : Component × List Build} :
    (∃ read, readPlaced offer = .ok read) ↔
      ∃ artifacts, offer.2.mapM artifactOf = .ok artifacts := by
  constructor
  · rintro ⟨read, hread⟩
    exact ⟨read.2, mapM_eq_ok_iff.2 (readPlaced_eq_ok_iff.1 hread).2⟩
  · rintro ⟨artifacts, hread⟩
    exact ⟨(offer.1, artifacts), readPlaced_eq_ok_iff.2 ⟨rfl, mapM_eq_ok_iff.1 hread⟩⟩

/-- Offers that are read one after another fail as their builds in one row. -/
theorem mapM_readPlaced_eq_error_iff {offers : List (Component × List Build)}
    {e : CatalogError} :
    offers.mapM readPlaced = .error e ↔ (offers.flatMap (·.2)).mapM artifactOf = .error e := by
  induction offers with
  | nil => simp [pure, Except.pure]
  | cons offer offers ih =>
    -- The builds of the first offer come first in the row.
    rw [mapM_cons_eq_error_iff, List.flatMap_cons, mapM_append_eq_error_iff,
      readPlaced_eq_error_iff, exists_readPlaced_iff, ih]

/-- A listing fails as the builds of its components in one row. -/
theorem normalize_eq_error_iff {options : Options} {offers : List Offer} {e : CatalogError} :
    normalize options offers = .error e ↔
      ((ofComponents options offers).flatMap (·.builds)).mapM artifactOf = .error e := by
  have hgather : normalize options offers = .error e ↔
      (placed options offers).mapM readPlaced = .error e := by
    unfold normalize
    rw [bind_eq_error_iff]
    simp only [pure, Except.pure, reduceCtorEq, and_false, exists_false, or_false]
    rfl
  rw [hgather, mapM_readPlaced_eq_error_iff, flatMap_placed]

/-- Offers that belong to no component are not read. -/
theorem normalize_ofComponents (options : Options) (offers : List Offer) :
    normalize options (ofComponents options offers) = normalize options offers := by
  have hgather : gather options (ofComponents options offers) = gather options offers :=
    congrArg (List.mapM readPlaced) (placed_ofComponents options offers)
  unfold normalize
  rw [hgather]

/-- A listing fails if and only if there is something to complain about in an offer that belongs to
a component. -/
theorem exists_normalize_eq_error_iff {options : Options} {offers : List Offer} :
    (∃ e, normalize options offers = .error e) ↔
      ∃ offer ∈ offers, (∃ c, options.componentOf? offer.name = some c) ∧
        ∃ build ∈ offer.builds, HasUnknownEdition build ∨ HasUnknownOrigin build := by
  simp only [normalize_eq_error_iff, exists_mapM_eq_error_iff, artifactOf_eq_error_iff,
    exists_complaint_iff, List.mem_flatMap, ofComponents, List.mem_filter, Option.isSome_iff_exists]
  constructor
  · rintro ⟨build, ⟨offer, ⟨hoffer, hcomponent⟩, hbuild⟩, hunknown⟩
    exact ⟨offer, hoffer, hcomponent, build, hbuild, hunknown⟩
  · rintro ⟨offer, hoffer, hcomponent, build, hbuild, hunknown⟩
    exact ⟨build, ⟨offer, ⟨hoffer, hcomponent⟩, hbuild⟩, hunknown⟩

/-- A listing fails if and only if an offer that belongs to a component has a build whose edition or
origin is unknown. The error is then the complaint about the first such build in listing order.
Offers that belong to no component make no difference. -/
theorem normalize_rejects (options : Options) (offers : List Offer) :
    ((∃ e, normalize options offers = .error e) ↔
      ∃ offer ∈ offers, (∃ c, options.componentOf? offer.name = some c) ∧
        ∃ build ∈ offer.builds, HasUnknownEdition build ∨ HasUnknownOrigin build) ∧
    (∀ e, normalize options offers = .error e ↔
      ∃ before build after,
        (ofComponents options offers).flatMap (·.builds) = before ++ build :: after ∧
        (∀ earlier ∈ before, ¬ (HasUnknownEdition earlier ∨ HasUnknownOrigin earlier)) ∧
        Complaint build e) ∧
    normalize options (ofComponents options offers) = normalize options offers := by
  refine ⟨exists_normalize_eq_error_iff, fun e => ?_, normalize_ofComponents options offers⟩
  rw [normalize_eq_error_iff, mapM_eq_error_iff]
  simp only [exists_artifactOf_iff, artifactOf_eq_error_iff]

/-- The engine's second build is to blame, although it is too old to be listed. -/
example :
    normalize sampleOptions [⟨"charts", [⟨"7.5", none, "g", some "x", none, none, none⟩]⟩,
      ⟨"engine", [sampleBuild "4.1" none "a",
        ⟨"3.9", none, "b", some "trial", some "usb", none, none⟩]⟩,
      ⟨"proxy", [⟨"4.1", none, "c", some "demo", none, none, none⟩]⟩] =
      .error (.invalidEdition "trial") := by rfl

end Catalog

end Rollout
