import Rollout.Proofs.Catalog.Arrangement
import Rollout.Proofs.Reading

/-!
# From a listing to a catalog, nothing lost and nothing invented

A listing that is normalized gives each component what its offers hold, whatever other offers stand
between them (`normalize_eq_ok`). With what is known of `arrange` this says exactly which builds a
catalog holds: those of the component's offers that are recent enough, one artifact for each
version, release and checksum.

Several builds are read one after another and the first that cannot be read ends the reading, so
that a reading succeeds exactly if all of them do (`mapM_eq_ok_iff`).
-/

namespace Rollout.Catalog

open Service

/-! ## Builds -/

/-- An artifact names this build: it has its version, its checksum, and its release, where an empty
release is none. -/
def Names (a : Artifact) (build : Build) : Prop :=
  a.version = build.version ∧ a.release.getD "" = build.release.getD "" ∧
    a.checksum = build.checksum

instance (a : Artifact) (build : Build) : Decidable (Names a build) :=
  inferInstanceAs (Decidable (_ ∧ _ ∧ _))

/-- A build is read if its edition and its origin are, and everything else is taken over. -/
theorem artifactOf_eq_ok_iff {build : Build} {a : Artifact} :
    artifactOf build = .ok a ↔
      Edition.ofListing build.edition = .ok a.edition ∧
      Origin.ofListing build.origin = .ok a.origin ∧
      a.version = build.version ∧ a.release = build.release.filter (· ≠ "") ∧
      a.checksum = build.checksum ∧ a.size = build.size.getD 0 := by
  unfold artifactOf
  simp only [bind_eq_ok_iff]
  constructor
  · rintro ⟨edition, hedition, origin, horigin, ⟨⟩⟩
    exact ⟨hedition, horigin, rfl, rfl, rfl, rfl⟩
  · rintro ⟨hedition, horigin, hversion, hrelease, hchecksum, hsize⟩
    refine ⟨a.edition, hedition, a.origin, horigin, ?_⟩
    rw [← hversion, ← hrelease, ← hchecksum, ← hsize]
    rfl

/-- The artifact of a build names it. -/
theorem names_of_artifactOf {build : Build} {a : Artifact} (h : artifactOf build = .ok a) :
    Names a build := by
  obtain ⟨-, -, hversion, hrelease, hchecksum, -⟩ := artifactOf_eq_ok_iff.1 h
  refine ⟨hversion, ?_, hchecksum⟩
  rw [hrelease]
  cases build.release with
  | none => rfl
  | some release => by_cases hempty : release = "" <;> simp [Option.filter, hempty]

/-- No artifact has an empty release. -/
theorem release_ne_of_artifactOf {build : Build} {a : Artifact} (h : artifactOf build = .ok a) :
    a.release ≠ some "" := by
  obtain ⟨-, -, -, hrelease, -, -⟩ := artifactOf_eq_ok_iff.1 h
  rw [hrelease]
  intro hempty
  simpa using (Option.filter_eq_some_iff.1 hempty).2

/-! ## Offers -/

/-- The builds of each offer of a component, in listing order. -/
def buildsOf (options : Options) (offers : List Offer) (c : Component) : List (List Build) :=
  (offers.filter fun offer => options.componentOf? offer.name = some c).map (·.builds)

/-- A build of a component is one of an offer that belongs to it. -/
theorem mem_buildsOf_flatten {options : Options} {offers : List Offer} {c : Component}
    {build : Build} :
    build ∈ (buildsOf options offers c).flatten ↔
      ∃ offer ∈ offers, options.componentOf? offer.name = some c ∧ build ∈ offer.builds := by
  simp only [buildsOf, List.mem_flatten, List.mem_map, List.mem_filter, decide_eq_true_eq]
  constructor
  · rintro ⟨builds, ⟨offer, ⟨hoffer, hcomponent⟩, rfl⟩, hbuild⟩
    exact ⟨offer, hoffer, hcomponent, hbuild⟩
  · rintro ⟨offer, hoffer, hcomponent, hbuild⟩
    exact ⟨offer.builds, ⟨offer, ⟨hoffer, hcomponent⟩, rfl⟩, hbuild⟩

/-- A component has builds, if only in empty offers, exactly if an offer belongs to it. -/
theorem buildsOf_ne_nil_iff {options : Options} {offers : List Offer} {c : Component} :
    buildsOf options offers c ≠ [] ↔
      ∃ offer ∈ offers, options.componentOf? offer.name = some c := by
  simp [buildsOf, List.filter_eq_nil_iff]

/-- The offers that belong to a component, each with it. -/
def placed (options : Options) (offers : List Offer) : List (Component × List Build) :=
  offers.filterMap fun offer => (options.componentOf? offer.name).map (·, offer.builds)

/-- Reads the builds of an offer. -/
def readPlaced : Component × List Build → Except CatalogError (Component × List Artifact)
  | (c, builds) => do return (c, ← builds.mapM artifactOf)

/-- The builds of a component among the offers that belong to one. -/
theorem filter_placed (options : Options) (offers : List Offer) (c : Component) :
    ((placed options offers).filter (·.1 = c)).map (·.2) = buildsOf options offers c := by
  unfold placed buildsOf
  induction offers with
  | nil => rfl
  | cons offer offers ih =>
    cases hcomponent : options.componentOf? offer.name with
    | none => simpa [hcomponent] using ih
    | some d =>
      by_cases hd : d = c
      · simpa [hcomponent, hd] using ih
      · simpa [hcomponent, hd] using ih

/-- An offer is read if all its builds are, and keeps its component. -/
theorem readPlaced_eq_ok_iff {offer : Component × List Build}
    {read : Component × List Artifact} :
    readPlaced offer = .ok read ↔
      read.1 = offer.1 ∧ offer.2.map artifactOf = read.2.map .ok := by
  unfold readPlaced
  rw [bind_eq_ok_iff, ← mapM_eq_ok_iff]
  constructor
  · rintro ⟨artifacts, hartifacts, ⟨⟩⟩
    exact ⟨rfl, hartifacts⟩
  · rintro ⟨hcomponent, hartifacts⟩
    refine ⟨read.2, hartifacts, ?_⟩
    rw [← hcomponent]
    rfl

/-- What is read for a component is read from its builds. -/
theorem map_filter_of_map_readPlaced {offers : List (Component × List Build)}
    {read : List (Component × List Artifact)} (h : offers.map readPlaced = read.map .ok)
    (c : Component) :
    ((offers.filter (·.1 = c)).map (·.2)).map (List.map artifactOf) =
      ((read.filter (·.1 = c)).map (·.2)).map (List.map .ok) := by
  -- Both lists are run through together: what is read for an offer has its component.
  induction offers generalizing read with
  | nil =>
    have hnil : read = [] := by simpa using h.symm
    rw [hnil]
    rfl
  | cons offer offers ih =>
    cases read with
    | nil => simp at h
    | cons first read =>
      rw [List.map_cons, List.map_cons, List.cons.injEq] at h
      obtain ⟨hcomponent, hbuilds⟩ := readPlaced_eq_ok_iff.1 h.1
      have hrest := ih h.2
      by_cases hc : offer.1 = c
      · have hfirst : first.1 = c := hcomponent.trans hc
        simp only [List.filter_cons, hc, hfirst, decide_true, if_true, List.map_cons, hbuilds,
          hrest]
      · -- An offer of another component is left out on both sides.
        have hfirst : first.1 ≠ c := fun heq => hc (hcomponent.symm.trans heq)
        simpa only [List.filter_cons, hc, hfirst, decide_false, Bool.false_eq_true, if_false]
          using hrest

/-- A listing is normalized if every build of every component can be read, and then each component
with an offer has what is kept of the artifacts that were read for it. -/
theorem normalize_eq_ok {options : Options} {offers : List Offer} {catalog : Catalog}
    (h : normalize options offers = .ok catalog) (c : Component) :
    ∃ lists : List (List Artifact),
      (buildsOf options offers c).map (List.map artifactOf) = lists.map (List.map .ok) ∧
      catalog.artifacts? c =
        if lists = [] then none else some (arrange (options.floor? c) lists) := by
  unfold normalize at h
  obtain ⟨gathered, hgather, hcatalog⟩ := bind_eq_ok_iff.1 h
  have hread : (placed options offers).map readPlaced = gathered.map .ok :=
    mapM_eq_ok_iff.1 hgather
  refine ⟨(gathered.filter (·.1 = c)).map (·.2), ?_, ?_⟩
  · rw [← filter_placed]
    exact map_filter_of_map_readPlaced hread c
  · obtain rfl := Except.ok.inj hcatalog
    unfold artifacts?
    rw [ByComponent.get_ofFn]
    cases (gathered.filter (·.1 = c)).map (·.2) <;> simp

/-! ## What a catalog holds -/

/-- The list of a component, empty if it is absent, is what is kept of what was read for it. -/
theorem artifacts_eq_arrange {catalog : Catalog} {floor : Option String} {c : Component}
    {lists : List (List Artifact)}
    (h : catalog.artifacts? c = if lists = [] then none else some (arrange floor lists)) :
    catalog.artifacts c = arrange floor lists := by
  unfold artifacts
  rw [h]
  by_cases hnil : lists = []
  · rw [if_pos hnil, hnil]
    rfl
  · rw [if_neg hnil]
    rfl

/-- Where the lists of several offers are read, so is their concatenation. -/
theorem map_flatten_eq {builds : List (List Build)} {lists : List (List Artifact)}
    (h : builds.map (List.map artifactOf) = lists.map (List.map .ok)) :
    builds.flatten.map artifactOf = lists.flatten.map .ok := by
  rw [List.map_flatten, List.map_flatten, h]

/-- What was read for a component is read from its builds. -/
theorem exists_build_of_mem {builds : List Build} {artifacts : List Artifact}
    (h : builds.map artifactOf = artifacts.map .ok) {a : Artifact} (ha : a ∈ artifacts) :
    ∃ build ∈ builds, artifactOf build = .ok a := by
  have hmem : .ok a ∈ builds.map artifactOf := by
    rw [h]
    exact List.mem_map_of_mem ha
  exact List.mem_map.1 hmem

/-- Every build of a component was read. -/
theorem exists_artifact_of_mem {builds : List Build} {artifacts : List Artifact}
    (h : builds.map artifactOf = artifacts.map .ok) {build : Build} (hbuild : build ∈ builds) :
    ∃ a ∈ artifacts, artifactOf build = .ok a := by
  have hmem : artifactOf build ∈ artifacts.map .ok := by
    rw [← h]
    exact List.mem_map_of_mem hbuild
  obtain ⟨a, ha, heq⟩ := List.mem_map.1 hmem
  exact ⟨a, ha, heq.symm⟩

/-- An artifact names a build if it has the identity that an artifact of the build would have. -/
theorem names_iff {a : Artifact} {build : Build} :
    Names a build ↔ identity a = (build.version, build.release.getD "", build.checksum) := by
  unfold Names identity
  rw [Prod.mk.injEq, Prod.mk.injEq]

/-- If no two of a list satisfy something and one does, exactly one does. -/
theorem countP_eq_one {α : Type} {p : α → Bool} {xs : List α}
    (hpair : xs.Pairwise fun x y => ¬ (p x = true ∧ p y = true)) {x : α} (hmem : x ∈ xs)
    (hx : p x = true) : xs.countP p = 1 := by
  obtain ⟨before, rest, rfl⟩ := List.append_of_mem hmem
  obtain ⟨-, hrest, hacross⟩ := List.pairwise_append.1 hpair
  have hbefore : before.countP p = 0 := by
    rw [List.countP_eq_zero]
    intro y hy hpy
    exact hacross y hy x List.mem_cons_self ⟨hpy, hx⟩
  have hafter : rest.countP p = 0 := by
    rw [List.countP_eq_zero]
    intro y hy hpy
    exact (List.pairwise_cons.1 hrest).1 y hy ⟨hx, hpy⟩
  rw [List.countP_append, List.countP_cons_of_pos hx, hbefore, hafter]

/-! ## A normalized listing -/

variable {options : Options} {offers : List Offer} {catalog : Catalog} {c : Component}

/-- A component is there as soon as an offer was read for it, even if that had no builds. -/
theorem contains_iff_of_normalize (h : normalize options offers = .ok catalog) :
    catalog.contains c = true ↔ ∃ offer ∈ offers, options.componentOf? offer.name = some c := by
  obtain ⟨lists, hread, hlist⟩ := normalize_eq_ok h c
  have hnil : buildsOf options offers c = [] ↔ lists = [] := by
    rw [← List.map_eq_nil_iff (f := List.map artifactOf), hread, List.map_eq_nil_iff]
  rw [← buildsOf_ne_nil_iff, ne_eq, hnil]
  unfold contains
  rw [hlist]
  by_cases hlists : lists = [] <;> simp [hlists]

/-- Every artifact is read from a build of an offer that belongs to its component, and is recent
enough. -/
theorem source_of_mem_artifacts (h : normalize options offers = .ok catalog) {a : Artifact}
    (ha : a ∈ catalog.artifacts c) :
    (∃ offer ∈ offers, options.componentOf? offer.name = some c ∧
      ∃ build ∈ offer.builds, artifactOf build = .ok a) ∧ reaches (options.floor? c) a = true := by
  obtain ⟨lists, hread, hlist⟩ := normalize_eq_ok h c
  rw [artifacts_eq_arrange hlist] at ha
  obtain ⟨hmem, hreaches⟩ := mem_of_mem_arrange ha
  obtain ⟨build, hbuild, hartifact⟩ := exists_build_of_mem (map_flatten_eq hread) hmem
  obtain ⟨offer, hoffer, hcomponent, hbuild⟩ := mem_buildsOf_flatten.1 hbuild
  exact ⟨⟨offer, hoffer, hcomponent, build, hbuild, hartifact⟩, hreaches⟩

/-- No two artifacts of a component have the same version, release and checksum. -/
theorem pairwise_artifacts_of_normalize (h : normalize options offers = .ok catalog)
    (c : Component) : (catalog.artifacts c).Pairwise fun a b => identity a ≠ identity b := by
  obtain ⟨lists, -, hlist⟩ := normalize_eq_ok h c
  rw [artifacts_eq_arrange hlist]
  exact pairwise_arrange _ _

/-- Every build that is recent enough is named by some artifact. -/
theorem exists_names_of_normalize (h : normalize options offers = .ok catalog) {offer : Offer}
    (hoffer : offer ∈ offers) (hcomponent : options.componentOf? offer.name = some c)
    {build : Build} (hbuild : build ∈ offer.builds)
    (hrecent : ∀ lowest, options.floor? c = some lowest →
      Version.compare build.version lowest ≠ .lt) :
    ∃ a ∈ catalog.artifacts c, Names a build := by
  obtain ⟨lists, hread, hlist⟩ := normalize_eq_ok h c
  obtain ⟨a, ha, hartifact⟩ := exists_artifact_of_mem (map_flatten_eq hread)
    (mem_buildsOf_flatten.2 ⟨offer, hoffer, hcomponent, hbuild⟩)
  have hnames := names_of_artifactOf hartifact
  have hreaches : reaches (options.floor? c) a = true := by
    rw [reaches_iff, hnames.1]
    exact hrecent
  -- The artifact of the build itself may be left out, but then one of its identity is kept.
  obtain ⟨b, hb, hidentity⟩ := exists_mem_arrange ha hreaches
  refine ⟨b, ?_, ?_⟩
  · rw [artifacts_eq_arrange hlist]
    exact hb
  · rw [names_iff, hidentity]
    exact names_iff.1 hnames

/-- A normalized listing is a catalog in which a component is there if an offer belongs to it, every
artifact is read from a build of such an offer and is recent enough, every build that is recent
enough is named by exactly one artifact, no two artifacts have the same version, release and
checksum, and no release is empty. The other names of the listing are the unknown ones. -/
theorem normalize_faithful {options : Options} {offers : List Offer} {catalog : Catalog}
    (h : normalize options offers = .ok catalog) :
    (∀ c,
      (catalog.contains c = true ↔
        ∃ offer ∈ offers, options.componentOf? offer.name = some c) ∧
      (∀ a ∈ catalog.artifacts c,
        (∃ offer ∈ offers, options.componentOf? offer.name = some c ∧
          ∃ build ∈ offer.builds, artifactOf build = .ok a) ∧
        ∀ lowest, options.floor? c = some lowest → Version.compare a.version lowest ≠ .lt) ∧
      (∀ offer ∈ offers, options.componentOf? offer.name = some c → ∀ build ∈ offer.builds,
        (∀ lowest, options.floor? c = some lowest →
          Version.compare build.version lowest ≠ .lt) →
        (catalog.artifacts c).countP (Names · build) = 1) ∧
      (catalog.artifacts c).Pairwise (fun a b =>
        (a.version, a.release.getD "", a.checksum) ≠ (b.version, b.release.getD "", b.checksum)) ∧
      ∀ a ∈ catalog.artifacts c, a.release ≠ some "") ∧
    unknownNames options offers =
      (offers.map (·.name)).filter fun name => (options.componentOf? name).isNone := by
  refine ⟨fun c => ?_, ?_⟩
  · have hdistinct := pairwise_artifacts_of_normalize h c
    refine ⟨contains_iff_of_normalize h, ?_, ?_, hdistinct, ?_⟩
    · -- Only builds that were read are listed, and none of them is too old.
      intro a ha
      obtain ⟨hsource, hreaches⟩ := source_of_mem_artifacts h ha
      exact ⟨hsource, reaches_iff.1 hreaches⟩
    · -- A recent build has an artifact with its identity, and identities are kept once.
      intro offer hoffer hcomponent build hbuild hrecent
      obtain ⟨a, ha, hnames⟩ := exists_names_of_normalize h hoffer hcomponent hbuild hrecent
      -- Two artifacts that name the build would have the same identity.
      refine countP_eq_one ?_ ha (decide_eq_true hnames)
      refine hdistinct.imp fun {x y} hne hboth => hne ?_
      rw [decide_eq_true_eq, decide_eq_true_eq, names_iff, names_iff] at hboth
      exact hboth.1.trans hboth.2.symm
    · intro a ha
      obtain ⟨⟨_, _, _, build, _, hartifact⟩, -⟩ := source_of_mem_artifacts h ha
      exact release_ne_of_artifactOf hartifact
  · unfold unknownNames
    rw [List.filter_map]
    rfl

/-- A build of the community edition, as a listing has it. -/
def sampleBuild (version : String) (release : Option String) (checksum : String) : Build :=
  ⟨version, release, checksum, some "ce", none, none, none⟩

/-- Two offers for the engine, of which one has another name, an empty one for the proxy, and one
that belongs to no component. -/
def sampleOffers : List Offer :=
  [⟨"engine", [sampleBuild "4.1" (some "") "a", sampleBuild "3.9" (some "1") "b"]⟩,
   ⟨"proxy", []⟩, ⟨"charts", [sampleBuild "7.5" none "g"]⟩,
   ⟨"core", [sampleBuild "4.1" none "a", sampleBuild "4.10" (some "2") "c"]⟩]

/-- The engine has another name, and nothing below its version 4 is kept. -/
def sampleOptions : Options :=
  ⟨[("engine", .core)], .ofFn fun c => if c = .core then some "4" else none⟩

/-- The catalog of the sample: the release that is empty and the one that is missing are the same,
and the empty offer leaves an empty list. -/
def sampleCatalog : Catalog :=
  (empty.insert .core [⟨"4.10", some "2", "c", .community, 0, .remote⟩,
    ⟨"4.1", none, "a", .community, 0, .remote⟩]).insert .proxy []

/-- The sample is normalized, and its build without a release is named once. -/
theorem normalize_faithful_sample :
    normalize sampleOptions sampleOffers = .ok sampleCatalog ∧
      sampleCatalog.contains .proxy = true ∧
      (sampleCatalog.artifacts .core).countP (Names · (sampleBuild "4.1" (some "") "a")) = 1 ∧
      unknownNames sampleOptions sampleOffers = ["charts"] := by
  have hok : normalize sampleOptions sampleOffers = .ok sampleCatalog := by rfl
  obtain ⟨hall, hunknown⟩ := normalize_faithful hok
  have hproxy : sampleCatalog.contains .proxy = true :=
    (hall .proxy).1.2 ⟨⟨"proxy", []⟩, by decide +kernel, by rfl⟩
  have hrecent : ∀ lowest, sampleOptions.floor? .core = some lowest →
      Version.compare "4.1" lowest ≠ .lt := by
    intro lowest hlowest
    obtain rfl : "4" = lowest := Option.some.inj hlowest
    decide +kernel
  have hone := (hall .core).2.2.1 (sampleOffers.head (by decide)) (by decide +kernel) (by rfl)
    (sampleBuild "4.1" (some "") "a") (by decide +kernel) hrecent
  exact ⟨hok, hproxy, hone, hunknown⟩

end Rollout.Catalog
