import Mathlib.Data.List.Induction
import Rollout.Proofs.Catalog.Normalize
import Rollout.Proofs.Version

/-!
# In which order a catalog lists artifacts

An artifact arrives at a place of the listing, and `Artifact × Nat` is an artifact with the number
of those that arrived before it. The artifacts of one offer are listed as they arrived. Those of
several offers are put in order by version, and among equal versions they stay as they arrived
(`exists_ordered`), provided that the versions can be put in order at all: any three of them have to
be `Version.Alike`, as versions of numerals are.

In both orders an artifact comes before those of the same identity that arrived after it, so that
the first of an identity that is listed is also the first that arrived (`exists_kept`).
-/

namespace Rollout.Catalog

open Service

/-! ## Placing by version -/

/-- An artifact is placed behind the artifacts than which it is later, up to the first one than
which it is not. -/
theorem insertByVersion_eq (a : Artifact) (placed : List Artifact) :
    insertByVersion a placed =
      placed.takeWhile (isLater a) ++ a :: placed.dropWhile (isLater a) := by
  induction placed with
  | nil => rfl
  | cons b placed ih =>
    rw [insertByVersion]
    by_cases hlater : isLater a b = true
    · rw [if_pos hlater, List.takeWhile_cons_of_pos hlater, List.dropWhile_cons_of_pos hlater, ih,
        List.cons_append]
    · rw [if_neg hlater, List.takeWhile_cons_of_neg hlater, List.dropWhile_cons_of_neg hlater,
        List.nil_append]

/-- The first artifact is to be listed before the second: it has the later version, or an equal one
and arrived first. -/
def ComesBefore (x y : Artifact × Nat) : Prop :=
  isLater x.1 y.1 = true ∨
    Version.compare x.1.version y.1.version = .eq ∧ x.2 < y.2

/-- An artifact is later than another if its version is. -/
theorem isLater_iff {a b : Artifact} :
    isLater a b = true ↔ Version.compare b.version a.version = .lt := by
  unfold isLater
  exact beq_iff_eq

/-- What comes before another artifact does not have an earlier version. -/
theorem ComesBefore.compare_ne_gt {x y : Artifact × Nat} (h : ComesBefore x y) :
    Version.compare y.1.version x.1.version ≠ .gt := by
  rcases h with hlater | ⟨heq, -⟩
  · rw [isLater_iff.1 hlater]
    decide
  · rw [Version.compare_swap, heq]
    decide

/-- What arrived first comes before an artifact that does not have a later version. -/
theorem comesBefore_of_compare_ne_gt {x y : Artifact × Nat}
    (h : Version.compare y.1.version x.1.version ≠ .gt) (hfirst : x.2 < y.2) :
    ComesBefore x y := by
  cases hcompare : Version.compare y.1.version x.1.version with
  | lt => exact .inl (isLater_iff.2 hcompare)
  | eq =>
    refine .inr ⟨?_, hfirst⟩
    rw [Version.compare_swap, hcompare]
    rfl
  | gt => exact absurd hcompare h

/-- Of two artifacts of one identity that comes before which arrived first. -/
theorem ComesBefore.lt_of_identity_eq {x y : Artifact × Nat} (h : ComesBefore x y)
    (hidentity : identity x.1 = identity y.1) : x.2 < y.2 := by
  rcases h with hlater | ⟨-, hfirst⟩
  · have hversion : x.1.version = y.1.version := congrArg Prod.fst hidentity
    have hself := isLater_iff.1 hlater
    rw [hversion, Version.compare_self] at hself
    contradiction
  · exact hfirst

/-- An artifact is not later than those in front of which it is placed: it is not later than the
first of them, and none of the others is earlier than that one. -/
theorem compare_ne_gt_of_mem_dropWhile {placed : List (Artifact × Nat)} {a : Artifact}
    (hplaced : placed.Pairwise fun x y => ComesBefore y x)
    (halike : ∀ x ∈ placed, ∀ y ∈ placed, Version.Alike a.version x.1.version y.1.version)
    {y : Artifact × Nat} (hy : y ∈ placed.dropWhile fun x => isLater a x.1) :
    Version.compare a.version y.1.version ≠ .gt := by
  have hbehind : (placed.dropWhile fun x => isLater a x.1).Sublist placed :=
    List.dropWhile_sublist _
  cases hrest : placed.dropWhile fun x => isLater a x.1 with
  | nil => simp [hrest] at hy
  | cons first rest =>
    -- The first of them is where the placing stopped, so the artifact is not later than it.
    have hnot : isLater a first.1 = false := by
      have hhead := List.head?_dropWhile_not (fun x => isLater a x.1) placed
      rw [hrest] at hhead
      exact hhead
    have hstart : Version.compare a.version first.1.version ≠ .gt := by
      rw [Version.compare_swap, ne_eq, Ordering.swap_eq_gt]
      exact fun hlt => absurd (isLater_iff.2 hlt) (by rw [hnot]; decide)
    rw [hrest] at hy hbehind
    rcases List.mem_cons.1 hy with rfl | hy
    · exact hstart
    · -- The others are no earlier than the first, and comparing goes on through it.
      have hnext := (List.rel_of_pairwise_cons (hplaced.sublist hbehind) hy).compare_ne_gt
      have hfirst := hbehind.subset List.mem_cons_self
      have hlast := hbehind.subset (List.mem_cons_of_mem _ hy)
      exact Version.compare_trans (halike first hfirst y hlast) hstart hnext

/-- Placing the artifact that arrives next keeps the artifacts in order, the latest version last, if
the versions can be put in order. -/
theorem pairwise_place {placed : List (Artifact × Nat)} {a : Artifact} {arrivals : Nat}
    (hplaced : placed.Pairwise fun x y => ComesBefore y x) (hfirst : ∀ x ∈ placed, x.2 < arrivals)
    (halike : ∀ x ∈ placed, ∀ y ∈ placed, Version.Alike a.version x.1.version y.1.version) :
    (placed.takeWhile (fun x => isLater a x.1) ++
      (a, arrivals) :: placed.dropWhile (fun x => isLater a x.1)).Pairwise
        fun x y => ComesBefore y x := by
  have hsplit := hplaced
  rw [← List.takeWhile_append_dropWhile (p := fun x => isLater a x.1) (l := placed),
    List.pairwise_append] at hsplit
  obtain ⟨hbefore, hafter, hacross⟩ := hsplit
  -- Behind the place stand artifacts than which this one is not later, and they arrived before it.
  have hbehind : ∀ y ∈ placed.dropWhile (fun x => isLater a x.1), ComesBefore y (a, arrivals) :=
    fun y hy => comesBefore_of_compare_ne_gt (compare_ne_gt_of_mem_dropWhile hplaced halike hy)
      (hfirst y ((List.dropWhile_sublist _).subset hy))
  refine List.pairwise_append.2 ⟨hbefore, List.pairwise_cons.2 ⟨hbehind, hafter⟩, ?_⟩
  intro x hx y hy
  rcases List.mem_cons.1 hy with rfl | hy
  · exact .inl (List.all_eq_true.1 List.all_takeWhile x hx)
  · exact hacross x hx y hy

/-- Placing artifacts as they arrive puts them in order, the latest version last, if the versions
can be put in order. -/
theorem exists_placed {arrived : List Artifact}
    (halike : ∀ a ∈ arrived, ∀ b ∈ arrived, ∀ c ∈ arrived,
      Version.Alike a.version b.version c.version) :
    ∃ placed : List (Artifact × Nat), placed.Perm arrived.zipIdx ∧
      placed.map (·.1) = arrived.foldl (fun placed a => insertByVersion a placed) [] ∧
      placed.Pairwise fun x y => ComesBefore y x := by
  -- The last to arrive is placed among the others, which are in order by then.
  induction arrived using List.reverseRecOn with
  | nil => exact ⟨[], .refl _, rfl, .nil⟩
  | append_singleton arrived a ih =>
    obtain ⟨placed, hperm, hmap, hpairwise⟩ := ih fun a ha b hb c hc =>
      halike a (List.mem_append_left _ ha) b (List.mem_append_left _ hb) c
        (List.mem_append_left _ hc)
    have hmem : ∀ x ∈ placed, x.1 ∈ arrived ∧ x.2 < arrived.length := by
      intro x hx
      have hx := hperm.mem_iff.1 hx
      exact ⟨List.fst_mem_of_mem_zipIdx hx, List.snd_lt_of_mem_zipIdx hx⟩
    refine ⟨_, ?_, ?_, pairwise_place hpairwise (fun x hx => (hmem x hx).2) fun x hx y hy =>
      halike a (List.mem_append_right _ (List.mem_singleton_self a)) x.1
        (List.mem_append_left _ (hmem x hx).1) y.1 (List.mem_append_left _ (hmem y hy).1)⟩
    · rw [List.zipIdx_append, List.zipIdx_singleton, Nat.zero_add]
      refine List.perm_middle.trans ?_
      rw [List.takeWhile_append_dropWhile]
      exact (hperm.cons _).trans (List.perm_append_singleton _ _).symm
    · rw [List.foldl_append, List.foldl_cons, List.foldl_nil, ← hmap, insertByVersion_eq,
        List.takeWhile_map, List.dropWhile_map, List.map_append, List.map_cons]
      rfl

/-- Putting artifacts in order lists them by version, and those of equal versions as they arrived,
if the versions can be put in order. -/
theorem exists_ordered {arrived : List Artifact}
    (halike : ∀ a ∈ arrived, ∀ b ∈ arrived, ∀ c ∈ arrived,
      Version.Alike a.version b.version c.version) :
    ∃ ordered : List (Artifact × Nat), ordered.Perm arrived.zipIdx ∧
      ordered.map (·.1) = latestFirst arrived ∧ ordered.Pairwise ComesBefore := by
  obtain ⟨placed, hperm, hmap, hpairwise⟩ := exists_placed halike
  refine ⟨placed.reverse, (List.reverse_perm placed).trans hperm, ?_,
    List.pairwise_reverse.2 hpairwise⟩
  rw [List.map_reverse, hmap]
  rfl

/-! ## The first of each identity -/

/-- The artifact is the first of its identity that arrived, after the number of artifacts that
stands beside it. -/
def FirstToArrive (arrived : List Artifact) (x : Artifact × Nat) : Prop :=
  arrived[x.2]? = some x.1 ∧
    ∀ b place, arrived[place]? = some b → identity b = identity x.1 → x.2 ≤ place

/-- What a catalog lists, with the places at which it arrived: of each identity that is recent
enough the first artifact that arrived, and nothing else. -/
structure Keeps (floor : Option String) (arrived : List Artifact) (kept : List (Artifact × Nat))
    (listed : List Artifact) : Prop where
  /-- These artifacts are listed, in this order. -/
  map_fst : kept.map (·.1) = listed
  /-- An artifact is kept if and only if it is the first of its identity and recent enough. -/
  mem_iff : ∀ x, x ∈ kept ↔ FirstToArrive arrived x ∧
    ∀ lowest, floor = some lowest → Version.compare x.1.version lowest ≠ .lt

/-- The first of an identity in a list is kept, and nothing of that identity stands before it. -/
theorem exists_distinct (ordered : List (Artifact × Nat)) :
    ∃ kept : List (Artifact × Nat), kept.Sublist ordered ∧
      kept.map (·.1) = distinct (ordered.map (·.1)) ∧
      ∀ x ∈ kept, ∃ before after, ordered = before ++ x :: after ∧
        ∀ y ∈ before, identity y.1 ≠ identity x.1 := by
  induction ordered with
  | nil => exact ⟨[], .slnil, rfl, by simp⟩
  | cons first ordered ih =>
    obtain ⟨kept, hsublist, hmap, hfirst⟩ := ih
    refine ⟨first :: kept.filter fun x => identity x.1 ≠ identity first.1,
      (List.filter_sublist.trans hsublist).cons_cons first, ?_, ?_⟩
    · rw [List.map_cons, List.map_cons, distinct, ← hmap, List.filter_map]
      rfl
    · intro x hx
      rcases List.mem_cons.1 hx with rfl | hx
      · exact ⟨[], ordered, rfl, by simp⟩
      · -- It is kept behind the first, so it has another identity.
        obtain ⟨hx, hne⟩ := List.mem_filter.1 hx
        obtain ⟨before, after, rfl, hbefore⟩ := hfirst x hx
        refine ⟨first :: before, after, rfl, List.forall_mem_cons.2 ⟨?_, hbefore⟩⟩
        exact Ne.symm (of_decide_eq_true hne)

/-- Only one artifact of an identity is the first that arrived. -/
theorem FirstToArrive.eq {arrived : List Artifact} {x y : Artifact × Nat}
    (hx : FirstToArrive arrived x) (hy : FirstToArrive arrived y)
    (hidentity : identity x.1 = identity y.1) : x = y := by
  obtain ⟨hgetx, hleastx⟩ := hx
  obtain ⟨hgety, hleasty⟩ := hy
  have hplace : x.2 = y.2 := Nat.le_antisymm (hleastx y.1 y.2 hgety hidentity.symm)
    (hleasty x.1 x.2 hgetx hidentity)
  rw [hplace, hgety] at hgetx
  exact Prod.ext (Option.some.inj hgetx).symm hplace

/-- If of one identity the earlier arrivals come before the later ones, what stands behind nothing
of its identity is the first that arrived. -/
theorem firstToArrive_of_pairwise {R : Artifact × Nat → Artifact × Nat → Prop}
    (hR : ∀ x y, R x y → identity x.1 = identity y.1 → x.2 < y.2) {arrived : List Artifact}
    {before after : List (Artifact × Nat)} {x : Artifact × Nat}
    (hperm : (before ++ x :: after).Perm arrived.zipIdx)
    (hordered : (before ++ x :: after).Pairwise R)
    (hbefore : ∀ y ∈ before, identity y.1 ≠ identity x.1) : FirstToArrive arrived x := by
  have hplace : ∀ y, y ∈ before ++ x :: after ↔ arrived[y.2]? = some y.1 := fun y =>
    hperm.mem_iff.trans List.mem_zipIdx_iff_getElem?
  refine ⟨(hplace x).1 (List.mem_append_right _ List.mem_cons_self),
    fun b place hb hidentity => ?_⟩
  rcases List.mem_append.1 ((hplace (b, place)).2 hb) with hb | hb
  · exact absurd hidentity (hbefore _ hb)
  · rcases List.mem_cons.1 hb with rfl | hb
    · exact Nat.le_refl _
    · have hafter := (List.pairwise_append.1 hordered).2.1
      exact Nat.le_of_lt (hR _ _ (List.rel_of_pairwise_cons hafter hb) hidentity.symm)

/-- If of one identity the earlier arrivals come before the later ones, the first of each identity
that is listed is the first that arrived. -/
theorem exists_kept {R : Artifact × Nat → Artifact × Nat → Prop}
    (hR : ∀ x y, R x y → identity x.1 = identity y.1 → x.2 < y.2) (floor : Option String)
    {arrived : List Artifact} {ordered : List (Artifact × Nat)}
    (hperm : ordered.Perm arrived.zipIdx) (hordered : ordered.Pairwise R) :
    ∃ kept, Keeps floor arrived kept ((distinct (ordered.map (·.1))).filter (reaches floor)) ∧
      kept.Pairwise R := by
  obtain ⟨kept, hsublist, hmap, hbefore⟩ := exists_distinct ordered
  have hfirst : ∀ x ∈ kept, FirstToArrive arrived x := by
    intro x hx
    obtain ⟨before, after, rfl, hne⟩ := hbefore x hx
    exact firstToArrive_of_pairwise hR hperm hordered hne
  refine ⟨kept.filter fun x => reaches floor x.1, ⟨?_, fun x => ?_⟩,
    (hordered.sublist hsublist).filter _⟩
  · rw [← hmap, List.filter_map]
    rfl
  · rw [List.mem_filter, reaches_iff]
    refine and_congr_left fun _ => ⟨hfirst x, fun hx => ?_⟩
    -- Something of the same identity is kept, and both are the first that arrived.
    have hlisted : x.1 ∈ ordered.map (·.1) :=
      List.mem_map_of_mem (hperm.mem_iff.2 (List.mem_zipIdx_iff_getElem?.2 hx.1))
    obtain ⟨b, hb, hidentity⟩ := exists_mem_distinct hlisted
    rw [← hmap] at hb
    obtain ⟨y, hy, rfl⟩ := List.mem_map.1 hb
    rw [← (hfirst y hy).eq hx hidentity]
    exact hy

/-! ## The listed artifacts -/

/-- The artifacts of one offer are listed as they arrived. -/
theorem exists_kept_of_one (floor : Option String) {lists : List (List Artifact)}
    (hone : lists.length = 1) :
    ∃ kept, Keeps floor lists.flatten kept (arrange floor lists) ∧
      kept.Pairwise fun x y => x.2 < y.2 := by
  have hplaces : lists.flatten.zipIdx.Pairwise fun x y => x.2 < y.2 := by
    rw [← List.pairwise_map (f := Prod.snd) (R := (· < ·)), List.zipIdx_map_snd]
    exact List.pairwise_lt_range'
  obtain ⟨kept, hkeeps, hpairwise⟩ :=
    exists_kept (fun _ _ hlt _ => hlt) floor (.refl lists.flatten.zipIdx) hplaces
  refine ⟨kept, ?_, hpairwise⟩
  rw [arrange_of_le_one floor (Nat.le_of_eq hone)]
  rwa [List.zipIdx_map_fst] at hkeeps

/-- The artifacts of several offers are listed by version, if the versions can be put in order. -/
theorem exists_kept_of_several (floor : Option String) {lists : List (List Artifact)}
    (hmany : 1 < lists.length)
    (halike : ∀ a ∈ lists.flatten, ∀ b ∈ lists.flatten, ∀ c ∈ lists.flatten,
      Version.Alike a.version b.version c.version) :
    ∃ kept, Keeps floor lists.flatten kept (arrange floor lists) ∧ kept.Pairwise ComesBefore := by
  obtain ⟨ordered, hperm, hmap, hordered⟩ := exists_ordered halike
  obtain ⟨kept, hkeeps, hpairwise⟩ :=
    exists_kept (fun _ _ => ComesBefore.lt_of_identity_eq) floor hperm hordered
  refine ⟨kept, ?_, hpairwise⟩
  rw [arrange_of_one_lt floor hmany, ← hmap]
  exact hkeeps

/-- The first artifact has the greater list of numbers for a version, or the same one and arrived
first. -/
def Descends (x y : Artifact × Nat) : Prop :=
  ∃ m n, Version.numbers? x.1.version = some m ∧ Version.numbers? y.1.version = some n ∧
    (n < m ∨ n = m ∧ x.2 < y.2)

/-- Artifacts with versions of numerals are listed by their numbers. -/
theorem ComesBefore.descends {x y : Artifact × Nat} (h : ComesBefore x y)
    (hx : (Version.numbers? x.1.version).isSome = true)
    (hy : (Version.numbers? y.1.version).isSome = true) : Descends x y := by
  obtain ⟨m, hm⟩ := Option.isSome_iff_exists.1 hx
  obtain ⟨n, hn⟩ := Option.isSome_iff_exists.1 hy
  refine ⟨m, n, hm, hn, ?_⟩
  rcases h with hlater | ⟨heq, hfirst⟩
  · exact .inl ((Version.compare_eq_lt_iff_of_numeric hn hm).1 (isLater_iff.1 hlater))
  · exact .inr ⟨((Version.compare_eq_eq_iff_of_numeric hm hn).1 heq).symm, hfirst⟩

/-- A normalized listing gives each component, of every identity that is recent enough, the first
artifact that arrived in the component's offers. If the component has one offer, these artifacts are
listed as they arrived. If it has several, and all their versions consist of numerals, then they are
listed with the greatest numbers first, and those with the same numbers as they arrived. -/
theorem normalize_order {options : Options} {offers : List Offer} {catalog : Catalog}
    (h : normalize options offers = .ok catalog) (c : Component) :
    ∃ arrived : List Artifact,
      (buildsOf options offers c).flatten.map artifactOf = arrived.map .ok ∧
      ((buildsOf options offers c).length = 1 →
        (catalog.artifacts c).Sublist arrived ∧
        ∃ kept, Keeps (options.floor? c) arrived kept (catalog.artifacts c) ∧
          kept.Pairwise fun x y => x.2 < y.2) ∧
      (1 < (buildsOf options offers c).length →
        (∀ build ∈ (buildsOf options offers c).flatten,
          (Version.numbers? build.version).isSome = true) →
        ∃ kept, Keeps (options.floor? c) arrived kept (catalog.artifacts c) ∧
          kept.Pairwise Descends) := by
  -- The artifacts that arrived are those of all offers in one row.
  obtain ⟨lists, hread, hlist⟩ := normalize_eq_ok h c
  have hlength : (buildsOf options offers c).length = lists.length := by
    simpa using congrArg List.length hread
  have harrived := map_flatten_eq hread
  rw [artifacts_eq_arrange hlist, hlength]
  refine ⟨lists.flatten, harrived, fun hone => ⟨?_, exists_kept_of_one _ hone⟩, ?_⟩
  · rw [arrange_of_le_one _ (Nat.le_of_eq hone)]
    exact List.filter_sublist.trans (distinct_sublist _)
  · intro hmany hnumeric
    -- Versions of numerals can be put in order, so merging lists them by version.
    have hnumbers : ∀ a ∈ lists.flatten, (Version.numbers? a.version).isSome = true := by
      intro a ha
      obtain ⟨build, hbuild, hartifact⟩ := exists_build_of_mem harrived ha
      rw [(names_of_artifactOf hartifact).1]
      exact hnumeric build hbuild
    obtain ⟨kept, hkeeps, hpairwise⟩ := exists_kept_of_several (options.floor? c) hmany
      fun a ha b hb c hc =>
        Version.alike_of_numeric (hnumbers a ha) (hnumbers b hb) (hnumbers c hc)
    refine ⟨kept, hkeeps, hpairwise.imp_of_mem fun {x y} hx hy hbefore => ?_⟩
    -- What is kept was there before, so its version is one of these.
    have hmem : ∀ x ∈ kept, x.1 ∈ lists.flatten := fun x hx =>
      List.mem_of_getElem? ((hkeeps.mem_iff x).1 hx).1.1
    exact hbefore.descends (hnumbers x.1 (hmem x hx)) (hnumbers y.1 (hmem y hy))

/-- Two offers for the engine, one of them for its other name, with one for the manager between
them. Two versions of the engine differ only in writing, and one build is offered twice. -/
def mergedOffers : List Offer :=
  [⟨"engine", [sampleBuild "4.1" (some "1") "a", sampleBuild "4.10" none "b"]⟩,
   ⟨"manager", [sampleBuild "4.0" none "m", sampleBuild "4.1" none "n",
     sampleBuild "4.0" none "m"]⟩,
   ⟨"core", [sampleBuild "4.01" none "c", sampleBuild "4.10.0" none "d",
     { sampleBuild "4.1" (some "1") "a" with edition := none }]⟩]

/-- The catalog of these offers. The longer version comes before the one that begins it, and equal
versions stay as they arrived. -/
def mergedCatalog : Catalog :=
  (empty.insert .core [⟨"4.10.0", none, "d", .community, 0, .remote⟩,
    ⟨"4.10", none, "b", .community, 0, .remote⟩, ⟨"4.1", some "1", "a", .community, 0, .remote⟩,
    ⟨"4.01", none, "c", .community, 0, .remote⟩]).insert .manager
      [⟨"4.0", none, "m", .community, 0, .remote⟩, ⟨"4.1", none, "n", .community, 0, .remote⟩]

/-- The sample is in order: the manager as it arrived, and the engine by its versions. -/
theorem normalize_order_merged :
    normalize sampleOptions mergedOffers = .ok mergedCatalog ∧
      (∃ arrived kept, Keeps none arrived kept (mergedCatalog.artifacts .manager) ∧
        kept.Pairwise fun x y => x.2 < y.2) ∧
      ∃ arrived kept, Keeps (some "4") arrived kept (mergedCatalog.artifacts .core) ∧
        kept.Pairwise Descends := by
  have hok : normalize sampleOptions mergedOffers = .ok mergedCatalog := by rfl
  obtain ⟨arrivedManager, -, hone, -⟩ := normalize_order hok .manager
  obtain ⟨arrivedCore, -, -, hmany⟩ := normalize_order hok .core
  obtain ⟨-, keptManager, hmanager⟩ := hone (by decide +kernel)
  obtain ⟨keptCore, hcore⟩ := hmany (by decide +kernel) (by decide +kernel)
  exact ⟨hok, ⟨arrivedManager, keptManager, hmanager⟩, arrivedCore, keptCore, hcore⟩

end Rollout.Catalog
