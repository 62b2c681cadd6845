import Rollout.Catalog.Normalize

/-!
# What is kept of a component's artifacts

`arrange` puts the artifacts of a component in order, keeps the first of each identity and leaves
out what is too old. Nothing is invented (`mem_of_mem_arrange`), nothing that is recent enough is
lost but for a copy of the same identity (`exists_mem_arrange`), and no identity is left twice
(`pairwise_arrange`). Of the order these statements use only that it is one of the same artifacts.
-/

namespace Rollout.Catalog

/-! ## Order -/

/-- Inserting an artifact adds it and nothing else. -/
theorem insertByVersion_perm (a : Artifact) (placed : List Artifact) :
    (insertByVersion a placed).Perm (a :: placed) := by
  induction placed with
  | nil => exact .refl _
  | cons b placed ih =>
    rw [insertByVersion]
    split
    · exact (ih.cons b).trans (.swap a b placed)
    · exact .refl _

/-- Putting artifacts in order neither loses nor adds any. -/
theorem latestFirst_perm (artifacts : List Artifact) : (latestFirst artifacts).Perm artifacts := by
  -- What was placed before and what is still to be placed are the artifacts of the whole.
  have hfold : ∀ placed, (artifacts.foldl (fun placed a => insertByVersion a placed) placed).Perm
      (placed ++ artifacts) := by
    induction artifacts with
    | nil =>
      intro placed
      rw [List.append_nil]
      exact .refl _
    | cons a artifacts ih =>
      intro placed
      have hinsert : (insertByVersion a placed ++ artifacts).Perm (a :: placed ++ artifacts) :=
        (insertByVersion_perm a placed).append_right artifacts
      exact (ih (insertByVersion a placed)).trans (hinsert.trans List.perm_middle.symm)
  unfold latestFirst
  exact (List.reverse_perm _).trans (hfold [])

/-! ## Identities -/

/-- What is kept stays in its order. -/
theorem distinct_sublist (artifacts : List Artifact) : (distinct artifacts).Sublist artifacts := by
  induction artifacts with
  | nil => exact .slnil
  | cons a artifacts ih => exact (List.filter_sublist.trans ih).cons_cons a

/-- Every identity is kept. -/
theorem exists_mem_distinct {artifacts : List Artifact} {a : Artifact} (h : a ∈ artifacts) :
    ∃ b ∈ distinct artifacts, identity b = identity a := by
  induction artifacts with
  | nil => contradiction
  | cons first artifacts ih =>
    by_cases hfirst : identity first = identity a
    · exact ⟨first, List.mem_cons_self, hfirst⟩
    · have hmem : a ∈ artifacts := by
        rcases List.mem_cons.1 h with rfl | hmem
        · exact absurd rfl hfirst
        · exact hmem
      -- What is kept of the rest has another identity than the first one, so that it stays.
      obtain ⟨b, hb, hidentity⟩ := ih hmem
      refine ⟨b, List.mem_cons_of_mem _ (List.mem_filter.2 ⟨hb, ?_⟩), hidentity⟩
      rw [decide_eq_true_eq, hidentity]
      exact Ne.symm hfirst

/-- No identity is kept twice. -/
theorem pairwise_distinct (artifacts : List Artifact) :
    (distinct artifacts).Pairwise fun a b => identity a ≠ identity b := by
  induction artifacts with
  | nil => exact .nil
  | cons a artifacts ih =>
    refine List.pairwise_cons.2 ⟨fun b hb => ?_, ih.filter _⟩
    have hne := (List.mem_filter.1 hb).2
    rw [decide_eq_true_eq] at hne
    exact Ne.symm hne

/-! ## The list of a component -/

/-- An artifact reaches a lowest version unless it comes before it. -/
theorem reaches_iff {floor : Option String} {a : Artifact} :
    reaches floor a = true ↔
      ∀ lowest, floor = some lowest → Version.compare a.version lowest ≠ .lt := by
  cases floor with
  | none => simp [reaches]
  | some lowest => simp [reaches]

/-- Artifacts of one identity are equally recent. -/
theorem reaches_congr {floor : Option String} {a b : Artifact} (h : identity a = identity b) :
    reaches floor a = reaches floor b := by
  have hversion : a.version = b.version := congrArg Prod.fst h
  unfold reaches
  rw [hversion]

/-- The artifacts of at most one offer are taken as they are. -/
theorem arrange_of_le_one (floor : Option String) {offers : List (List Artifact)}
    (hfew : offers.length ≤ 1) :
    arrange floor offers = (distinct offers.flatten).filter (reaches floor) := by
  simp only [arrange, if_neg (Nat.not_lt.2 hfew)]

/-- The artifacts of several offers are put in order first. -/
theorem arrange_of_one_lt (floor : Option String) {offers : List (List Artifact)}
    (hmany : 1 < offers.length) :
    arrange floor offers = (distinct (latestFirst offers.flatten)).filter (reaches floor) := by
  simp only [arrange, if_pos hmany]

/-- Before identities are looked at, the artifacts of a component are those of its offers. -/
theorem arrange_eq (floor : Option String) (offers : List (List Artifact)) :
    ∃ ordered, ordered.Perm offers.flatten ∧
      arrange floor offers = (distinct ordered).filter (reaches floor) := by
  by_cases hmany : 1 < offers.length
  · exact ⟨latestFirst offers.flatten, latestFirst_perm _, arrange_of_one_lt floor hmany⟩
  · exact ⟨offers.flatten, .refl _, arrange_of_le_one floor (Nat.not_lt.1 hmany)⟩

/-- What is kept was offered, and is recent enough. -/
theorem mem_of_mem_arrange {floor : Option String} {offers : List (List Artifact)} {a : Artifact}
    (h : a ∈ arrange floor offers) : a ∈ offers.flatten ∧ reaches floor a = true := by
  obtain ⟨ordered, hperm, heq⟩ := arrange_eq floor offers
  rw [heq] at h
  obtain ⟨hmem, hreaches⟩ := List.mem_filter.1 h
  exact ⟨hperm.mem_iff.1 ((distinct_sublist ordered).subset hmem), hreaches⟩

/-- Of what is offered and recent enough, an artifact of the same identity is kept. -/
theorem exists_mem_arrange {floor : Option String} {offers : List (List Artifact)} {a : Artifact}
    (hmem : a ∈ offers.flatten) (hreaches : reaches floor a = true) :
    ∃ b ∈ arrange floor offers, identity b = identity a := by
  obtain ⟨ordered, hperm, heq⟩ := arrange_eq floor offers
  obtain ⟨b, hb, hidentity⟩ := exists_mem_distinct (hperm.mem_iff.2 hmem)
  refine ⟨b, ?_, hidentity⟩
  rw [heq, List.mem_filter, reaches_congr hidentity]
  exact ⟨hb, hreaches⟩

/-- No identity is left twice. -/
theorem pairwise_arrange (floor : Option String) (offers : List (List Artifact)) :
    (arrange floor offers).Pairwise fun a b => identity a ≠ identity b := by
  obtain ⟨ordered, -, heq⟩ := arrange_eq floor offers
  rw [heq]
  exact (pairwise_distinct ordered).filter _

end Rollout.Catalog
