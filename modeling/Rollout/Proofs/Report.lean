import Rollout.Proofs.Session.Listing
import Rollout.Proofs.Session.Readiness
import Rollout.Render

/-!
# A listing and a summary tell the same

A session over a normalized catalog is shown in two ways: as a listing of everything there is, with
the chosen artifacts marked, and as a summary of what is chosen. The mark is found by comparing
whole artifacts, while the summary takes what is chosen from the selection, and each of the two
shows a version by a rule of its own. Still they agree in every state that is reached
(`Session.listing_agrees_with_summary`).

Exactly one row of a component is marked because what is chosen is one of its artifacts
(`Session.Settled`) and none of them occurs twice. The rules for versions differ only for an empty
release, and no artifact of a normalized catalog has one.
-/

namespace Rollout

/-! ## What is shown of an artifact -/

/-- Unless a release is empty, a summary shows the version as a listing does. -/
theorem Artifact.shownVersion_selected {a : Artifact} (h : a.release ≠ some "") :
    a.selected.shownVersion = a.displayVersion := by
  unfold selected SelectedVersion.shownVersion displayVersion
  cases hrelease : a.release with
  | none => rfl
  | some release =>
    -- The case of an empty release comes first, so the last case needs that it is none.
    have hne : release ≠ "" := fun hempty => h (hempty ▸ hrelease)
    simp

/-- What a row tells of its artifact, apart from the mark. -/
def ListedArtifact.facts (row : ListedArtifact) : String × String × String × UInt64 :=
  (row.key, row.version, row.edition, row.size)

/-- What there is to tell of an artifact in a listing. -/
def Artifact.facts (a : Artifact) : String × String × String × UInt64 :=
  (a.key.text, a.displayVersion, a.edition.name, a.size)

/-- The values that are there may be changed one by one. -/
theorem ByComponent.present_ofFn_map {α β : Type} (t : ByComponent (Option α))
    (f : Component → α → β) :
    (ofFn fun c => (t.get c).map (f c)).present = t.present.map fun (c, x) => (c, f c x) := by
  unfold present
  rw [List.map_filterMap]
  congr 1
  funext c
  rw [get_ofFn]
  cases t.get c <;> rfl

namespace Catalog

open Service

variable {options : Options} {offers : List Offer} {catalog : Catalog} {c : Component}

/-- No artifact of a normalized catalog has an empty release. -/
theorem release_ne_of_normalize (h : normalize options offers = .ok catalog) {a : Artifact}
    (ha : a ∈ catalog.artifacts c) : a.release ≠ some "" := by
  obtain ⟨⟨_, _, _, build, _, hbuild⟩, -⟩ := source_of_mem_artifacts h ha
  exact release_ne_of_artifactOf hbuild

/-- No artifact of a normalized catalog occurs twice in the list of a component. -/
theorem nodup_artifacts_of_normalize (h : normalize options offers = .ok catalog) (c : Component) :
    (catalog.artifacts c).Nodup :=
  (pairwise_artifacts_of_normalize h c).imp fun hidentity heq => hidentity (congrArg identity heq)

end Catalog

/-! ## What is shown of a session -/

namespace Session

/-- The listing holds the components of the catalog with their artifacts, in the same order. -/
theorem present_listing (s : Session) :
    (s.listing.components.present.map fun (c, rows) => (c, rows.map ListedArtifact.facts)) =
      s.catalog.entries.map fun (c, artifacts) => (c, artifacts.map Artifact.facts) := by
  have hlisting : s.listing.components.present = s.catalog.entries.map fun (c, artifacts) =>
      (c, artifacts.map fun a => a.listed (s.selection.get? c = some a)) :=
    ByComponent.present_ofFn_map s.catalog.lists _
  rw [hlisting, List.map_map]
  congr 1
  funext ⟨c, artifacts⟩
  simp only [Function.comp_apply, List.map_map]
  rfl

/-- The summary tells of a component what is chosen for it. -/
theorem get_summary (s : Session) (ignored : List String) (c : Component) :
    (s.summary ignored).selection.get c = (s.selection.get? c).map Artifact.selected :=
  ByComponent.get_ofFn _ c

/-- In the table of a summary the row of a component shows the artifact that is chosen for it. -/
theorem row?_summary {s : Session} {c : Component} {a : Artifact}
    (h : s.selection.get? c = some a) (ignored : List String) :
    (s.summary ignored).row? c =
      some [c.name, a.selected.shownVersion, a.edition.name, mebibytes a.size] := by
  unfold Summary.row?
  rw [get_summary, h]
  rfl

end Session

/-- In every state that a session over a normalized catalog reaches, the listing holds the catalog's
components and artifacts in their order. In each component with artifacts exactly one row is marked,
and the summary has an entry with the key, edition and size of this row, for which its table shows
the version of the row. A component without artifacts has no rows and no entry. -/
theorem Session.listing_agrees_with_summary {options : Catalog.Options}
    {offers : List Service.Offer} {catalog : Catalog}
    (h : Catalog.normalize options offers = .ok catalog) (flow : Flow) (policy : ResolverPolicy)
    (actions : List Action) (ignored : List String) :
    let s := (Session.start catalog flow policy).1.after actions
    let summary := Report.summary ⟨s, ignored⟩
    (s.listing.components.present.map fun (c, rows) => (c, rows.map ListedArtifact.facts)) =
      (catalog.entries.map fun (c, artifacts) => (c, artifacts.map Artifact.facts)) ∧
    ∀ c,
      (catalog.artifacts c = [] → s.rows c = [] ∧ summary.selection.get c = none) ∧
      (catalog.artifacts c ≠ [] → ∃ i row entry, (s.rows c)[i]? = some row ∧
        (∀ (j : Nat) (other : ListedArtifact), (s.rows c)[j]? = some other →
          (other.selected = true ↔ j = i)) ∧
        summary.selection.get c = some entry ∧
        entry.key = row.key ∧ entry.edition = row.edition ∧ entry.size = row.size ∧
        summary.row? c = some [c.name, row.version, row.edition, mebibytes row.size]) := by
  intro s summary
  have hsettled := Settled.after catalog flow policy actions
  have hcatalog : s.catalog = catalog := hsettled.catalog_eq
  refine ⟨hcatalog ▸ s.present_listing, fun c => ⟨fun hnone => ?_, fun hsome => ?_⟩⟩
  · -- Without artifacts nothing is chosen.
    have hget : s.selection.get? c = none :=
      Option.not_isSome_iff_eq_none.1 fun hchosen =>
        (hsettled.drawsFrom c).contains_iff.1 hchosen hnone
    refine ⟨?_, ?_⟩
    · rw [rows_eq, hcatalog, hnone]
      rfl
    · show (s.summary ignored).selection.get c = none
      rw [get_summary, hget]
      rfl
  · -- What is chosen is an artifact of the catalog, and its place is the marked row.
    have hcontains : s.selection.contains c = true := (hsettled.drawsFrom c).contains_iff.2 hsome
    obtain ⟨a, hget⟩ := Option.isSome_iff_exists.1 hcontains
    have hmem : a ∈ catalog.artifacts c := (hsettled.drawsFrom c).mem hget
    obtain ⟨i, hi⟩ := List.mem_iff_getElem?.1 hmem
    rw [← hcatalog] at hi
    have hnodup : (s.catalog.artifacts c).Nodup :=
      hcatalog ▸ Catalog.nodup_artifacts_of_normalize h c
    -- The row at this place shows what is chosen, and it alone is marked.
    have hrow : (s.rows c)[i]? = some (a.listed (s.selection.get? c = some a)) := by
      rw [getElem?_rows, hi]
      rfl
    refine ⟨i, _, a.selected, hrow, fun j other => selected_iff hnodup hi hget, ?_, rfl, rfl, rfl,
      ?_⟩
    · show (s.summary ignored).selection.get c = some a.selected
      rw [get_summary, hget]
      rfl
    · have hversion := Artifact.shownVersion_selected (Catalog.release_ne_of_normalize h hmem)
      exact (row?_summary hget ignored).trans (by rw [hversion]; rfl)

open Catalog in
/-- In the sample one engine is marked, and the proxy has neither rows nor an entry. -/
theorem Session.listing_agrees_with_summary_sample :
    let s := (Session.start sampleCatalog .install .standard).1.after
      [.select .core ⟨"4.1", none, "a"⟩]
    normalize sampleOptions sampleOffers = .ok sampleCatalog ∧
      s.selection.get? .core = some ⟨"4.1", none, "a", .community, 0, .remote⟩ ∧
      (∃ row ∈ s.rows .core, row.selected = true ∧
        (Report.summary ⟨s, ["charts"]⟩).row? .core =
          some ["core", row.version, row.edition, mebibytes row.size]) ∧
      s.rows .proxy = [] ∧ (Report.summary ⟨s, ["charts"]⟩).selection.get .proxy = none := by
  intro s
  have hok : normalize sampleOptions sampleOffers = .ok sampleCatalog := by rfl
  obtain ⟨-, hviews⟩ := listing_agrees_with_summary hok .install .standard
    [.select .core ⟨"4.1", none, "a"⟩] ["charts"]
  obtain ⟨i, row, entry, hrow, hmarked, -, -, -, -, hshown⟩ :=
    (hviews .core).2 (by decide +kernel)
  obtain ⟨hempty, hnone⟩ := (hviews .proxy).1 (by decide +kernel)
  exact ⟨hok, by decide +kernel,
    ⟨row, List.mem_of_getElem? hrow, (hmarked i row hrow).2 rfl, hshown⟩, hempty, hnone⟩

end Rollout
