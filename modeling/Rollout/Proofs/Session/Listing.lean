import Mathlib.Data.List.Nodup
import Rollout.Proofs.Session.Choice
import Rollout.Report

/-!
# Rows of a listing and their keys

A row of the listing shows the text of an artifact's key. Where no release and no checksum of a
component has a dash, the texts of its rows differ, and the text of a row chooses the artifact of
that row: in the listing after the choice it is marked, and no other is (`selected_iff`).

With dashes this is not so. A normalized catalog has no two artifacts with the same version, release
and checksum, but the three may be joined to the same text, and then the text of the later row
chooses the artifact of the earlier one (`Catalog.dashedOffers`).
-/

namespace Rollout

namespace Session

/-- The rows of a component in the listing of a session, none if it is absent. -/
def rows (s : Session) (c : Component) : List ListedArtifact :=
  (s.listing.components.get c).getD []

/-- There is a row for each artifact of the component. -/
theorem rows_eq (s : Session) (c : Component) :
    s.rows c = (s.catalog.artifacts c).map fun a => a.listed (s.selection.get? c = some a) := by
  unfold rows listing Catalog.artifacts
  rw [ByComponent.get_ofFn]
  cases s.catalog.artifacts? c <;> rfl

/-- A row shows the artifact at its position, with the text of its key. -/
theorem getElem?_rows (s : Session) (c : Component) (i : Nat) :
    (s.rows c)[i]? =
      (s.catalog.artifacts c)[i]?.map fun a => a.listed (s.selection.get? c = some a) := by
  rw [rows_eq, List.getElem?_map]

/-- A choice whose key is found in the catalog changes the selection to what is found. -/
theorem exists_select_of_find? {s : Session} {c : Component} {key : Key} {a : Artifact}
    (h : s.catalog.find? c key = some a) : ∃ outcome events,
      s.select c key = .ok ({ s with selection := s.choosing c a }, outcome, events) := by
  refine ⟨(s.choose c a).2.1, (s.choose c a).2.2, ?_⟩
  rw [select_eq_ok_of_find (find_eq_ok_iff.2 h), ← choose_fst]

/-- If no artifact of the component occurs twice, the row of the chosen artifact is marked and no
other is. -/
theorem selected_iff {s : Session} {c : Component} (hnodup : (s.catalog.artifacts c).Nodup)
    {i : Nat} {a : Artifact} (ha : (s.catalog.artifacts c)[i]? = some a)
    (hselected : s.selection.get? c = some a) {j : Nat} {row : ListedArtifact}
    (hrow : (s.rows c)[j]? = some row) : row.selected = true ↔ j = i := by
  rw [getElem?_rows] at hrow
  obtain ⟨b, hb, rfl⟩ := Option.map_eq_some_iff.1 hrow
  obtain ⟨hi, rfl⟩ := List.getElem?_eq_some_iff.1 ha
  obtain ⟨hj, rfl⟩ := List.getElem?_eq_some_iff.1 hb
  show decide _ = true ↔ _
  rw [decide_eq_true_eq, hselected, Option.some_inj, hnodup.getElem_inj_iff]
  exact eq_comm

end Session

namespace Catalog

open Service

/-- If no release and no checksum of a component has a dash, no two rows of a normalized catalog
have the same key text, and choosing by the text of a row chooses the artifact of this row, so that
it alone is marked in the listing afterwards. The text can be read as a key unless version or
checksum are empty. -/
theorem select_row {options : Options} {offers : List Offer} {catalog : Catalog} {c : Component}
    (h : normalize options offers = .ok catalog)
    (hdash : ∀ a ∈ catalog.artifacts c,
      '-' ∉ (a.release.getD "").toList ∧ '-' ∉ a.checksum.toList) :
    ((catalog.artifacts c).map (·.key.text)).Nodup ∧
    ∀ s : Session, s.catalog = catalog →
      ∀ (i : Nat) (a : Artifact), (catalog.artifacts c)[i]? = some a →
        (s.rows c)[i]?.map (·.key) = some a.key.text ∧
        (a.version ≠ "" → a.checksum ≠ "" →
          ∃ key, Key.parse a.key.text = .ok key ∧ key.text = a.key.text) ∧
        ∀ key : Key, key.text = a.key.text →
          ∃ s' outcome events, s.select c key = .ok (s', outcome, events) ∧
            s'.selection.get? c = some a ∧
            ∀ (j : Nat) (row : ListedArtifact), (s'.rows c)[j]? = some row →
              (row.selected = true ↔ j = i) := by
  -- Without dashes the artifacts of a component have different texts, since they are different.
  have hne : (catalog.artifacts c).Nodup :=
    (pairwise_artifacts_of_normalize h c).imp fun hidentity heq => hidentity (congrArg _ heq)
  have htexts : ((catalog.artifacts c).map (·.key.text)).Nodup :=
    hne.map_on fun a ha b hb htext => eq_of_key_text_eq h hdash ha hb htext
  refine ⟨htexts, ?_⟩
  rintro s rfl i a ha
  have hmem : a ∈ s.catalog.artifacts c := List.mem_of_getElem? ha
  refine ⟨?_, fun hversion hchecksum => ?_, fun key htext => ?_⟩
  · rw [s.getElem?_rows, ha]
    rfl
  · -- A checksum without dashes does not end with one, so the text can be read.
    have hlast : a.checksum.toList.getLast? ≠ some '-' := fun hlast =>
      (hdash a hmem).2 (List.mem_of_getLast? hlast)
    exact Key.exists_parse_text hversion hchecksum hlast
  · -- What is found by the text is an artifact of the same text, and so the one of the row.
    obtain ⟨b, hfound⟩ := exists_find? hmem htext.symm
    have hkey := (find?_eq_some_iff.1 hfound).1
    obtain rfl : b = a :=
      eq_of_key_text_eq h hdash (mem_of_find? hfound) hmem (hkey.trans htext)
    obtain ⟨outcome, events, hselect⟩ := Session.exists_select_of_find? hfound
    refine ⟨{ s with selection := s.choosing c b }, outcome, events, hselect,
      s.get?_choosing_self c b, fun j row hrow => ?_⟩
    exact Session.selected_iff (s := { s with selection := s.choosing c b }) hne ha
      (s.get?_choosing_self c b) hrow

/-- In the sample the second engine is chosen by the text of its row. -/
theorem select_row_sample :
    ((sampleCatalog.artifacts .core).map (·.key.text)).Nodup ∧
      ∃ key s' outcome events, Key.parse "4.1--a" = .ok key ∧
        (Session.start sampleCatalog .install .standard).1.select .core key =
          .ok (s', outcome, events) ∧
        ∀ (j : Nat) (row : ListedArtifact), (s'.rows .core)[j]? = some row →
          (row.selected = true ↔ j = 1) := by
  have hdash : ∀ a ∈ sampleCatalog.artifacts .core,
      '-' ∉ (a.release.getD "").toList ∧ '-' ∉ a.checksum.toList := by decide +kernel
  have hok : normalize sampleOptions sampleOffers = .ok sampleCatalog := by rfl
  obtain ⟨htexts, hrows⟩ := select_row hok hdash
  have hrow : (sampleCatalog.artifacts .core)[1]? =
      some ⟨"4.1", none, "a", .community, 0, .remote⟩ := by rfl
  obtain ⟨-, hread, hselect⟩ :=
    hrows (Session.start sampleCatalog .install .standard).1 (by rfl) 1 _ hrow
  obtain ⟨key, hparse, htext⟩ := hread (by decide) (by decide)
  obtain ⟨s', outcome, events, hchosen, -, hmarked⟩ := hselect key htext
  exact ⟨htexts, key, s', outcome, events, hparse, hchosen, hmarked⟩

/-- Two builds of the management server whose version, release and checksum differ and are joined to
the same text. -/
def dashedOffers : List Offer :=
  [⟨"manager", [sampleBuild "4.1" (some "rc-2") "9f1c", sampleBuild "4.1-rc" (some "2") "9f1c"]⟩]

/-- Where dashes are in a release, two artifacts of a normalized catalog may have the same key text,
and in every session the text of the second chooses the first. -/
theorem select_row_of_same_text :
    ∃ catalog first second key, normalize .standard dashedOffers = .ok catalog ∧
      catalog.artifacts .manager = [first, second] ∧ first ≠ second ∧
      first.key.text = second.key.text ∧ Key.parse second.key.text = .ok key ∧
      ∀ s : Session, s.catalog = catalog → ∃ s' outcome events,
        s.select .manager key = .ok (s', outcome, events) ∧
        s'.selection.get? .manager = some first := by
  let first : Artifact := ⟨"4.1", some "rc-2", "9f1c", .community, 0, .remote⟩
  let second : Artifact := ⟨"4.1-rc", some "2", "9f1c", .community, 0, .remote⟩
  obtain ⟨key, hparse, htext⟩ : ∃ key, Key.parse second.key.text = .ok key ∧
      key.text = second.key.text :=
    Key.exists_parse_text (by decide) (by decide) (by decide +kernel)
  refine ⟨empty.insert .manager [first, second], first, second, key, by rfl, by rfl,
    by decide, by decide +kernel, hparse, ?_⟩
  intro s hs
  -- The first artifact has the text, so it is the one that is found.
  have hfound : s.catalog.find? .manager key = some first := by
    rw [hs, find?_congr _ _ htext]
    decide +kernel
  obtain ⟨outcome, events, hselect⟩ := Session.exists_select_of_find? hfound
  exact ⟨_, outcome, events, hselect, s.get?_choosing_self .manager first⟩

end Catalog

end Rollout
