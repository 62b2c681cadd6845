import Mathlib.Data.List.Pairwise
import Rollout.Proofs.Artifact.Key
import Rollout.Proofs.Catalog.Normalize

/-!
# Artifacts by key

A key is looked for by its text, so that what is found is the first artifact of the component with
that text (`find?_eq_some_iff`), and the artifact itself is found as soon as texts tell the
artifacts of the component apart. In a catalog that was normalized they do so if no release and no
checksum has a dash in it (`eq_of_key_text_eq`).
-/

namespace Rollout.Catalog

variable {catalog : Catalog} {c : Component}

/-- The artifact of a key depends on the text of the key alone. -/
theorem find?_congr (catalog : Catalog) (c : Component) {key key' : Key}
    (h : key.text = key'.text) : catalog.find? c key = catalog.find? c key' := by
  unfold find? Artifact.hasKey
  rw [h]

/-- What is found is the first artifact of the component whose key has the text. -/
theorem find?_eq_some_iff {key : Key} {a : Artifact} :
    catalog.find? c key = some a ↔ a.key.text = key.text ∧
      ∃ before rest, catalog.artifacts c = before ++ a :: rest ∧
        ∀ other ∈ before, other.key.text ≠ key.text := by
  unfold find?
  rw [List.find?_eq_some_iff_append]
  simp [Artifact.hasKey]

/-- If some artifact of the component has a key with the text, one is found. -/
theorem exists_find? {key : Key} {a : Artifact} (hmem : a ∈ catalog.artifacts c)
    (htext : a.key.text = key.text) : ∃ b, catalog.find? c key = some b := by
  have hsome : (catalog.find? c key).isSome = true :=
    List.find?_isSome.2 ⟨a, hmem, beq_iff_eq.2 htext⟩
  exact Option.isSome_iff_exists.1 hsome

/-- What is found is an artifact of the component. -/
theorem mem_of_find? {key : Key} {a : Artifact} (h : catalog.find? c key = some a) :
    a ∈ catalog.artifacts c :=
  List.mem_of_find?_eq_some h

/-- If no release and no checksum of a component has a dash, a normalized catalog has no two
artifacts of it whose keys have the same text. -/
theorem eq_of_key_text_eq {options : Options} {offers : List Service.Offer}
    (h : normalize options offers = .ok catalog)
    (hdash : ∀ a ∈ catalog.artifacts c,
      '-' ∉ (a.release.getD "").toList ∧ '-' ∉ a.checksum.toList)
    {a b : Artifact} (ha : a ∈ catalog.artifacts c) (hb : b ∈ catalog.artifacts c)
    (htext : a.key.text = b.key.text) : a = b := by
  by_contra hne
  have hsymm : Std.Symm fun a b : Artifact => identity a ≠ identity b := ⟨fun _ _ => Ne.symm⟩
  have hdistinct : identity a ≠ identity b :=
    (pairwise_artifacts_of_normalize h c).forall ha hb hne
  obtain ⟨hrelease, hchecksum⟩ := hdash a ha
  obtain ⟨hrelease', hchecksum'⟩ := hdash b hb
  -- Without dashes in them, the last two parts are cut where they were joined.
  obtain ⟨hversion, hsame, hsame'⟩ :=
    Key.parts_eq_of_text_eq htext hrelease hchecksum hrelease' hchecksum'
  exact hdistinct (Prod.ext hversion (Prod.ext hsame hsame'))

end Rollout.Catalog
