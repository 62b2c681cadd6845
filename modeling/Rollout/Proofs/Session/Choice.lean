import Rollout.Command
import Rollout.Proofs.Catalog.Lookup
import Rollout.Proofs.Session.Run

/-!
# Choosing by name

What is listed can be chosen by the name under which it is listed: the component, an equals sign and
the text of the key. The text is read as a key that may have its parts elsewhere, but it is the text
that is looked for, so the reading, the lookup in the catalog and the choice agree on the first
artifact with this text (`Catalog.select_listed`).
-/

namespace Rollout

open Text

/-- No component has an equals sign in its name. -/
theorem Component.notMem_name (c : Component) : '=' ∉ c.name.toList := by
  cases c <;> decide

/-- A choice is read at the first equals sign, so that the text of the key may have others. -/
theorem Choice.parse_of_key {text : String} {key : Key} (h : Key.parse text = .ok key)
    (c : Component) : Choice.parse (c.name ++ "=" ++ text) = .ok ⟨c, key⟩ := by
  -- No component has an equals sign in its name, so the first one ends the name.
  have hsplit : splitFirst '=' (c.name ++ "=" ++ text).toList =
      some (c.name.toList, text.toList) := by
    have htext : (c.name ++ "=" ++ text).toList = c.name.toList ++ '=' :: text.toList := by simp
    rw [htext]
    exact splitFirst_append c.notMem_name
  have hcomponent : Component.parse c.name = .ok c := by
    unfold Component.parse
    rw [Component.ofName?_name]
  unfold Choice.parse
  rw [hsplit]
  simp only [String.ofList_toList, hcomponent, h]
  rfl

/-- The key of an artifact is read from its text, alone and after the name of the component, as a
key by which the first artifact with this text is found in the catalog and chosen in every session.
In a normalized catalog this is the artifact itself, if no release and no checksum of the component
has a dash. -/
theorem Catalog.select_listed {catalog : Catalog} {c : Component} {a : Artifact}
    (hmem : a ∈ catalog.artifacts c) (hversion : a.version ≠ "") (hchecksum : a.checksum ≠ "")
    (hdash : a.checksum.toList.getLast? ≠ some '-') :
    ∃ key b, Key.parse a.key.text = .ok key ∧
      Choice.parse (c.name ++ "=" ++ a.key.text) = .ok ⟨c, key⟩ ∧
      catalog.find? c key = some b ∧ b.key.text = a.key.text ∧
      (∃ before rest, catalog.artifacts c = before ++ b :: rest ∧
        ∀ other ∈ before, other.key.text ≠ a.key.text) ∧
      (∀ s : Session, s.catalog = catalog → ∃ s' outcome events,
        s.select c key = .ok (s', outcome, events) ∧ s'.selection.get? c = some b) ∧
      ((∃ options offers, normalize options offers = .ok catalog) →
        (∀ other ∈ catalog.artifacts c,
          '-' ∉ (other.release.getD "").toList ∧ '-' ∉ other.checksum.toList) →
        b = a) := by
  have hread : ∃ key, Key.parse a.key.text = .ok key ∧ key.text = a.key.text :=
    Key.exists_parse_text hversion hchecksum hdash
  -- Some artifact has the text of the key, so one is found, and it is the first.
  obtain ⟨key, hparse, htext⟩ := hread
  obtain ⟨b, hfound⟩ := exists_find? hmem htext.symm
  have hb : b ∈ catalog.artifacts c := mem_of_find? hfound
  obtain ⟨hkey, hfirst⟩ := find?_eq_some_iff.1 hfound
  rw [htext] at hkey hfirst
  refine ⟨key, b, hparse, Choice.parse_of_key hparse c, hfound, hkey, hfirst, ?_, ?_⟩
  · intro s hs
    -- Every session over the catalog finds the same and chooses it.
    have hfind : s.find c key = .ok b := by
      rw [Session.find_eq_ok_iff, hs]
      exact hfound
    refine ⟨(s.choose c b).1, (s.choose c b).2.1, (s.choose c b).2.2,
      Session.select_eq_ok_of_find hfind, ?_⟩
    rw [Session.choose_fst]
    exact Session.get?_choosing_self s c b
  · -- Without dashes in releases and checksums the text tells the artifact.
    rintro ⟨options, offers, hnormalize⟩ hdashes
    exact eq_of_key_text_eq hnormalize hdashes hb hmem hkey

/-- Two engines with dashes and an equals sign in the parts of their keys, which have the same
text. -/
def dashedEngines : List Artifact :=
  [⟨"4.1", some "rc-2", "b=-c", .community, 0, .remote⟩,
   ⟨"4.1-rc", some "2-b=", "c", .commercial, 0, .remote⟩]

/-- A key with dashes and an equals sign is read, and so is one of the sample. -/
theorem Catalog.select_listed_sample :
    (∃ key, Choice.parse "core=4.1-rc-2-b=-c" = .ok ⟨.core, key⟩ ∧
      (empty.insert .core dashedEngines).find? .core key = dashedEngines[0]?) ∧
    ∃ key, Choice.parse "core=4.10-2-c" = .ok ⟨.core, key⟩ ∧
      sampleCatalog.find? .core key = some ⟨"4.10", some "2", "c", .community, 0, .remote⟩ := by
  constructor
  · -- The second engine is named, and the first is found.
    have hmem : dashedEngines[1] ∈ (empty.insert .core dashedEngines).artifacts .core := by
      decide +kernel
    obtain ⟨key, -, hparse, hchoice, -⟩ :=
      select_listed hmem (by decide) (by decide) (by decide +kernel)
    refine ⟨key, hchoice, ?_⟩
    rw [find?_congr _ _ (Key.text_of_parse hparse)]
    decide +kernel
  · have hmem : (⟨"4.10", some "2", "c", .community, 0, .remote⟩ : Artifact) ∈
        sampleCatalog.artifacts .core := by
      decide +kernel
    obtain ⟨key, b, -, hchoice, hfound, -, -, -, hsame⟩ :=
      select_listed hmem (by decide) (by decide) (by decide +kernel)
    have hb := hsame ⟨sampleOptions, sampleOffers, by rfl⟩ (by decide +kernel)
    rw [hb] at hfound
    exact ⟨key, hchoice, hfound⟩

end Rollout
