import Rollout.Artifact
import Rollout.Proofs.Text.Split

/-!
# Keys as text

The text of a key is read back unless its version is empty or its checksum is empty or ends in a
dash (`Key.exists_parse_text`). A dash inside a part moves the cuts, so that the key that is read
may differ from the one that was written, but never its text. Where neither release nor checksum has
a dash in it, the text determines the parts (`Key.parts_eq_of_text_eq`).

What is read is always a canonical key, and each canonical key is read from its text and from no
other (`Key.parse_eq_ok_iff`). Which texts are read at all is said by their last two dashes
(`Key.exists_parse_iff`). Both go through the parts into which these dashes cut a text
(`Key.CutsInto`).
-/

namespace Rollout.Key

open Text

/-- The characters of a key's text are those of its parts, with two dashes between them. -/
theorem toList_text (key : Key) :
    key.text.toList = key.version.toList ++ '-' :: (key.release.getD "").toList ++
      '-' :: key.checksum.toList := by
  simp [text]

/-- Text is a key if its last two cuts leave something before and after them. -/
theorem parse_eq_ok {s : String} {version release checksum : List Char}
    (h : parts? s.toList = some (version, release, checksum)) :
    parse s = .ok {
      version := String.ofList version
      release := if release = [] then none else some (String.ofList release)
      checksum := String.ofList checksum } := by
  unfold parse
  rw [h]

/-- The text of a key is read as a key with the same text. -/
theorem exists_parse_text {key : Key} (hversion : key.version ≠ "") (hchecksum : key.checksum ≠ "")
    (hdash : key.checksum.toList.getLast? ≠ some '-') :
    ∃ read, parse key.text = .ok read ∧ read.text = key.text := by
  have hversion' : key.version.toList ≠ [] := by simpa using hversion
  have hchecksum' : key.checksum.toList ≠ [] := by simpa using hchecksum
  -- The last cut is at the checksum's dash or in the checksum, and leaves something of it.
  obtain ⟨middle, last, hcut, hsplit⟩ := exists_splitLast '-'
    (key.version.toList ++ '-' :: (key.release.getD "").toList) key.checksum.toList
  have hlast : last ≠ [] := by
    intro hnil
    rw [hnil] at hsplit
    have hend := congrArg List.getLast? hsplit
    rw [List.getLast?_concat, List.getLast?_cons_of_ne_nil hchecksum'] at hend
    exact hdash hend
  -- The cut before it is at the version's dash or after it, and leaves all of the version.
  obtain ⟨middle', last', hcut', -⟩ := exists_splitLast '-' key.version.toList
    ((key.release.getD "").toList ++ middle)
  have hparts : parts? key.text.toList = some (key.version.toList ++ middle', last', last) := by
    have hassoc : (key.version.toList ++ '-' :: (key.release.getD "").toList) ++ middle =
        key.version.toList ++ '-' :: ((key.release.getD "").toList ++ middle) := by simp
    rw [hassoc] at hcut
    have hnonempty : ¬ (last = [] ∨ key.version.toList ++ middle' = []) := by
      rintro (hnil | hnil)
      · exact hlast hnil
      · exact hversion' (List.append_eq_nil_iff.1 hnil).1
    rw [toList_text]
    simp only [parts?, hcut, hcut', Option.bind_eq_bind, Option.bind_some, if_neg hnonempty]
  refine ⟨_, parse_eq_ok hparts, ?_⟩
  exact text_of_parse (parse_eq_ok hparts)

/-- If neither release nor checksum of two keys has a dash, the same text means the same parts. -/
theorem parts_eq_of_text_eq {key key' : Key} (h : key.text = key'.text)
    (hrelease : '-' ∉ (key.release.getD "").toList) (hchecksum : '-' ∉ key.checksum.toList)
    (hrelease' : '-' ∉ (key'.release.getD "").toList)
    (hchecksum' : '-' ∉ key'.checksum.toList) :
    key.version = key'.version ∧ key.release.getD "" = key'.release.getD "" ∧
      key.checksum = key'.checksum := by
  have htext := congrArg String.toList h
  rw [toList_text, toList_text] at htext
  obtain ⟨hrest, hlast⟩ := append_sep_inj htext hchecksum hchecksum'
  obtain ⟨hfirst, hmiddle⟩ := append_sep_inj hrest hrelease hrelease'
  exact ⟨String.toList_inj.1 hfirst, String.toList_inj.1 hmiddle, String.toList_inj.1 hlast⟩

/-! ## The last two dashes -/

/-- The last two dashes of a text are those between these parts. -/
structure CutsInto (s version release checksum : List Char) : Prop where
  eq_append : s = version ++ '-' :: release ++ '-' :: checksum
  release_plain : '-' ∉ release
  checksum_plain : '-' ∉ checksum

section Cut

variable {s version release checksum : List Char}

/-- A text is cut in one way. -/
theorem CutsInto.unique {version' release' checksum' : List Char}
    (h : CutsInto s version release checksum) (h' : CutsInto s version' release' checksum') :
    version = version' ∧ release = release' ∧ checksum = checksum' := by
  have hsame : version ++ '-' :: release ++ '-' :: checksum =
      version' ++ '-' :: release' ++ '-' :: checksum' := h.eq_append.symm.trans h'.eq_append
  -- No checksum has a dash, so the last dash is before it, and then the same holds of the release.
  obtain ⟨hrest, hchecksum⟩ := append_sep_inj hsame h.checksum_plain h'.checksum_plain
  obtain ⟨hversion, hrelease⟩ := append_sep_inj hrest h.release_plain h'.release_plain
  exact ⟨hversion, hrelease, hchecksum⟩

/-- A text is cut if it has two dashes. -/
theorem exists_cutsInto_iff :
    (∃ version release checksum, CutsInto s version release checksum) ↔ 2 ≤ s.count '-' := by
  constructor
  · rintro ⟨version, release, checksum, rfl, -, -⟩
    simp only [List.count_append, List.count_cons_self]
    omega
  · intro hcount
    have hmem : '-' ∈ s := List.count_pos_iff.1 (by omega)
    obtain ⟨rest, checksum, hlast⟩ := exists_splitLast_of_mem hmem
    obtain ⟨rfl, hchecksum⟩ := splitLast_eq_some_iff.1 hlast
    -- The last dash is one of the two, so that another is left before it.
    have hnone : checksum.count '-' = 0 := List.count_eq_zero.2 hchecksum
    have hbefore : 0 < rest.count '-' := by
      rw [List.count_append, List.count_cons_self] at hcount
      omega
    obtain ⟨version, release, hfirst⟩ := exists_splitLast_of_mem (List.count_pos_iff.1 hbefore)
    obtain ⟨rfl, hrelease⟩ := splitLast_eq_some_iff.1 hfirst
    exact ⟨version, release, checksum, rfl, hrelease, hchecksum⟩

/-- The parts of a written key are those between its last two dashes, if the outer ones are not
empty. -/
theorem parts?_eq_some_iff :
    parts? s = some (version, release, checksum) ↔
      CutsInto s version release checksum ∧ version ≠ [] ∧ checksum ≠ [] := by
  constructor
  · intro h
    simp only [parts?, Option.bind_eq_bind, Option.bind_eq_some_iff] at h
    obtain ⟨⟨rest, last⟩, hlast, ⟨first, middle⟩, hfirst, h⟩ := h
    split at h
    · contradiction
    · next hne =>
      -- Both cuts were made at the last dash, and neither outer part is empty.
      simp only [Option.some.injEq, Prod.mk.injEq] at h
      obtain ⟨rfl, rfl, rfl⟩ := h
      obtain ⟨rfl, hchecksum⟩ := splitLast_eq_some_iff.1 hlast
      obtain ⟨rfl, hrelease⟩ := splitLast_eq_some_iff.1 hfirst
      rw [not_or] at hne
      exact ⟨⟨rfl, hrelease, hchecksum⟩, hne.2, hne.1⟩
  · rintro ⟨⟨rfl, hrelease, hchecksum⟩, hversion, hne⟩
    -- Conversely the cuts are made where the parts end.
    have hnonempty : ¬ (checksum = [] ∨ version = []) := not_or.2 ⟨hne, hversion⟩
    simp only [parts?, splitLast_append hchecksum, splitLast_append hrelease, Option.bind_eq_bind,
      Option.bind_some, if_neg hnonempty]

end Cut

/-! ## What is read -/

/-- A key that says exactly what its text says: version and checksum are not empty, nor is a release
that is there, and neither release nor checksum has a dash. -/
structure Canonical (key : Key) : Prop where
  version_ne : key.version ≠ ""
  release_plain : ∀ release, key.release = some release → release ≠ "" ∧ '-' ∉ release.toList
  checksum_ne : key.checksum ≠ ""
  checksum_plain : '-' ∉ key.checksum.toList

/-- The last two dashes of a canonical key's text are those between its parts. -/
theorem Canonical.cutsInto_text {key : Key} (h : key.Canonical) :
    CutsInto key.text.toList key.version.toList (key.release.getD "").toList
      key.checksum.toList := by
  refine ⟨key.toList_text, ?_, h.checksum_plain⟩
  cases hrelease : key.release with
  | none => simp
  | some release => exact (h.release_plain release hrelease).2

/-- A canonical key is read from its text. -/
theorem Canonical.parse_text {key : Key} (h : key.Canonical) : parse key.text = .ok key := by
  have hversion : key.version.toList ≠ [] := by simpa using h.version_ne
  have hchecksum : key.checksum.toList ≠ [] := by simpa using h.checksum_ne
  rw [parse_eq_ok (parts?_eq_some_iff.2 ⟨h.cutsInto_text, hversion, hchecksum⟩)]
  obtain ⟨version, release, checksum⟩ := key
  cases release with
  | none => simp
  | some release =>
    have hrelease : release ≠ "" := (h.release_plain release rfl).1
    simp [hrelease]

/-- What is read is made of the parts of the text. -/
theorem exists_parts_of_parse {s : String} {key : Key} (h : parse s = .ok key) :
    ∃ version release checksum, parts? s.toList = some (version, release, checksum) ∧
      key = {
        version := String.ofList version
        release := if release = [] then none else some (String.ofList release)
        checksum := String.ofList checksum } := by
  unfold parse at h
  split at h
  · next version release checksum hparts =>
    exact ⟨version, release, checksum, hparts, (Except.ok.inj h).symm⟩
  · contradiction

/-- What is read is canonical. -/
theorem canonical_of_parse {s : String} {key : Key} (h : parse s = .ok key) : key.Canonical := by
  obtain ⟨version, release, checksum, hparts, rfl⟩ := exists_parts_of_parse h
  obtain ⟨hcut, hversion, hchecksum⟩ := parts?_eq_some_iff.1 hparts
  refine ⟨by simpa using hversion, ?_, by simpa using hchecksum, ?_⟩
  · intro text htext
    dsimp only at htext
    split at htext
    · contradiction
    · next hrelease =>
      obtain rfl : String.ofList release = text := Option.some.inj htext
      refine ⟨by simpa using hrelease, ?_⟩
      rw [String.toList_ofList]
      exact hcut.release_plain
  · rw [String.toList_ofList]
    exact hcut.checksum_plain

/-- Exactly the text of a canonical key is read as that key. -/
theorem parse_eq_ok_iff {s : String} {key : Key} :
    parse s = .ok key ↔ key.Canonical ∧ key.text = s := by
  constructor
  · intro h
    exact ⟨canonical_of_parse h, text_of_parse h⟩
  · rintro ⟨hcanonical, rfl⟩
    exact hcanonical.parse_text

/-- A text is read if it has two dashes and something stands before the last two and after the
last. -/
theorem exists_parse_iff {s : String} :
    (∃ key, parse s = .ok key) ↔ 2 ≤ s.toList.count '-' ∧
      ∀ version release checksum, CutsInto s.toList version release checksum →
        version ≠ [] ∧ checksum ≠ [] := by
  constructor
  · rintro ⟨key, h⟩
    obtain ⟨version, release, checksum, hparts, -⟩ := exists_parts_of_parse h
    obtain ⟨hcut, hversion, hchecksum⟩ := parts?_eq_some_iff.1 hparts
    refine ⟨exists_cutsInto_iff.1 ⟨version, release, checksum, hcut⟩, ?_⟩
    intro version' release' checksum' hcut'
    -- There is only one way to cut it, so the parts are those of the key.
    obtain ⟨rfl, -, rfl⟩ := hcut.unique hcut'
    exact ⟨hversion, hchecksum⟩
  · rintro ⟨hcount, hne⟩
    obtain ⟨version, release, checksum, hcut⟩ := exists_cutsInto_iff.2 hcount
    exact ⟨_, parse_eq_ok (parts?_eq_some_iff.2 ⟨hcut, hne version release checksum hcut⟩)⟩

/-- What is not read is returned with the complaint. -/
theorem parse_eq_error_of_not_exists {s : String} (h : ¬ ∃ key, parse s = .ok key) :
    parse s = .error (.invalidKey s) := by
  cases hparts : parts? s.toList with
  | none =>
    unfold parse
    rw [hparts]
  | some parts => exact absurd ⟨_, parse_eq_ok hparts⟩ h

/-- A text is read exactly if it has at least two dashes, the text after the last is not empty and
neither is the text before the last but one; otherwise it is returned as invalid. It is read as a
key exactly if the key is canonical and has this text, so that a key that is read has the text that
it was read from, and a canonical key is read back. And such a key names the artifacts whose own
key has that text. -/
theorem parse_exact (s : String) :
    ((∃ key, parse s = .ok key) ↔ 2 ≤ s.toList.count '-' ∧
      ∀ version release checksum, CutsInto s.toList version release checksum →
        version ≠ [] ∧ checksum ≠ []) ∧
    ((¬ ∃ key, parse s = .ok key) → parse s = .error (.invalidKey s)) ∧
    (∀ key, parse s = .ok key ↔ key.Canonical ∧ key.text = s) ∧
    ∀ (key : Key) (a : Artifact), parse s = .ok key → (a.hasKey key = true ↔ a.key.text = s) := by
  refine ⟨exists_parse_iff, parse_eq_error_of_not_exists, fun key => parse_eq_ok_iff, ?_⟩
  intro key a h
  have htext : key.text = s := text_of_parse h
  unfold Artifact.hasKey
  rw [htext, beq_iff_eq]

/-- Of three dashes the first may be the version, while two leave nothing for it. The key that is
read without a release also names an artifact with an empty one. -/
theorem parse_exact_dashes :
    parse "---c" = .ok ⟨"-", none, "c"⟩ ∧
      (⟨"-", some "", "c", .community, 0, .remote⟩ : Artifact).hasKey ⟨"-", none, "c"⟩ = true ∧
      parse "--c" = .error (.invalidKey "--c") := by
  obtain ⟨-, -, hread, hnames⟩ := parse_exact "---c"
  have hcanonical : Canonical ⟨"-", none, "c"⟩ :=
    ⟨by decide, (fun _ h => nomatch h), by decide, by decide⟩
  have hparse : parse "---c" = .ok ⟨"-", none, "c"⟩ := (hread _).2 ⟨hcanonical, by decide⟩
  refine ⟨hparse, (hnames _ _ hparse).2 (by decide), ?_⟩
  obtain ⟨hiff, hinvalid, -, -⟩ := parse_exact "--c"
  apply hinvalid
  rw [hiff]
  rintro ⟨-, hne⟩
  -- Its version would have to be empty.
  have hcut : CutsInto "--c".toList [] [] ['c'] := ⟨by decide, by decide, by decide⟩
  exact (hne [] [] ['c'] hcut).1 rfl

end Rollout.Key
