import Rollout.Proofs.Document.Artifact
import Rollout.Proofs.Text.Blank
import Rollout.Proofs.Text.Split

/-!
# What the text of a stable line decides

A stable line is its text: three segments that are not empty (`IsThreeSegments`), with nothing blank
around them. So a text is read exactly if it trims to such segments (`exists_parse_iff`), and what
is read is the line that has the trimmed text (`parse_eq_ok_iff_trimsTo`).

Versions are compared with a line segment by segment, and yet the text alone decides here too: the
segments of a version begin with those of a line if and only if the version is the line's text or
goes on after it with a dot (`covers_iff_text`). A segment that only begins like the line's last one
has no dot there.
-/

namespace Rollout.StableLine

open Text

/-- Three segments with dots between them, none of them empty. -/
def IsThreeSegments (t : List Char) : Prop :=
  ∃ major minor patch : List Char, t = major ++ '.' :: (minor ++ '.' :: patch) ∧
    ∀ segment ∈ [major, minor, patch], segment ≠ [] ∧ '.' ∉ segment

/-- Text is three segments if it is cut into three at its dots, and nothing between them is
missing. -/
theorem isThreeSegments_iff {t : List Char} : IsThreeSegments t ↔
    (splitOn '.' t).length = 3 ∧ ∀ segment ∈ splitOn '.' t, segment ≠ [] := by
  constructor
  · rintro ⟨major, minor, patch, rfl, hsegments⟩
    -- No segment has a dot in it, so that the text is cut at the dots between them.
    have hcut : splitOn '.' (major ++ '.' :: (minor ++ '.' :: patch)) = [major, minor, patch] := by
      rw [splitOn_append_sep, splitOn_append_sep, splitOn_of_notMem (hsegments major (by simp)).2,
        splitOn_of_notMem (hsegments minor (by simp)).2,
        splitOn_of_notMem (hsegments patch (by simp)).2]
      rfl
    rw [hcut]
    exact ⟨rfl, fun segment hsegment => (hsegments segment hsegment).1⟩
  · rintro ⟨hlength, hnonempty⟩
    -- The three pieces make the text when they are joined again.
    obtain ⟨major, minor, patch, hcut⟩ := List.length_eq_three.1 hlength
    refine ⟨major, minor, patch, ?_, fun segment hsegment => ?_⟩
    · rw [← joinWith_splitOn '.' t, hcut]
      rfl
    · rw [← hcut] at hsegment
      exact ⟨hnonempty segment hsegment, notMem_of_mem_splitOn hsegment⟩

/-- A text is read exactly if it trims to three segments. -/
theorem exists_parse_iff {s : String} :
    (∃ line, parse s = .ok line) ↔ ∃ t, TrimsTo s.toList t ∧ IsThreeSegments t := by
  have hread : (∃ line, parse s = .ok line) ↔ IsThreeSegments (trim s.toList) := by
    rw [isThreeSegments_iff, parse]
    simp only [Version.segments, String.toList_ofList]
    split
    · next h => exact ⟨fun _ => h, fun _ => ⟨_, rfl⟩⟩
    · next h => simp [h]
  rw [hread]
  simp only [← trim_eq_iff, exists_eq_left']

/-- A text is read as the line whose text it trims to. -/
theorem parse_eq_ok_iff_trimsTo {s : String} {line : StableLine} :
    parse s = .ok line ↔ TrimsTo s.toList line.text.toList := by
  rw [← trim_eq_iff]
  constructor
  · intro h
    exact (text_of_parse h).symm
  · intro h
    have hsegments : IsThreeSegments line.text.toList :=
      isThreeSegments_iff.2 ⟨line.length_segments, line.nonempty_segments⟩
    obtain ⟨found, hfound⟩ := exists_parse_iff.2 ⟨_, trim_eq_iff.1 h, hsegments⟩
    -- The line that is found has the same text, and the text is all that a line has.
    have htext : found.text = line.text :=
      String.toList_inj.1 ((text_of_parse hfound).trans h)
    have hsame : parse found.text = parse line.text := congrArg parse htext
    rw [found.parse_text, line.parse_text] at hsame
    rw [hfound, hsame]

/-- A line covers the version that is its text, and those that go on after it with a dot. -/
theorem covers_iff_text {line : StableLine} {version : String} : line.covers version = true ↔
    version = line.text ∨ ∃ rest, version = line.text ++ "." ++ rest := by
  have hlonger : (∃ rest, version = line.text ++ "." ++ rest) ↔
      ∃ rest, version.toList = line.text.toList ++ '.' :: rest := by
    constructor
    · rintro ⟨rest, rfl⟩
      exact ⟨rest.toList, by simp⟩
    · rintro ⟨rest, h⟩
      exact ⟨String.ofList rest, String.toList_inj.1 (by simp [h])⟩
  rw [covers, List.isPrefixOf_iff_prefix, hlonger, ← String.toList_inj]
  exact splitOn_prefix_iff

/-- A text is read as a stable line exactly if, without the blank characters around it, it is three
segments that are not empty; the line then has just this text, and is read from it again. A line
covers the versions that are its text or go on after it with a dot. -/
theorem decided_by_text :
    (∀ s : String, (∃ line, parse s = .ok line) ↔
      ∃ t, TrimsTo s.toList t ∧ IsThreeSegments t) ∧
    (∀ (s : String) (line : StableLine), parse s = .ok line ↔
      TrimsTo s.toList line.text.toList) ∧
    (∀ line : StableLine, parse line.text = .ok line) ∧
    ∀ (line : StableLine) (version : String), line.covers version = true ↔
      version = line.text ∨ ∃ rest, version = line.text ++ "." ++ rest :=
  ⟨fun _ => exists_parse_iff, fun _ _ => parse_eq_ok_iff_trimsTo, parse_text,
    fun _ _ => covers_iff_text⟩

/-- A segment that only begins like that of the line is another one, and blank characters within a
text count. -/
example : (parse " 4.2.1\n").map (fun line => ["4.2.1", "4.2.1.", "4.2.10", "4.2"].map line.covers)
    = .ok [true, true, false, false] ∧
    (parse "4. .1").map (·.text) = .ok "4. .1" := by
  decide +kernel

end Rollout.StableLine
