import Mathlib.Tactic.ByContra
import Rollout.Proofs.Config.Check

/-!
# What findings mean, and no findings

Mirrors that are absent are looked for only if the service has fewer mirrors in all than are
expected, and mirrors that are unavailable only if it has any. So a report without findings speaks
of the mirrors as far as these two conditions hold (`findings_eq_nil_iff`), and no further: enough
mirrors of other names hide that every known one is absent (`otherMirrors`).

A report that lists known mirrors only, each once, and counts what it lists is without findings
exactly if nothing is wrong, because a valid configuration expects at least as many mirrors as it
knows (`Config.known_le_expected`), so that such a report with a known mirror absent has fewer than
are expected.

What is found is true of the report in any case. The findings are the absent mirrors and then the
unavailable ones (`findings_eq`), and no mirror is both: the first are those that the report does
not list, the second those that it lists. So a name stands twice among the findings only if it
stands twice among the known names or twice in the report (`nodup_map_mirror_findings`).
-/

namespace Rollout

open Service

/-- Nothing is found exactly if, with fewer mirrors than expected, every known one is listed and,
with any mirrors at all, every listed one is available. -/
theorem findings_eq_nil_iff {policy : MirrorPolicy} {report : MirrorReport} :
    findings policy report = [] ↔
      (report.total < policy.expectedCount → ∀ name ∈ policy.known, report.lists name = true) ∧
      (0 < report.total → ∀ m ∈ report.items, m.available = true) := by
  unfold findings
  rw [List.append_eq_nil_iff]
  refine and_congr ?_ ?_
  · by_cases hfew : report.total < policy.expectedCount
    · simp [hfew, List.filter_eq_nil_iff]
    · simp [hfew]
  · by_cases hany : 0 < report.total
    · simp [hany, List.filter_eq_nil_iff]
    · simp [hany]

/-- A valid configuration expects at least as many mirrors as it knows. -/
theorem Config.known_le_expected {config : Config} (h : config.validate = .ok ()) :
    config.mirrors.known.length ≤ config.mirrors.expectedCount.toNat :=
  (validate_eq_ok_iff.1 h).known_le

/-- A report that lists known mirrors only, each once, lists fewer than there are known ones if one
of these is absent. -/
theorem length_items_lt {known : List String} {report : MirrorReport}
    (hknown : ∀ m ∈ report.items, m.name ∈ known) (honce : (report.items.map (·.name)).Nodup)
    {name : String} (hname : name ∈ known) (habsent : report.lists name = false) :
    report.items.length < known.length := by
  have hnot : name ∉ report.items.map (·.name) := by
    intro hmem
    obtain ⟨m, hm, hmname⟩ := List.mem_map.1 hmem
    have hlists : report.lists name = true :=
      List.any_eq_true.2 ⟨m, hm, beq_iff_eq.2 hmname⟩
    rw [habsent] at hlists
    contradiction
  -- The absent name and the listed ones are different names, all of them known.
  have hsubset : name :: report.items.map (·.name) ⊆ known := by
    refine List.cons_subset.2 ⟨hname, fun listed hlisted => ?_⟩
    obtain ⟨m, hm, rfl⟩ := List.mem_map.1 hlisted
    exact hknown m hm
  have hle := (List.nodup_cons.2 ⟨hnot, honce⟩).length_le_of_subset hsubset
  rw [List.length_cons, List.length_map] at hle
  exact hle

/-- If a report lists known mirrors only, each once, and counts what it lists, then under a valid
configuration nothing is found exactly if every known mirror is listed and every listed one is
available. -/
theorem findings_eq_nil_iff_all_available {config : Config} {report : MirrorReport}
    (hvalid : config.validate = .ok ()) (htotal : report.total.toNat = report.items.length)
    (hknown : ∀ m ∈ report.items, m.name ∈ config.mirrors.known)
    (honce : (report.items.map (·.name)).Nodup) :
    findings config.mirrors report = [] ↔
      (∀ name ∈ config.mirrors.known, report.lists name = true) ∧
      ∀ m ∈ report.items, m.available = true := by
  rw [findings_eq_nil_iff]
  constructor
  · rintro ⟨hlisted, havailable⟩
    constructor
    · intro name hname
      by_contra habsent
      -- A known mirror that is absent leaves fewer than are known, and so fewer than are expected.
      have hfew : report.total < config.mirrors.expectedCount := by
        have hlt := length_items_lt hknown honce hname (Bool.eq_false_iff.2 habsent)
        rw [UInt64.lt_iff_toNat_lt, htotal]
        exact Nat.lt_of_lt_of_le hlt (Config.known_le_expected hvalid)
      exact habsent (hlisted hfew name hname)
    · intro m hm
      -- A report with a mirror counts it.
      have hany : 0 < report.total := by
        rw [UInt64.lt_iff_toNat_lt, htotal]
        exact List.length_pos_of_mem hm
      exact havailable hany m hm
  · rintro ⟨hlisted, havailable⟩
    exact ⟨fun _ => hlisted, fun _ => havailable⟩

/-- A report of the two mirrors that the standard configuration knows. -/
def knownMirrors (second : Bool) : MirrorReport :=
  ⟨2, [⟨"development-kit", true, none, none⟩, ⟨"community.stable", second, none, none⟩]⟩

/-- With both known mirrors available nothing is found, and with one of them unavailable something
is. -/
theorem findings_knownMirrors :
    findings .standard (knownMirrors true) = [] ∧ findings .standard (knownMirrors false) ≠ [] := by
  have hiff : ∀ second, findings Config.standard.mirrors (knownMirrors second) = [] ↔
      (∀ name ∈ Config.standard.mirrors.known, (knownMirrors second).lists name = true) ∧
      ∀ m ∈ (knownMirrors second).items, m.available = true := fun second =>
    findings_eq_nil_iff_all_available (by rfl) (by rfl) (by decide +revert) (by decide +revert)
  exact ⟨(hiff true).2 (by decide), fun hnil => absurd ((hiff false).1 hnil).2 (by decide)⟩

/-- Two mirrors that the standard configuration does not know. -/
def otherMirrors : MirrorReport :=
  ⟨2, [⟨"extra-1", true, none, none⟩, ⟨"extra-2", true, none, none⟩]⟩

/-- Although the standard configuration is valid and the report counts what it lists, nothing is
found while every known mirror is absent. -/
theorem findings_eq_nil_of_others :
    Config.standard.validate = .ok () ∧ otherMirrors.total.toNat = otherMirrors.items.length ∧
      findings Config.standard.mirrors otherMirrors = [] ∧
      ∀ name ∈ Config.standard.mirrors.known, otherMirrors.lists name = false := by
  refine ⟨by rfl, by rfl, by decide +kernel, by decide +kernel⟩

/-! ## What is found of each mirror -/

/-- A report lists no mirror of a name exactly if each of its mirrors has another name. -/
theorem lists_eq_false_iff {report : MirrorReport} {name : String} :
    report.lists name = false ↔ ∀ m ∈ report.items, m.name ≠ name := by
  unfold Page.lists
  rw [List.any_eq_false]
  simp only [beq_iff_eq, ne_eq]

/-- The names of the mirrors that are found to be absent. -/
def absent (policy : MirrorPolicy) (report : MirrorReport) : List String :=
  if report.total < policy.expectedCount then
    policy.known.filter fun name => ∀ m ∈ report.items, m.name ≠ name
  else []

/-- The names of the mirrors that are found to be unavailable. -/
def unavailable (report : MirrorReport) : List String :=
  if 0 < report.total then
    (report.items.filter fun m => m.available = false).map (·.name)
  else []

/-- The findings are the absent mirrors and then the unavailable ones. -/
theorem findings_eq (policy : MirrorPolicy) (report : MirrorReport) :
    findings policy report =
      (absent policy report).map (⟨·, .notConfigured⟩) ++
        (unavailable report).map (⟨·, .disabled⟩) := by
  unfold findings absent unavailable
  refine congrArg₂ (· ++ ·) ?_ ?_
  · split
    · refine congrArg (List.map _) (List.filter_congr fun name _ => ?_)
      rw [Bool.eq_iff_iff, Bool.not_eq_true', lists_eq_false_iff, decide_eq_true_iff]
    · rfl
  · split
    · rw [List.map_map]
      refine congrArg (List.map _) (List.filter_congr fun m _ => ?_)
      cases m.available <;> rfl
    · rfl

/-- A mirror is absent if fewer are there than expected and it is known and not listed. -/
theorem mem_absent_iff {policy : MirrorPolicy} {report : MirrorReport} {name : String} :
    name ∈ absent policy report ↔ report.total < policy.expectedCount ∧ name ∈ policy.known ∧
      ∀ m ∈ report.items, m.name ≠ name := by
  unfold absent
  split <;> simp [*]

/-- A mirror is unavailable if it is listed so, and the report counts any. -/
theorem mem_unavailable_iff {report : MirrorReport} {name : String} :
    name ∈ unavailable report ↔
      0 < report.total ∧ ∃ m ∈ report.items, m.name = name ∧ m.available = false := by
  unfold unavailable
  split
  · next hany =>
    simp only [List.mem_map, List.mem_filter, decide_eq_true_iff, hany, true_and]
    constructor
    · rintro ⟨m, ⟨hm, hdown⟩, hname⟩
      exact ⟨m, hm, hname, hdown⟩
    · rintro ⟨m, hm, hname, hdown⟩
      exact ⟨m, ⟨hm, hdown⟩, hname⟩
  · simp [*]

/-- No mirror is absent and unavailable: only a listed one is unavailable. -/
theorem not_mem_unavailable {policy : MirrorPolicy} {report : MirrorReport} {name : String}
    (h : name ∈ absent policy report) : name ∉ unavailable report := by
  intro hdown
  obtain ⟨-, m, hm, hname, -⟩ := mem_unavailable_iff.1 hdown
  exact (mem_absent_iff.1 h).2.2 m hm hname

/-- What a finding says is so: a mirror that is not configured is known and not listed, and one that
is disabled is listed as unavailable. -/
def Finding.IsTrue (policy : MirrorPolicy) (report : MirrorReport) (finding : Finding) : Prop :=
  match finding.fault with
  | .notConfigured => finding.mirror ∈ policy.known ∧ ∀ m ∈ report.items, m.name ≠ finding.mirror
  | .disabled => ∃ m ∈ report.items, m.name = finding.mirror ∧ m.available = false

/-- The mirrors with a fault, in the order in which they were found. -/
def mirrorsWith (fault : MirrorFault) (found : List Finding) : List String :=
  (found.filter (·.fault = fault)).map (·.mirror)

/-- Mirrors of findings one after another are in this order. -/
theorem mirrorsWith_append (fault : MirrorFault) (found found' : List Finding) :
    mirrorsWith fault (found ++ found') = mirrorsWith fault found ++ mirrorsWith fault found' := by
  simp [mirrorsWith]

/-- Findings of one fault are found again with it, and not with another. -/
theorem mirrorsWith_map (fault fault' : MirrorFault) (names : List String) :
    mirrorsWith fault (names.map (⟨·, fault'⟩)) = if fault' = fault then names else [] := by
  induction names with
  | nil => simp [mirrorsWith]
  | cons name names ih =>
    unfold mirrorsWith at ih ⊢
    by_cases hfault : fault' = fault
    · simpa [hfault] using ih
    · simp [hfault]

/-- A finding names an absent mirror or an unavailable one. -/
theorem mem_findings_iff {policy : MirrorPolicy} {report : MirrorReport} {f : Finding} :
    f ∈ findings policy report ↔
      f.fault = .notConfigured ∧ f.mirror ∈ absent policy report ∨
      f.fault = .disabled ∧ f.mirror ∈ unavailable report := by
  obtain ⟨mirror, fault⟩ := f
  rw [findings_eq, List.mem_append]
  cases fault <;> simp

/-- Behind a mirror that is disabled there are only such mirrors. -/
theorem pairwise_findings (policy : MirrorPolicy) (report : MirrorReport) :
    (findings policy report).Pairwise fun f g => f.fault = .disabled → g.fault = .disabled := by
  rw [findings_eq, List.pairwise_append, List.pairwise_map, List.pairwise_map]
  refine ⟨List.pairwise_of_forall ?_, List.pairwise_of_forall ?_, ?_⟩
  · simp
  · simp
  · simp

/-- The mirrors that are not configured are the absent ones. -/
theorem mirrorsWith_notConfigured (policy : MirrorPolicy) (report : MirrorReport) :
    mirrorsWith .notConfigured (findings policy report) = absent policy report := by
  rw [findings_eq, mirrorsWith_append, mirrorsWith_map, mirrorsWith_map, if_pos rfl,
    if_neg (by decide), List.append_nil]

/-- The mirrors that are disabled are the unavailable ones. -/
theorem mirrorsWith_disabled (policy : MirrorPolicy) (report : MirrorReport) :
    mirrorsWith .disabled (findings policy report) = unavailable report := by
  rw [findings_eq, mirrorsWith_append, mirrorsWith_map, mirrorsWith_map, if_neg (by decide),
    if_pos rfl, List.nil_append]

/-- No mirror has both faults. -/
theorem fault_eq_of_mirror_eq {policy : MirrorPolicy} {report : MirrorReport} {f g : Finding}
    (hf : f ∈ findings policy report) (hg : g ∈ findings policy report)
    (hmirror : f.mirror = g.mirror) : f.fault = g.fault := by
  -- With two faults the one mirror would be absent and unavailable.
  rcases mem_findings_iff.1 hf with ⟨hfault, hf⟩ | ⟨hfault, hf⟩ <;>
    rcases mem_findings_iff.1 hg with ⟨hfault', hg⟩ | ⟨hfault', hg⟩
  · exact hfault.trans hfault'.symm
  · exact absurd (hmirror ▸ hg) (not_mem_unavailable hf)
  · exact absurd (hmirror ▸ hf) (not_mem_unavailable hg)
  · exact hfault.trans hfault'.symm

/-- Every finding is true of the report. -/
theorem isTrue_of_mem_findings {policy : MirrorPolicy} {report : MirrorReport} {f : Finding}
    (hf : f ∈ findings policy report) : f.IsTrue policy report := by
  unfold Finding.IsTrue
  rcases mem_findings_iff.1 hf with ⟨hfault, hf⟩ | ⟨hfault, hf⟩
  · rw [hfault]
    exact (mem_absent_iff.1 hf).2
  · rw [hfault]
    exact (mem_unavailable_iff.1 hf).2

/-- No mirror is found twice if none is known twice and none is listed twice. -/
theorem nodup_map_mirror_findings {policy : MirrorPolicy} {report : MirrorReport}
    (hknown : policy.known.Nodup) (hlisted : (report.items.map (·.name)).Nodup) :
    ((findings policy report).map (·.mirror)).Nodup := by
  have habsent : (absent policy report).Nodup := by
    unfold absent
    split
    · exact hknown.filter _
    · exact List.nodup_nil
  have hunavailable : (unavailable report).Nodup := by
    unfold unavailable
    split
    · exact hlisted.sublist (List.filter_sublist.map _)
    · exact List.nodup_nil
  -- The absent mirrors and the unavailable ones have nothing in common.
  have hmirrors : (findings policy report).map (·.mirror) =
      absent policy report ++ unavailable report := by
    simp [findings_eq, Function.comp_def]
  rw [hmirrors]
  refine List.nodup_append.2 ⟨habsent, hunavailable, fun name hname other hother heq => ?_⟩
  exact not_mem_unavailable hname (heq ▸ hother)

/-- The findings are first those of mirrors that are not configured, then those of disabled ones.
The first are the known names that the report does not carry, in known order, if the report counts
fewer mirrors than are expected; the second are the unavailable mirrors of the report, in its order,
if it counts any. No mirror has both faults, every finding is true of the report, and no name is
found twice if none is known twice and none listed twice. -/
theorem findings_exact (policy : MirrorPolicy) (report : MirrorReport) :
    (findings policy report).Pairwise (fun f g => f.fault = .disabled → g.fault = .disabled) ∧
    mirrorsWith .notConfigured (findings policy report) =
      (if report.total < policy.expectedCount then
        policy.known.filter fun name => ∀ m ∈ report.items, m.name ≠ name
      else []) ∧
    mirrorsWith .disabled (findings policy report) =
      (if 0 < report.total then (report.items.filter fun m => m.available = false).map (·.name)
      else []) ∧
    (∀ f ∈ findings policy report, ∀ g ∈ findings policy report,
      f.mirror = g.mirror → f.fault = g.fault) ∧
    (∀ f ∈ findings policy report, f.IsTrue policy report) ∧
    (policy.known.Nodup → (report.items.map (·.name)).Nodup →
      ((findings policy report).map (·.mirror)).Nodup) := by
  refine ⟨pairwise_findings policy report, ?_, ?_, ?_, ?_, ?_⟩
  · rw [mirrorsWith_notConfigured, absent]
  · rw [mirrorsWith_disabled, unavailable]
  · intro f hf g hg hmirror
    exact fault_eq_of_mirror_eq hf hg hmirror
  · intro f hf
    exact isTrue_of_mem_findings hf
  · intro hknown hlisted
    exact nodup_map_mirror_findings hknown hlisted

/-- A report of one mirror that the standard configuration knows, which is not available. -/
def oneUnavailable : MirrorReport :=
  ⟨1, [⟨"development-kit", false, none, none⟩]⟩

/-- Its findings are one of either fault, and no mirror is found twice. -/
theorem findings_exact_oneUnavailable :
    MirrorPolicy.standard.known.Nodup ∧ (oneUnavailable.items.map (·.name)).Nodup ∧
      findings .standard oneUnavailable =
        [⟨"community.stable", .notConfigured⟩, ⟨"development-kit", .disabled⟩] ∧
      ((findings .standard oneUnavailable).map (·.mirror)).Nodup := by
  have hknown : MirrorPolicy.standard.known.Nodup := by decide
  have hlisted : (oneUnavailable.items.map (·.name)).Nodup := by decide
  obtain ⟨-, -, -, -, -, honce⟩ := findings_exact .standard oneUnavailable
  exact ⟨hknown, hlisted, by decide +kernel, honce hknown hlisted⟩

end Rollout
