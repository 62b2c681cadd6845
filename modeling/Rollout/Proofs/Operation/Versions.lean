import Rollout.Program
import Rollout.Proofs.Operation.Load
import Rollout.Proofs.Operation.Replay
import Rollout.Proofs.Session.Order

/-!
# How showing what would be installed ends

The command loads a catalog, makes the choices, and examines the session anew if there were any. Its
progress is that of the three parts one after another (`progress_versions`). For each part it is
said with what it ends in a run that is not cancelled and in which state it leaves the service
(`Progress.Leaves`), and with what it fails.

What a session lacks depends on the catalog alone, so it is ready after the choices exactly if it
was before (`Session.missing_afterChoices_start`), and a report on the mirrors is received once for
the loading and once more for the choices, or never (`Anew.exists_last`, `Anew.last_eq_none`). The
summary is made of the session in the end, and the reasons for which there is none are those of
`VersionsFails` (`versions_outcome`).
-/

namespace Rollout

open Service

namespace Session

/-- The session with what a report says about the mirrors, if one was received. -/
def explainedBy (config : Config) (s : Session) (received : Option MirrorReport) : Session :=
  s.after (received.toList.map fun report => .setFindings (Rollout.findings config.mirrors report))

/-- A report does not change what a session lacks. -/
@[simp] theorem missing_explainedBy (config : Config) (s : Session)
    (received : Option MirrorReport) : (s.explainedBy config received).missing = s.missing := by
  cases received <;> rfl

/-- A report does not change what can be chosen. -/
@[simp] theorem catalog_explainedBy (config : Config) (s : Session)
    (received : Option MirrorReport) : (s.explainedBy config received).catalog = s.catalog := by
  cases received <;> rfl

/-- Where a report was received it decides what is found, and nothing that was found before counts.
-/
theorem findings_explainedBy (config : Config) (s : Session) (received : Option MirrorReport) :
    (s.explainedBy config received).findings =
      received.elim s.findings (Rollout.findings config.mirrors) := by
  cases received <;> rfl

/-- The session in which these components count toward the size, if some are given. -/
def activated (s : Session) : Option (List Component) → Session
  | none => s
  | some active => s.setActive active

/-- What counts toward the size does not decide whether a session is ready. -/
@[simp] theorem isReady_activated (s : Session) (active : Option (List Component)) :
    (s.activated active).isReady = s.isReady := by
  cases active <;> rfl

/-- What counts toward the size does not change what a session lacks. -/
@[simp] theorem missing_activated (s : Session) (active : Option (List Component)) :
    (s.activated active).missing = s.missing := by
  cases active <;> rfl

/-- What counts toward the size does not change what was found. -/
@[simp] theorem findings_activated (s : Session) (active : Option (List Component)) :
    (s.activated active).findings = s.findings := by
  cases active <;> rfl

/-- Neither a report nor choices change what a session lacks. -/
theorem missing_afterChoices_start (catalog : Catalog) (flow : Flow) (config : Config)
    (received : Option MirrorReport) (choices : List Choice) :
    (((start catalog flow config.resolver).1.explainedBy config received).afterChoices
      choices).missing = catalog.lacking flow := by
  -- A report and choices are both actions, so the session is one that a run from the start has
  -- reached.
  have hsettled := Settled.after catalog flow config.resolver
    ((received.toList.map fun report => .setFindings (Rollout.findings config.mirrors report)) ++
      choices.map Choice.action)
  rw [after, List.foldl_append] at hsettled
  exact hsettled.missing_eq

/-- Neither a report nor choices decide whether a session is ready. -/
theorem isReady_afterChoices_start (catalog : Catalog) (flow : Flow) (config : Config)
    (received : Option MirrorReport) (choices : List Choice) :
    (((start catalog flow config.resolver).1.explainedBy config received).afterChoices
      choices).isReady = (start catalog flow config.resolver).1.isReady := by
  rw [(Settled.start catalog flow config.resolver).isReady_eq,
    ← missing_afterChoices_start catalog flow config received choices]
  rfl

/-- What a choice names depends only on the catalog. -/
theorem find_congr {s s' : Session} (h : s.catalog = s'.catalog) (c : Component) (key : Key) :
    s.find c key = s'.find c key := by
  unfold find
  rw [h]

end Session

/-- Either every choice names an artifact of the catalog, or one is the first that does not. -/
theorem Catalog.hasAll_or_refused (catalog : Catalog) (choices : List Choice) :
    catalog.HasAll choices ∨ ∃ before choice rest, choices = before ++ choice :: rest ∧
      catalog.HasAll before ∧ catalog.find? choice.component choice.key = none := by
  induction choices with
  | nil => exact .inl nofun
  | cons choice rest ih =>
    -- If the first choice names nothing it is the one; otherwise the first among the rest is, if
    -- any.
    cases hfound : catalog.find? choice.component choice.key with
    | none => exact .inr ⟨[], choice, rest, rfl, nofun, hfound⟩
    | some a =>
      have hchoice : ∃ a, catalog.find? choice.component choice.key = some a := ⟨a, hfound⟩
      rcases ih with hall | ⟨before, refused, later, rfl, hbefore, hnone⟩
      · exact .inl (List.forall_mem_cons.2 ⟨hchoice, hall⟩)
      · exact .inr ⟨choice :: before, refused, later, rfl,
          List.forall_mem_cons.2 ⟨hchoice, hbefore⟩, hnone⟩

namespace Operation

variable {α β σ : Type} {answer : Responder σ} {config : Config} {flow : Flow}
  {choices : List Choice} {active : Option (List Component)} {limit now : Nat} {state next : σ}

/-- The run has ended with this success and has left the service in this state. -/
def Progress.Leaves (p : Progress σ (Except Error α)) (x : α) (next : σ) : Prop :=
  ∃ t, p.outcome = some (.ok x, t, next)

/-- What happened before does not change how a run ends. -/
@[simp] theorem Progress.leaves_after {history : List Happening}
    {p : Progress σ (Except Error α)} {x : α} :
    (p.after history).Leaves x next ↔ p.Leaves x next :=
  Iff.rfl

/-- A run that has ended leaves what it ended with. -/
@[simp] theorem Progress.leaves_ended {history : List Happening} {result : Except Error α} {x : α} :
    (ended history result now state).Leaves x next ↔ result = .ok x ∧ state = next := by
  simp [Leaves, ended]

/-- What goes on after a success leaves what the part after the success leaves. -/
theorem Progress.leaves_proceed_iff {p : Progress σ (Except Error α)} {failed : Error → List Event}
    {f : α → Nat → σ → Progress σ (Except Error β)} {y : β} :
    (p.proceed failed f).Leaves y next ↔ ∃ x t s, p.outcome = some (.ok x, t, s) ∧
      (f x t s).Leaves y next := by
  unfold Leaves
  simp only [outcome_proceed_eq_ok_iff]
  constructor
  · rintro ⟨t, x, t', s, hp, hf⟩
    exact ⟨x, t', s, hp, t, hf⟩
  · rintro ⟨x, t', s, hp, t, hf⟩
    exact ⟨t, x, t', s, hp, hf⟩

/-! ## Explaining a session -/

/-- A session that is ready needs no explanation, and for another a report on the mirrors is
received. Then the service is in the state `next`. -/
inductive Explained (answer : Responder σ) (limit : Nat) :
    (ready : Bool) → (state next : σ) → Option MirrorReport → Prop where
  | ready (state : σ) : Explained answer limit true state state none
  | reported {state : σ} {n : Nat} {report : MirrorReport} (hlimit : n < limit)
      (hgives : Gives answer .mirrors state n (.ok report)) :
      Explained answer limit false state (stateAfter (answer .mirrors) state (n + 1)) (some report)

/-- Asking the mirrors leaves what is found by the first report that is given in time. -/
theorem leaves_diagnose_iff {missing : List Component} {found : List Finding} :
    ((diagnose config missing).progress answer none limit now state).Leaves found next ↔
      ∃ n < limit, ∃ report, Gives answer .mirrors state n (.ok report) ∧
        found = findings config.mirrors report ∧
        next = stateAfter (answer .mirrors) state (n + 1) := by
  rw [progress_diagnose, Progress.leaves_after, Progress.leaves_proceed_iff]
  simp only [Progress.leaves_ended, Except.ok.injEq]
  constructor
  · rintro ⟨report, _, s, hpolled, rfl, rfl⟩
    obtain ⟨n, hn, hgives, -, rfl⟩ := outcome_polled_iff.1 hpolled
    exact ⟨n, hn, report, hgives, rfl, rfl⟩
  · rintro ⟨n, hn, report, hgives, rfl, rfl⟩
    exact ⟨report, _, _, outcome_polled_iff.2 ⟨n, hn, hgives, rfl, rfl⟩, rfl, rfl⟩

/-- Asking the mirrors fails with the first failure that is given instead of a report. -/
theorem fails_diagnose_iff {missing : List Component} {err : Error} :
    ((diagnose config missing).progress answer none limit now state).Fails err ↔
      ∃ n < limit, Gives answer .mirrors state n (.error err) := by
  rw [progress_diagnose, Progress.fails_after, Progress.fails_proceed_iff, fails_polled_iff]
  simp

/-- A session that has been explained is the one that the report explains. -/
theorem leaves_explain_iff {s s' : Session} :
    ((explain config s).progress answer none limit now state).Leaves s' next ↔
      ∃ received, Explained answer limit s.isReady state next received ∧
        s' = s.explainedBy config received := by
  cases hready : s.isReady with
  | true =>
    -- A session that is ready is left as it is, and nothing is asked.
    rw [progress_explain_of_isReady hready, Progress.leaves_ended, Except.ok.injEq]
    constructor
    · rintro ⟨rfl, rfl⟩
      exact ⟨none, .ready state, rfl⟩
    · rintro ⟨_, ⟨⟩, rfl⟩
      exact ⟨rfl, rfl⟩
  | false =>
    -- Another is left with what is found by the report that asking the mirrors leaves.
    rw [progress_explain_of_not_isReady hready, Progress.leaves_after,
      Progress.leaves_proceed_iff]
    simp only [Progress.leaves_ended, Except.ok.injEq]
    constructor
    · rintro ⟨found, t, s, hdiagnose, rfl, rfl⟩
      obtain ⟨n, hn, report, hgives, rfl, rfl⟩ := leaves_diagnose_iff.1 ⟨t, hdiagnose⟩
      exact ⟨some report, .reported hn hgives, rfl⟩
    · rintro ⟨_, _ | ⟨hn, hgives⟩, rfl⟩
      obtain ⟨t, hdiagnose⟩ := leaves_diagnose_iff.2 ⟨_, hn, _, hgives, rfl, rfl⟩
      exact ⟨_, t, _, hdiagnose, rfl, rfl⟩

/-- Only the explanation of a session that is not ready can fail, and it fails with the failure to
fetch a report. -/
theorem fails_explain_iff {s : Session} {err : Error} :
    ((explain config s).progress answer none limit now state).Fails err ↔
      s.isReady = false ∧ ∃ n < limit, Gives answer .mirrors state n (.error err) := by
  cases hready : s.isReady with
  | true =>
    rw [progress_explain_of_isReady hready]
    simp
  | false =>
    rw [progress_explain_of_not_isReady hready, Progress.fails_after, Progress.fails_proceed_iff,
      fails_diagnose_iff]
    simp

/-- The report is the only one that is received meanwhile. -/
theorem reports_explain {s : Session} {received : Option MirrorReport}
    (h : Explained answer limit s.isReady state next received) :
    reports answer (requests ((explain config s).progress answer none limit now state).history)
      state = received.toList := by
  rw [requests_explain]
  generalize s.isReady = ready at h
  cases h with
  | ready => rfl
  | reported hlimit hgives =>
    -- The mirrors are asked for until the report is there.
    have hquestions : mirrorQuestions answer config none limit now state = _ + 1 :=
      count_asked_of_fetches (fetches_iff_gives.2 hgives) hlimit
    rw [if_neg nofun, hquestions]
    exact reports_replicate_mirrors hgives

/-! ## Loading -/

/-- The listing is fetched, and a catalog and the names without meaning are read from it. Then the
service is in the state `next`. -/
inductive Listed (answer : Responder σ) (config : Config) (limit : Nat) (state : σ) :
    Catalog → List String → (next : σ) → Prop where
  | fetched {n : Nat} {offers : List Offer} {catalog : Catalog} {ignored : List String}
      (hlimit : n < limit) (hgives : Gives answer .components state n (.ok offers))
      (hread : config.readListing offers = .ok (catalog, ignored)) :
      Listed answer config limit state catalog ignored
        (stateAfter (answer .components) state (n + 1))

/-- Fetching leaves the first listing that is given in time. -/
theorem leaves_fetchListing_iff {offers : List Offer} :
    ((fetchListing config).progress answer none limit now state).Leaves offers next ↔
      ∃ n < limit, Gives answer .components state n (.ok offers) ∧
        next = stateAfter (answer .components) state (n + 1) := by
  unfold Progress.Leaves
  simp only [outcome_fetchListing_eq_ok_iff]
  constructor
  · rintro ⟨_, n, hn, hfetches, -, hnext⟩
    exact ⟨n, hn, fetches_iff_gives.1 hfetches, hnext⟩
  · rintro ⟨n, hn, hgives, hnext⟩
    exact ⟨_, n, hn, fetches_iff_gives.2 hgives, rfl, hnext⟩

/-- Fetching fails with the first failure that is given instead of a listing. -/
theorem fails_fetchListing_iff {err : Error} :
    ((fetchListing config).progress answer none limit now state).Fails err ↔
      ∃ n < limit, Gives answer .components state n (.error err) := by
  rw [progress_fetchListing, Progress.fails_after, Progress.fails_proceed_iff, fails_polled_iff]
  simp

/-- Loading ends with the session that begins with the catalog, when it has been explained. -/
theorem leaves_load_iff {report : Report} :
    ((load config flow).progress answer none limit now state).Leaves report next ↔
      ∃ catalog mid received, Listed answer config limit state catalog report.ignored mid ∧
        Explained answer limit (Session.start catalog flow config.resolver).1.isReady mid next
          received ∧
        report.session =
          (Session.start catalog flow config.resolver).1.explainedBy config received := by
  rw [progress_load, Progress.leaves_after, Progress.leaves_proceed_iff]
  constructor
  · -- A listing was fetched, and since loading succeeded it could be read.
    rintro ⟨offers, t, mid, hfetch, hseed⟩
    obtain ⟨n, hn, hgives, rfl⟩ := leaves_fetchListing_iff.1 ⟨t, hfetch⟩
    cases hread : config.readListing offers with
    | error cause =>
      rw [progress_seed_of_error hread, Progress.leaves_ended] at hseed
      exact nomatch hseed.1
    | ok found =>
      obtain ⟨catalog, ignored⟩ := found
      rw [progress_seed_of_ok hread, Progress.leaves_after, Progress.leaves_proceed_iff] at hseed
      obtain ⟨session, t, s, hexplain, hended⟩ := hseed
      obtain ⟨⟨⟩, rfl⟩ := Progress.leaves_ended.1 hended
      -- What is left then is the session that is opened, when it has been explained.
      obtain ⟨received, hexplained, hsession⟩ := leaves_explain_iff.1 ⟨t, hexplain⟩
      exact ⟨catalog, _, received, .fetched hn hgives hread, hexplained, hsession⟩
  · -- Conversely the three parts succeed one after another.
    rintro ⟨catalog, _, received, ⟨hn, hgives, hread⟩, hexplained, hsession⟩
    obtain ⟨t, hfetch⟩ := leaves_fetchListing_iff.2 ⟨_, hn, hgives, rfl⟩
    refine ⟨_, t, _, hfetch, ?_⟩
    rw [progress_seed_of_ok hread, Progress.leaves_after, Progress.leaves_proceed_iff]
    obtain ⟨t, hexplain⟩ := leaves_explain_iff.2 ⟨received, hexplained, hsession⟩
    exact ⟨_, t, _, hexplain, Progress.leaves_ended.2 ⟨rfl, rfl⟩⟩

/-- Loading fails with the failure to fetch the listing, with what is wrong with it, or with the
failure to fetch a report on the mirrors for a session that is not ready. -/
theorem fails_load_iff {err : Error} :
    ((load config flow).progress answer none limit now state).Fails err ↔
      (∃ n < limit, Gives answer .components state n (.error err)) ∨
      (∃ n < limit, ∃ offers cause, Gives answer .components state n (.ok offers) ∧
        config.readListing offers = .error cause ∧ err = .catalog cause) ∨
      ∃ catalog ignored mid, Listed answer config limit state catalog ignored mid ∧
        (Session.start catalog flow config.resolver).1.isReady = false ∧
        ∃ n < limit, Gives answer .mirrors mid n (.error err) := by
  rw [progress_load, Progress.fails_after, Progress.fails_proceed_iff, fails_fetchListing_iff]
  refine or_congr_right ?_
  constructor
  · -- Fetching has succeeded, so the failure is in reading the listing or in explaining the
    -- session.
    rintro ⟨offers, t, mid, hfetch, hseed⟩
    obtain ⟨n, hn, hgives, rfl⟩ := leaves_fetchListing_iff.1 ⟨t, hfetch⟩
    cases hread : config.readListing offers with
    | error cause =>
      rw [progress_seed_of_error hread, Progress.fails_ended, Except.error.injEq] at hseed
      exact .inl ⟨n, hn, offers, cause, hgives, hread, hseed.symm⟩
    | ok found =>
      obtain ⟨catalog, ignored⟩ := found
      rw [progress_seed_of_ok hread, Progress.fails_after, Progress.fails_proceed_iff,
        fails_explain_iff] at hseed
      rcases hseed with ⟨hready, hmirrors⟩ | ⟨_, _, _, _, hended⟩
      · exact .inr ⟨catalog, ignored, _, .fetched hn hgives hread, hready, hmirrors⟩
      · exact nomatch Progress.fails_ended.1 hended
  · -- Conversely each of the two is reached after a listing that was fetched.
    rintro (⟨n, hn, offers, cause, hgives, hread, rfl⟩ |
      ⟨catalog, ignored, _, ⟨hn, hgives, hread⟩, hready, hmirrors⟩)
    · obtain ⟨t, hfetch⟩ := leaves_fetchListing_iff.2 ⟨n, hn, hgives, rfl⟩
      refine ⟨offers, t, _, hfetch, ?_⟩
      rw [progress_seed_of_error hread]
      exact Progress.fails_ended.2 rfl
    · obtain ⟨t, hfetch⟩ := leaves_fetchListing_iff.2 ⟨_, hn, hgives, rfl⟩
      refine ⟨_, t, _, hfetch, ?_⟩
      rw [progress_seed_of_ok hread, Progress.fails_after, Progress.fails_proceed_iff]
      exact .inl (fails_explain_iff.2 ⟨hready, hmirrors⟩)

/-! ## Making choices -/

/-- Choices that name artifacts of the catalog are made and told before those after them. -/
theorem progress_choose_append {s : Session} {before : List Choice}
    (h : s.catalog.HasAll before) (later : List Choice) :
    (choose s (before ++ later)).progress answer none limit now state =
      ((choose (s.afterChoices before) later).progress answer none limit now state).after
        ((Session.told (s.history (before.map Choice.action))).map .told) := by
  rw [choose_append h, progress_tellAll_bind]

/-- If all choices name artifacts of the catalog, making them tells what they change and succeeds.
-/
theorem progress_choose_of_hasAll {s : Session} (h : s.catalog.HasAll choices) :
    (choose s choices).progress answer none limit now state =
      .ended ((Session.told (s.history (choices.map Choice.action))).map .told)
        (.ok (s.afterChoices choices)) now state := by
  rw [choose_of_hasAll h, progress_tellAll_bind]
  exact congrArg (fun history => Progress.ended history _ now state) (List.append_nil _)

/-- The first choice that names nothing ends the command. -/
theorem progress_choose_of_refused {s : Session} {before rest : List Choice} {choice : Choice}
    {cause : SelectionError} (hbefore : s.catalog.HasAll before)
    (hcause : s.find choice.component choice.key = .error cause) :
    (choose s (before ++ choice :: rest)).progress answer none limit now state =
      .ended ((Session.told (s.history (before.map Choice.action))).map .told)
        (.error (.selection cause)) now state := by
  -- The choices before it leave the catalog as it is, so it names nothing after them either.
  have hsame : (s.afterChoices before).find choice.component choice.key = .error cause := by
    rw [← hcause]
    exact Session.find_congr (Session.catalog_afterChoices hbefore) _ _
  have hselect := Session.select_eq_error_of_find hsame
  rw [progress_choose_append hbefore, choose, hselect]
  exact congrArg (fun history => Progress.ended history _ now state) (List.append_nil _)

/-- Making choices succeeds exactly if each names an artifact of the catalog, and no time passes for
the service. -/
theorem leaves_choose_iff {s s' : Session} :
    ((choose s choices).progress answer none limit now state).Leaves s' next ↔
      s.catalog.HasAll choices ∧ s' = s.afterChoices choices ∧ next = state := by
  rcases s.catalog.hasAll_or_refused choices with
    hall | ⟨before, choice, rest, rfl, hbefore, hnone⟩
  · -- Every choice names an artifact, so making them succeeds.
    rw [progress_choose_of_hasAll hall, Progress.leaves_ended, Except.ok.injEq]
    exact ⟨fun ⟨hs, hnext⟩ => ⟨hall, hs.symm, hnext.symm⟩,
      fun ⟨_, hs, hnext⟩ => ⟨hs.symm, hnext.symm⟩⟩
  · -- One does not, so it is refused, and not all of them name an artifact.
    obtain ⟨cause, hcause⟩ := Session.exists_find_eq_error_iff.2 hnone
    rw [progress_choose_of_refused hbefore hcause, Progress.leaves_ended]
    refine iff_of_false (fun h => nomatch h.1) fun ⟨hall, _⟩ => ?_
    obtain ⟨a, hfound⟩ := hall choice (List.mem_append_right _ List.mem_cons_self)
    rw [hnone] at hfound
    contradiction

/-- Making choices fails exactly with the refusal of the first that names nothing in the catalog. -/
theorem fails_choose_iff {s : Session} {err : Error} :
    ((choose s choices).progress answer none limit now state).Fails err ↔
      ∃ before choice rest cause, choices = before ++ choice :: rest ∧
        s.catalog.HasAll before ∧ s.find choice.component choice.key = .error cause ∧
        err = .selection cause := by
  constructor
  · intro hfails
    rcases s.catalog.hasAll_or_refused choices with
      hall | ⟨before, choice, rest, rfl, hbefore, hnone⟩
    · rw [progress_choose_of_hasAll hall] at hfails
      exact nomatch Progress.fails_ended.1 hfails
    · obtain ⟨cause, hcause⟩ := Session.exists_find_eq_error_iff.2 hnone
      rw [progress_choose_of_refused hbefore hcause, Progress.fails_ended,
        Except.error.injEq] at hfails
      exact ⟨before, choice, rest, cause, rfl, hbefore, hcause, hfails.symm⟩
  · rintro ⟨before, choice, rest, cause, rfl, hbefore, hcause, rfl⟩
    rw [progress_choose_of_refused hbefore hcause]
    exact Progress.fails_ended.2 rfl

/-- Choices are made without asking the service. -/
theorem requests_choose (s : Session) (choices : List Choice) :
    requests ((choose s choices).progress answer none limit now state).history = [] := by
  rcases s.catalog.hasAll_or_refused choices with
    hall | ⟨before, choice, rest, rfl, hbefore, hnone⟩
  · rw [progress_choose_of_hasAll hall]
    exact requests_told _
  · obtain ⟨cause, hcause⟩ := Session.exists_find_eq_error_iff.2 hnone
    rw [progress_choose_of_refused hbefore hcause]
    exact requests_told _

/-! ## Explaining the session anew -/

/-- Without choices the session is not explained anew. -/
theorem progress_reconsider_nil (s : Session) :
    (reconsider config s []).progress answer none limit now state = .ended [] (.ok s) now state :=
  rfl

/-- With choices the session is explained as if nothing had been found before. -/
theorem progress_reconsider_of_ne_nil (s : Session) (h : choices ≠ []) :
    (reconsider config s choices).progress answer none limit now state =
      (explain config (s.setFindings [])).progress answer none limit now state := by
  unfold reconsider
  rw [if_neg fun hempty => h (List.isEmpty_iff.1 hempty)]

/-- Explaining the session anew fails only with the failure to fetch a report for a session that is
not ready, and only if there are choices. -/
theorem fails_reconsider_iff {s : Session} {err : Error} :
    ((reconsider config s choices).progress answer none limit now state).Fails err ↔
      choices ≠ [] ∧ s.isReady = false ∧
        ∃ n < limit, Gives answer .mirrors state n (.error err) := by
  rcases eq_or_ne choices [] with rfl | hne
  · rw [progress_reconsider_nil, Progress.fails_ended]
    simp
  · rw [progress_reconsider_of_ne_nil s hne, fails_explain_iff]
    exact (and_iff_right hne).symm

/-! ## The command -/

/-- The command is its three parts one after another, and a failure of one is told by none after it.
-/
theorem progress_versions :
    (versions config flow choices active).progress answer none limit now state =
      ((load config flow).progress answer none limit now state).proceed (fun _ => [])
        fun report now state =>
          ((choose report.session choices).progress answer none limit now state).proceed
            (fun _ => []) fun s now state =>
              ((reconsider config (s.activated active) choices).progress answer none limit now
                state).proceed (fun _ => []) fun session =>
                  .ended [] (.ok (.session { report with session }.summary)) := by
  unfold versions
  refine progress_bind_eq_proceed (fun _ _ _ => rfl) fun report now state => ?_
  refine progress_bind_eq_proceed (fun _ _ _ => rfl) fun s now state => ?_
  exact progress_bind_eq_proceed (fun _ _ _ => rfl) fun _ _ _ => rfl

/-- The listing is asked for, and then what explains the session that it opens. -/
theorem requests_load_of_listed {catalog : Catalog} {ignored : List String} {mid : σ}
    (h : Listed answer config limit state catalog ignored mid) :
    ∃ n t, mid = afterRequests answer (List.replicate n .components) state ∧
      requests ((load config flow).progress answer none limit now state).history =
        List.replicate n .components ++
          requests ((explain config (Session.start catalog flow config.resolver).1).progress answer
            none limit t mid).history := by
  obtain ⟨hn, hgives, hread⟩ := h
  obtain ⟨t, hfetch⟩ := leaves_fetchListing_iff.2 ⟨_, hn, hgives, rfl⟩
  -- The listing is asked for until it is there, and then the session is explained.
  have hquestions : listingQuestions answer config none limit now state = _ + 1 :=
    count_asked_of_fetches (fetches_iff_gives.2 hgives) hn
  refine ⟨_, t, (afterRequests_replicate _ _ _).symm, ?_⟩
  rw [requests_load_of_ok hfetch, hquestions, requests_seed_of_ok hread, requests_explain]

/-- The reports that are received while loading are those that explain the session it opens. -/
theorem reports_load {catalog : Catalog} {ignored : List String} {mid : σ}
    {received : Option MirrorReport}
    (hlisted : Listed answer config limit state catalog ignored mid)
    (hexplained : Explained answer limit (Session.start catalog flow config.resolver).1.isReady mid
      next received) :
    reports answer (requests ((load config flow).progress answer none limit now state).history)
      state = received.toList := by
  obtain ⟨n, t, hmid, hrequests⟩ := requests_load_of_listed hlisted
  rw [hrequests, reports_append, reports_replicate_components, ← hmid, List.nil_append]
  exact reports_explain hexplained

/-- Why the command fails: the listing is not fetched, no catalog can be made of it, a report on the
mirrors that is needed is not fetched, a choice names nothing in the catalog and is the first that
does so, or the report that is needed after the choices is not fetched. -/
inductive VersionsFails (answer : Responder σ) (config : Config) (flow : Flow)
    (choices : List Choice) (limit : Nat) (state : σ) : Error → Prop where
  | unfetched {n : Nat} {err : Error} (hlimit : n < limit)
      (hgives : Gives answer .components state n (.error err)) :
      VersionsFails answer config flow choices limit state err
  | unread {n : Nat} {offers : List Offer} {cause : CatalogError} (hlimit : n < limit)
      (hgives : Gives answer .components state n (.ok offers))
      (hread : config.readListing offers = .error cause) :
      VersionsFails answer config flow choices limit state (.catalog cause)
  | unexplained {catalog : Catalog} {ignored : List String} {mid : σ} {n : Nat} {err : Error}
      (hlisted : Listed answer config limit state catalog ignored mid)
      (hready : (Session.start catalog flow config.resolver).1.isReady = false) (hlimit : n < limit)
      (hgives : Gives answer .mirrors mid n (.error err)) :
      VersionsFails answer config flow choices limit state err
  | refused {catalog : Catalog} {ignored : List String} {mid next : σ}
      {received : Option MirrorReport} {before rest : List Choice} {choice : Choice}
      {cause : SelectionError} (hlisted : Listed answer config limit state catalog ignored mid)
      (hexplained : Explained answer limit (Session.start catalog flow config.resolver).1.isReady
        mid next received)
      (hchoices : choices = before ++ choice :: rest) (hbefore : catalog.HasAll before)
      (hcause : (Session.start catalog flow config.resolver).1.find choice.component choice.key =
        .error cause) :
      VersionsFails answer config flow choices limit state (.selection cause)
  | unexplainedAnew {catalog : Catalog} {ignored : List String} {mid next : σ}
      {report : MirrorReport} {n : Nat} {err : Error}
      (hlisted : Listed answer config limit state catalog ignored mid)
      (hready : (Session.start catalog flow config.resolver).1.isReady = false)
      (hexplained : Explained answer limit false mid next (some report)) (hne : choices ≠ [])
      (hall : catalog.HasAll choices) (hlimit : n < limit)
      (hgives : Gives answer .mirrors next n (.error err)) :
      VersionsFails answer config flow choices limit state err

/-- A listing that was read and a session that was explained make loading succeed. -/
theorem leaves_load_of_explained {catalog : Catalog} {ignored : List String} {mid : σ}
    {received : Option MirrorReport}
    (hlisted : Listed answer config limit state catalog ignored mid)
    (hexplained : Explained answer limit (Session.start catalog flow config.resolver).1.isReady mid
      next received) :
    ((load config flow).progress answer none limit now state).Leaves
      ⟨(Session.start catalog flow config.resolver).1.explainedBy config received, ignored⟩ next :=
  leaves_load_iff.2 ⟨catalog, mid, received, hlisted, hexplained, rfl⟩

/-- A loaded session has the catalog that was listed. -/
theorem catalog_loaded (catalog : Catalog) (received : Option MirrorReport) :
    ((Session.start catalog flow config.resolver).1.explainedBy config received).catalog =
      catalog := by
  rw [Session.catalog_explainedBy]
  exact (Session.Settled.start catalog flow config.resolver).catalog_eq

/-- Its choices are those of the catalog. -/
theorem hasAll_loaded {catalog : Catalog} {received : Option MirrorReport}
    {choices : List Choice} :
    ((Session.start catalog flow config.resolver).1.explainedBy config received).catalog.HasAll
      choices ↔ catalog.HasAll choices := by
  rw [catalog_loaded]

/-- It refuses what the session that begins with the catalog refuses. -/
theorem find_loaded (catalog : Catalog) (received : Option MirrorReport) (c : Component)
    (key : Key) :
    ((Session.start catalog flow config.resolver).1.explainedBy config received).find c key =
      (Session.start catalog flow config.resolver).1.find c key :=
  Session.find_congr (Session.catalog_explainedBy _ _ _) c key

/-- After the choices it is ready if it was before. -/
theorem isReady_chosen (catalog : Catalog) (received : Option MirrorReport)
    (choices : List Choice) (active : Option (List Component)) :
    (((((Session.start catalog flow config.resolver).1.explainedBy config received).afterChoices
      choices).activated active).setFindings []).isReady =
        (Session.start catalog flow config.resolver).1.isReady := by
  show (Session.activated _ active).isReady = _
  rw [Session.isReady_activated, Session.isReady_afterChoices_start]

/-- What follows the loading fails with the first choice that names nothing, or with the failure to
fetch the report that is needed after the choices. -/
theorem fails_chosen_iff {s : Session} {report : Report} {err : Error} :
    (((choose s choices).progress answer none limit now state).proceed (fun _ => [])
      fun s now state =>
        ((reconsider config (s.activated active) choices).progress answer none limit now
          state).proceed (fun _ => []) fun session =>
            .ended [] (.ok (Output.session (Report.summary { report with session })))).Fails err ↔
      (∃ before choice rest cause, choices = before ++ choice :: rest ∧
        s.catalog.HasAll before ∧ s.find choice.component choice.key = .error cause ∧
        err = .selection cause) ∨
      choices ≠ [] ∧ s.catalog.HasAll choices ∧
        (((s.afterChoices choices).activated active).setFindings []).isReady = false ∧
        ∃ n < limit, Gives answer .mirrors state n (.error err) := by
  rw [Progress.fails_proceed_iff, fails_choose_iff]
  refine or_congr_right ?_
  constructor
  · rintro ⟨chosen, t, next, hchoose, hlater⟩
    obtain ⟨hall, rfl, rfl⟩ := leaves_choose_iff.1 ⟨t, hchoose⟩
    -- Showing the session does not fail, so explaining it anew has.
    rcases Progress.fails_proceed_iff.1 hlater with hreconsider | ⟨_, _, _, -, hended⟩
    · obtain ⟨hne, hready, hmirrors⟩ := fails_reconsider_iff.1 hreconsider
      exact ⟨hne, hall, hready, hmirrors⟩
    · exact nomatch Progress.fails_ended.1 hended
  · rintro ⟨hne, hall, hready, hmirrors⟩
    obtain ⟨t, hchoose⟩ := leaves_choose_iff.2 ⟨hall, rfl, rfl⟩
    exact ⟨_, t, state, hchoose,
      Progress.fails_proceed_iff.2 (.inl (fails_reconsider_iff.2 ⟨hne, hready, hmirrors⟩))⟩

/-- The command fails for the reasons that are given, and for no others. -/
theorem fails_versions_iff {err : Error} :
    ((versions config flow choices active).progress answer none limit now state).Fails err ↔
      VersionsFails answer config flow choices limit state err := by
  rw [progress_versions, Progress.fails_proceed_iff, fails_load_iff]
  constructor
  · rintro ((⟨n, hn, hgives⟩ | ⟨n, hn, offers, cause, hgives, hread, rfl⟩ |
      ⟨catalog, ignored, mid, hlisted, hready, n, hn, hgives⟩) |
      ⟨⟨session, ignored⟩, t, next, hload, hlater⟩)
    · -- The three failures of the loading.
      exact .unfetched hn hgives
    · exact .unread hn hgives hread
    · exact .unexplained hlisted hready hn hgives
    · -- The two failures after it, said of the session that was loaded.
      obtain ⟨catalog, mid, received, hlisted, hexplained, rfl⟩ := leaves_load_iff.1 ⟨t, hload⟩
      rcases fails_chosen_iff.1 hlater with
        ⟨before, choice, rest, cause, hchoices, hbefore, hcause, rfl⟩ |
        ⟨hne, hall, hready, n, hn, hgives⟩
      · rw [find_loaded] at hcause
        exact .refused hlisted hexplained hchoices (hasAll_loaded.1 hbefore) hcause
      · rw [isReady_chosen] at hready
        -- The session is not ready, so a report was received for it before the choices as well.
        rw [hready] at hexplained
        cases hexplained with
        | reported hlimit hreport =>
          exact .unexplainedAnew hlisted hready (.reported hlimit hreport) hne
            (hasAll_loaded.1 hall) hn hgives
  · intro hfails
    cases hfails with
    | unfetched hn hgives => exact .inl (.inl ⟨_, hn, hgives⟩)
    | unread hn hgives hread => exact .inl (.inr (.inl ⟨_, hn, _, _, hgives, hread, rfl⟩))
    | unexplained hlisted hready hn hgives =>
      exact .inl (.inr (.inr ⟨_, _, _, hlisted, hready, _, hn, hgives⟩))
    | @refused catalog _ _ next received _ _ _ _ hlisted hexplained hchoices hbefore hcause =>
      obtain ⟨t, hload⟩ : ((load config flow).progress answer none limit now state).Leaves _ next :=
        leaves_load_of_explained hlisted hexplained
      rw [← find_loaded catalog received] at hcause
      exact .inr ⟨_, t, next, hload, fails_chosen_iff.2
        (.inl ⟨_, _, _, _, hchoices, hasAll_loaded.2 hbefore, hcause, rfl⟩)⟩
    | @unexplainedAnew catalog _ _ next report n _ hlisted hready hexplained hne hall hn hgives =>
      rw [← hready] at hexplained
      obtain ⟨t, hload⟩ : ((load config flow).progress answer none limit now state).Leaves _ next :=
        leaves_load_of_explained hlisted hexplained
      exact .inr ⟨_, t, next, hload, fails_chosen_iff.2 (.inr
        ⟨hne, hasAll_loaded.2 hall, (isReady_chosen _ _ _ _).trans hready, n, hn, hgives⟩)⟩

/-! ## Success -/

/-- A session that is ready is loaded without asking for the mirrors. -/
theorem mirrors_notMem_requests_load {catalog : Catalog} {ignored : List String} {mid : σ}
    (hlisted : Listed answer config limit state catalog ignored mid)
    (hready : (Session.start catalog flow config.resolver).1.isReady = true) :
    .mirrors ∉ requests ((load config flow).progress answer none limit now state).history := by
  intro hmem
  obtain ⟨n, t, -, hrequests⟩ := requests_load_of_listed hlisted
  rw [hrequests, requests_explain, if_pos hready, List.append_nil] at hmem
  exact nomatch List.eq_of_mem_replicate hmem

/-- With choices the session is explained anew, and what was found before no longer counts. -/
inductive Anew (answer : Responder σ) (limit : Nat) (ready : Bool) (state : σ) :
    List Choice → Option MirrorReport → Prop where
  | kept : Anew answer limit ready state [] none
  | explained {choices : List Choice} {next : σ} {again : Option MirrorReport} (hne : choices ≠ [])
      (hexplained : Explained answer limit ready state next again) :
      Anew answer limit ready state choices again

/-- A session that is ready is never explained by a report. -/
theorem Anew.last_eq_none {received again : Option MirrorReport} {mid : σ}
    (hanew : Anew answer limit true next choices again)
    (hexplained : Explained answer limit true mid next received) :
    (if choices = [] then received else again) = none := by
  cases hexplained
  cases hanew with
  | kept => rfl
  | explained hne hexplained =>
    cases hexplained
    exact if_neg hne

/-- Another session is explained by the last of the reports, of which there are two if there are
choices. -/
theorem Anew.exists_last {received again : Option MirrorReport} {mid : σ}
    (hanew : Anew answer limit false next choices again)
    (hexplained : Explained answer limit false mid next received) :
    ∃ earlier last, received.toList ++ again.toList = earlier ++ [last] ∧
      earlier.length = (if choices = [] then 0 else 1) ∧
      (if choices = [] then received else again) = some last := by
  cases hexplained with
  | reported _ _ =>
    cases hanew with
    | kept => exact ⟨[], _, rfl, rfl, rfl⟩
    | explained hne hexplained =>
      cases hexplained with
      | reported _ _ => exact ⟨[_], _, rfl, (if_neg hne).symm, if_neg hne⟩

/-- What is asked, answered and found when the session is explained anew, if it is. -/
theorem reconsider_ok {s s' : Session} {t : Nat}
    (h : ((reconsider config s choices).progress answer none limit now state).outcome =
      some (.ok s', t, next)) :
    ∃ again, Anew answer limit s.isReady state choices again ∧ s'.missing = s.missing ∧
      s'.findings = (if choices = [] then s.findings
        else again.elim [] (findings config.mirrors)) ∧
      reports answer (requests ((reconsider config s choices).progress answer none limit now
        state).history) state = again.toList ∧
      (s.isReady = true → requests ((reconsider config s choices).progress answer none limit now
        state).history = []) := by
  rcases eq_or_ne choices [] with rfl | hne
  · cases h
    exact ⟨none, .kept, rfl, rfl, rfl, fun _ => rfl⟩
  · rw [progress_reconsider_of_ne_nil _ hne] at h ⊢
    obtain ⟨again, hexplained, rfl⟩ := leaves_explain_iff.1 ⟨t, h⟩
    refine ⟨again, .explained hne hexplained, Session.missing_explainedBy _ _ _, ?_,
      reports_explain hexplained, fun hready => ?_⟩
    · rw [if_neg hne]
      exact Session.findings_explainedBy _ _ _
    · rw [requests_explain]
      exact if_pos hready

/-- What is shown of the session in the end, and what was asked and answered for it. -/
theorem outcome_versions_ok {output : Output} {t : Nat} {s : σ}
    (h : ((versions config flow choices active).progress answer none limit now state).outcome =
      some (.ok output, t, s)) :
    ∃ catalog ignored mid next received again session,
      Listed answer config limit state catalog ignored mid ∧ catalog.HasAll choices ∧
      Explained answer limit (Session.start catalog flow config.resolver).1.isReady mid next
        received ∧
      Anew answer limit (Session.start catalog flow config.resolver).1.isReady next choices again ∧
      output = .session (Report.summary ⟨session, ignored⟩) ∧
      session.missing = catalog.lacking flow ∧
      session.findings =
        (if choices = [] then received else again).elim [] (findings config.mirrors) ∧
      reports answer (requests ((versions config flow choices active).progress answer none limit
        now state).history) state = received.toList ++ again.toList ∧
      ((Session.start catalog flow config.resolver).1.isReady = true →
        .mirrors ∉ requests ((versions config flow choices active).progress answer none limit now
          state).history) := by
  rw [progress_versions] at h ⊢
  -- The three parts have succeeded one after another.
  obtain ⟨⟨opened, ignored⟩, t₁, next, hload, hlater⟩ := Progress.outcome_proceed_eq_ok_iff.1 h
  obtain ⟨chosen, t₂, next', hchoose, hlast⟩ := Progress.outcome_proceed_eq_ok_iff.1 hlater
  obtain ⟨session, t₃, last, hreconsider, hended⟩ := Progress.outcome_proceed_eq_ok_iff.1 hlast
  -- What each of them has left, in terms of the catalog that was listed.
  obtain ⟨catalog, mid, received, hlisted, hexplained, rfl⟩ := leaves_load_iff.1 ⟨t₁, hload⟩
  obtain ⟨hall, rfl, rfl⟩ := leaves_choose_iff.1 ⟨t₂, hchoose⟩
  obtain ⟨again, hanew, hmissing, hfindings, hreports, hasked⟩ := reconsider_ok hreconsider
  cases hended
  rw [catalog_loaded] at hall
  rw [Session.isReady_activated, Session.isReady_afterChoices_start] at hanew hasked
  rw [Session.missing_activated, Session.missing_afterChoices_start] at hmissing
  -- There remain what is found, which reports were received, and that a ready session needs none.
  refine ⟨catalog, ignored, mid, next', received, again, session, hlisted, hall, hexplained, hanew,
    rfl, hmissing, ?_, ?_, fun hready => ?_⟩
  · rw [hfindings]
    split
    · next hnil =>
      subst hnil
      rw [Session.findings_activated]
      exact (Session.findings_explainedBy _ _ _).trans (by rw [Session.findings_start])
    · rfl
  · rw [reports_proceed hload, reports_load hlisted hexplained, reports_proceed hchoose,
      requests_choose, reports, List.nil_append, reports_proceed hreconsider, hreports]
    exact congrArg _ (List.append_nil _)
  · rw [requests_proceed_of_ok hload, requests_proceed_of_ok hchoose, requests_choose,
      requests_proceed_of_ok hreconsider, hasked hready]
    exact fun hmem => mirrors_notMem_requests_load hlisted hready (List.append_nil _ ▸ hmem)

/-! ## The whole -/

/-- A run of the program for this command that is not cancelled and ends with an output has made
every choice in the catalog that was listed, and shows a session that is ready exactly if everything
that the flow requires has an artifact in that catalog. The exit status is zero if it is ready and
two if not. If it is ready nothing is found and the mirrors have not been asked for. If not, what is
found is what the last report on the mirrors says, and before that one there was none without
choices and one with choices.

A run that ends with a failure has the status one and puts nothing out, and the failures with which
it may end are exactly those of `VersionsFails`. All of this holds for every service. -/
theorem versions_outcome (plan : Plan) (around : Surroundings) (flow : Flow)
    (choices : List Choice) (active : Option (List Component)) (answer : Responder σ)
    (limit now : Nat) (state : σ) :
    let config := plan.config
    let versions := { plan with command := .versions flow choices active }
    let run := versions.operation.run answer none limit now state
    let finished := fun e : Ended σ (Except Error Output) =>
      versions.finish around (events e.history) e.result
    let received := fun e : Ended σ (Except Error Output) =>
      reports answer (requests e.history) state
    (∀ e output, run = some e → e.result = .ok output →
      ∃ catalog ignored mid summary, Listed answer config limit state catalog ignored mid ∧
        catalog.HasAll choices ∧ output = .session summary ∧
        (finished e).output = versions.outputText around output ∧
        (summary.ready = true ↔ ∀ c ∈ flow.required, catalog.artifacts c ≠ []) ∧
        (finished e).status = (if summary.ready then 0 else 2) ∧
        (summary.ready = true → summary.findings = [] ∧ .mirrors ∉ requests e.history) ∧
        (summary.ready = false → ∃ earlier last, received e = earlier ++ [last] ∧
          earlier.length = (if choices = [] then 0 else 1) ∧
          summary.findings = findings config.mirrors last)) ∧
    (∀ e err, run = some e → e.result = .error err →
      (finished e).status = 1 ∧ (finished e).output = "") ∧
    ∀ err, (∃ e, run = some e ∧ e.result = .error err) ↔
      VersionsFails answer config flow choices limit state err := by
  intro config versions run finished received
  refine ⟨fun e output hrun hok => ?_, fun e err hrun herr => ?_, fun err => ?_⟩
  · -- A success: what the run has left is read off its progress.
    obtain ⟨t, s, houtcome⟩ := exists_run_result_iff.1 ⟨e, hrun, hok⟩
    obtain ⟨catalog, ignored, mid, next, first, again, session, hlisted, hall, hexplained, hanew,
      rfl, hmissing, hfindings, hreports, hasked⟩ := outcome_versions_ok houtcome
    have hhistory : e.history =
        ((Operation.versions config flow choices active).progress answer none limit now
          state).history :=
      history_eq_of_run hrun
    have hopened : (Session.start catalog flow config.resolver).1.isReady =
        (catalog.lacking flow).isEmpty :=
      (Session.Settled.start catalog flow config.resolver).isReady_eq
    -- The summary is ready if the session that was opened was, since choices do not change it.
    have hready : (Report.summary ⟨session, ignored⟩).ready =
        (Session.start catalog flow config.resolver).1.isReady := by
      rw [hopened, ← hmissing]
      rfl
    have hfinished : finished e = ⟨Output.exitStatus _, versions.outputText around _, _⟩ :=
      congrArg (versions.finish around (events e.history)) hok
    -- In order: the output, readiness, the exit status, and the findings of either kind of session.
    refine ⟨catalog, ignored, mid, _, hlisted, hall, rfl, ?_, ?_, ?_, fun htrue => ?_,
      fun hfalse => ?_⟩
    · rw [hfinished]
    · rw [hready]
      exact Session.isReady_start_iff
    · rw [hfinished]
      rfl
    · rw [hready] at htrue
      rw [htrue] at hexplained hanew
      rw [hanew.last_eq_none hexplained] at hfindings
      rw [hhistory]
      exact ⟨hfindings, hasked htrue⟩
    · rw [hready] at hfalse
      rw [hfalse] at hexplained hanew
      obtain ⟨earlier, last, heq, hlength, hlast⟩ := hanew.exists_last hexplained
      rw [hlast] at hfindings
      refine ⟨earlier, last, ?_, hlength, hfindings⟩
      show reports answer (requests e.history) state = _
      rw [hhistory, ← heq]
      exact hreports
  · -- A failure puts nothing out.
    show (versions.finish around _ e.result).status = 1 ∧
      (versions.finish around _ e.result).output = ""
    rw [herr]
    exact ⟨rfl, rfl⟩
  · exact exists_run_error_iff.trans fails_versions_iff

/-- A service that offers an engine and nothing else, and reports on its mirrors. -/
def engineService : Script where
  components := [⟨.ok [⟨"core", [Catalog.sampleBuild "4.2.0" none "b"]⟩], 0⟩]
  mirrors := [⟨.ok ⟨0, []⟩, 0⟩, ⟨.error (.network (.serviceBusy "mirrors")), 0⟩,
    ⟨.ok ⟨1, [⟨"community.stable", true, some true, none⟩]⟩, 0⟩]
  deployments := []
  delete := []
  connection := []

/-- Without choices its mirrors are asked for once. With a choice they are asked for until a second
report is there, and that one counts. -/
example :
    (((versions .standard .install [] none).run Script.responder none 2 0 engineService).map
      fun e => (requests e.history, (reports Script.responder (requests e.history)
        engineService).length)) = some ([.components, .mirrors], 1) ∧
    (((versions .standard .install [Session.engineChoice] none).run Script.responder none 2 0
      engineService).map fun e => (requests e.history, (reports Script.responder
        (requests e.history) engineService).map (·.total))) =
          some ([.components, .mirrors, .mirrors, .mirrors], [0, 1]) := by
  decide +kernel

end Operation

end Rollout
