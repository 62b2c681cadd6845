import Rollout.Operation.Load
import Rollout.Proofs.Operation.Progress
import Rollout.Proofs.Reading
import Rollout.Proofs.Session.Readiness

/-!
# How loading a catalog ends

Loading is two pollings with a session between them, the second only if the session is not ready.
Its progress is put together from that of its parts (`progress_load` and the lemmas before it), and
from these equations it is read off, for one part after another, what succeeds (`yields_load_iff`),
what is asked for (`requests_load`) and what is announced (`announces_load`).

The three are joined for every service and every cancellation. What loading succeeds with depends
only on the configuration and on the listing and the report on the mirrors that are fetched: the
session is the one that the listing opens (`Opens`), explained by the mirrors if it is not ready.
-/

namespace Rollout

open Service

/-- A listing is read if the options of the configuration are valid and make a catalog of it. -/
theorem Config.readListing_eq_ok_iff {config : Config} {offers : List Offer} {catalog : Catalog}
    {ignored : List String} : config.readListing offers = .ok (catalog, ignored) ↔
      ∃ options, Catalog.Options.ofConfig config.catalog = .ok options ∧
        Catalog.normalize options offers = .ok catalog ∧
        ignored = Catalog.unknownNames options offers := by
  unfold readListing
  simp only [bind_eq_ok_iff]
  constructor
  · -- What is read tells the catalog and the ignored names apart.
    rintro ⟨options, hoptions, found, hfound, heq⟩
    obtain ⟨rfl, rfl⟩ := Prod.mk.inj (Except.ok.inj heq)
    exact ⟨options, hoptions, hfound, rfl⟩
  · rintro ⟨options, hoptions, hcatalog, rfl⟩
    exact ⟨options, hoptions, catalog, hcatalog, rfl⟩

namespace Operation

variable {σ : Type} {answer : Responder σ} {config : Config} {flow : Flow} {cancel : Option Nat}
  {limit now : Nat} {state : σ}

/-! ## How each part goes -/

/-- Diagnosing polls for the mirrors, and announces the findings or the failure. -/
theorem progress_diagnose (missing : List Component) :
    (diagnose config missing).progress answer cancel limit now state =
      ((polled answer cancel limit .mirrors .mirror config.network.busyRetryDelay now state).proceed
        (fun e => [.diagnosticsFailed e.failure])
        fun report => .ended [.told (.diagnosticsCompleted report.total
            ((findings config.mirrors report).map Finding.mirror))]
          (.ok (findings config.mirrors report))).after
        [.told (.diagnosticsStarted (missing.map Component.name))] := by
  unfold diagnose
  rw [progress_tellAll_bind, ← progress_polling]
  exact congrArg (Progress.after _)
    (progress_bind_eq_proceed (fun _ _ _ => rfl) fun _ _ _ => rfl)

/-- If the session is ready nothing is asked. -/
theorem progress_explain_of_isReady {s : Session} (h : s.isReady = true) :
    (explain config s).progress answer cancel limit now state =
      .ended [.told s.readiness] (.ok s) now state := by
  unfold explain
  rw [progress_tellAll_bind, if_pos h]
  rfl

/-- A session that is not ready gets the findings of a diagnosis, after its readiness was told. -/
theorem progress_explain_of_not_isReady {s : Session} (h : s.isReady = false) :
    (explain config s).progress answer cancel limit now state =
      (((diagnose config s.missing).progress answer cancel limit now state).proceed (fun _ => [])
        fun found => .ended [] (.ok (s.setFindings found))).after [.told s.readiness] := by
  unfold explain
  rw [progress_tellAll_bind, if_neg (Bool.eq_false_iff.1 h)]
  exact congrArg (Progress.after _)
    (progress_bind_eq_proceed (fun _ _ _ => rfl) fun _ _ _ => rfl)

/-- Fetching polls for the listing, and announces a failure. -/
theorem progress_fetchListing :
    (fetchListing config).progress answer cancel limit now state =
      ((polled answer cancel limit .components .catalog config.network.busyRetryDelay now
        state).proceed (fun e => [.fetchFailed e.failure])
          fun offers => .ended [] (.ok offers)).after
        [.told (.fetchStarted config.network.apiUrl)] := by
  unfold fetchListing
  rw [progress_tellAll_bind, ← progress_polling]
  exact congrArg (Progress.after _)
    (progress_bind_eq_proceed (fun _ _ _ => rfl) fun _ _ _ => rfl)

/-- The events that are told when a session begins. -/
def openingEvents (config : Config) (flow : Flow) (catalog : Catalog) (ignored : List String) :
    List Event :=
  loadedEvents catalog ignored ++ (Session.start catalog flow config.resolver).2

/-- A listing that cannot be read ends the loading without an event. -/
theorem progress_seed_of_error {offers : List Offer} {e : CatalogError}
    (h : config.readListing offers = .error e) :
    (seed config flow offers).progress answer cancel limit now state =
      .ended [] (.error (.catalog e)) now state := by
  unfold seed
  rw [h]
  rfl

/-- A listing that is read opens a session, which is explained and then announced as complete. -/
theorem progress_seed_of_ok {offers : List Offer} {catalog : Catalog} {ignored : List String}
    (h : config.readListing offers = .ok (catalog, ignored)) :
    (seed config flow offers).progress answer cancel limit now state =
      (((explain config (Session.start catalog flow config.resolver).1).progress answer cancel limit
        now state).proceed (fun _ => []) fun session =>
          .ended [.told (.completed "load_catalog" true)] (.ok { session, ignored })).after
        ((openingEvents config flow catalog ignored).map .told) := by
  unfold seed
  rw [h]
  dsimp only
  rw [progress_tellAll_bind]
  exact congrArg (Progress.after _)
    (progress_bind_eq_proceed (fun _ _ _ => rfl) fun _ _ _ => rfl)

/-- Loading fetches the listing and goes on with it. -/
theorem progress_load :
    (load config flow).progress answer cancel limit now state =
      (((fetchListing config).progress answer cancel limit now state).proceed (fun _ => [])
        fun offers => (seed config flow offers).progress answer cancel limit).after
        [.told (.started "load_catalog")] := by
  unfold load
  rw [progress_tellAll_bind]
  exact congrArg (Progress.after _)
    (progress_bind_eq_proceed (fun _ _ _ => rfl) fun _ _ _ => rfl)

/-! ## What comes of it -/

/-- A diagnosis succeeds if the report on the mirrors is fetched, with the findings in it. -/
theorem yields_diagnose_iff {missing : List Component} {found : List Finding} :
    ((diagnose config missing).progress answer cancel limit now state).Yields found ↔
      ∃ m < limit, ∃ mirrors, Fetches (answer .mirrors) config.network.busyRetryDelay.toNat cancel
        now state m mirrors ∧ found = findings config.mirrors mirrors := by
  rw [progress_diagnose, Progress.yields_after, Progress.yields_proceed_iff]
  simp only [Progress.yields_ended, Except.ok.injEq]
  constructor
  · -- A polling that succeeds has fetched the report, and the other way round.
    rintro ⟨mirrors, _, _, hpolled, rfl⟩
    obtain ⟨m, hm, hfetches, -, -⟩ := outcome_polled_eq_ok_iff.1 hpolled
    exact ⟨m, hm, mirrors, hfetches, rfl⟩
  · rintro ⟨m, hm, mirrors, hfetches, rfl⟩
    exact ⟨mirrors, _, _, outcome_polled_eq_ok_iff.2 ⟨m, hm, hfetches, rfl, rfl⟩, rfl⟩

/-- A session that is ready keeps its findings, and another gets those of the mirrors. -/
theorem yields_explain_iff {s s' : Session} :
    ((explain config s).progress answer cancel limit now state).Yields s' ↔
      ∃ found, s' = s.setFindings found ∧
        (s.isReady = true ∧ found = s.findings ∨
          s.isReady = false ∧ ∃ m < limit, ∃ mirrors,
            Fetches (answer .mirrors) config.network.busyRetryDelay.toNat cancel now state m
              mirrors ∧
            found = findings config.mirrors mirrors) := by
  cases hready : s.isReady with
  | true =>
    -- A session that is ready keeps the findings it has.
    rw [progress_explain_of_isReady hready, Progress.yields_ended, Except.ok.injEq]
    constructor
    · rintro rfl
      exact ⟨s.findings, rfl, .inl ⟨rfl, rfl⟩⟩
    · rintro ⟨_, rfl, ⟨-, rfl⟩ | ⟨hfalse, -⟩⟩
      · rfl
      · contradiction
  | false =>
    -- Any other gets those of the diagnosis, which is the only thing that can fail.
    rw [progress_explain_of_not_isReady hready, Progress.yields_after,
      Progress.yields_proceed_iff]
    simp only [Progress.yields_ended, Except.ok.injEq]
    constructor
    · rintro ⟨found, t, s, hfound, rfl⟩
      exact ⟨found, rfl, .inr ⟨trivial, yields_diagnose_iff.1 ⟨t, s, hfound⟩⟩⟩
    · rintro ⟨found, rfl, ⟨hfalse, -⟩ | ⟨-, hfound⟩⟩
      · contradiction
      · obtain ⟨t, s, houtcome⟩ := yields_diagnose_iff.2 hfound
        exact ⟨found, t, s, houtcome, rfl⟩

/-- The listing is there when it has been fetched. -/
theorem outcome_fetchListing_eq_ok_iff {offers : List Offer} {t : Nat} {s : σ} :
    ((fetchListing config).progress answer cancel limit now state).outcome =
        some (.ok offers, t, s) ↔
      ∃ n < limit, Fetches (answer .components) config.network.busyRetryDelay.toNat cancel now state
        n offers ∧
        t = now + arrival (answer .components) config.network.busyRetryDelay.toNat state n ∧
        s = stateAfter (answer .components) state (n + 1) := by
  rw [progress_fetchListing, Progress.outcome_after, Progress.outcome_proceed_eq_ok_iff]
  constructor
  · rintro ⟨_, _, _, hpolled, heq⟩
    cases heq
    exact outcome_polled_eq_ok_iff.1 hpolled
  · exact fun hfetched => ⟨_, _, _, outcome_polled_eq_ok_iff.2 hfetched, rfl⟩

/-- A listing comes to a report if it is read and the session that it opens is explained. -/
theorem yields_seed_iff {offers : List Offer} {report : Report} :
    ((seed config flow offers).progress answer cancel limit now state).Yields report ↔
      ∃ catalog, config.readListing offers = .ok (catalog, report.ignored) ∧
        ((explain config (Session.start catalog flow config.resolver).1).progress answer cancel
          limit now state).Yields report.session := by
  cases hread : config.readListing offers with
  | error e =>
    -- What cannot be read opens no session.
    rw [progress_seed_of_error hread, Progress.yields_ended]
    exact iff_of_false nofun fun ⟨_, h, _⟩ => nomatch h
  | ok p =>
    obtain ⟨catalog, ignored⟩ := p
    -- What is read opens one, and the report is complete when it has been explained.
    rw [progress_seed_of_ok hread, Progress.yields_after,
      Progress.yields_proceed_iff]
    simp only [Progress.yields_ended, Except.ok.injEq]
    constructor
    · rintro ⟨session, t, s, hsession, rfl⟩
      exact ⟨catalog, rfl, t, s, hsession⟩
    · rintro ⟨_, heq, t, s, hsession⟩
      cases heq
      exact ⟨_, t, s, hsession, rfl⟩

/-- Loading comes to a report if the listing is fetched and comes to it. -/
theorem yields_load_iff {report : Report} :
    ((load config flow).progress answer cancel limit now state).Yields report ↔
      ∃ offers t s, ((fetchListing config).progress answer cancel limit now state).outcome =
          some (.ok offers, t, s) ∧
        ((seed config flow offers).progress answer cancel limit t s).Yields report := by
  rw [progress_load, Progress.yields_after, Progress.yields_proceed_iff]

/-! ## What is asked for -/

/-- How often the listing is asked for. -/
def listingQuestions (answer : Responder σ) (config : Config) (cancel : Option Nat)
    (limit now : Nat) (state : σ) : Nat :=
  (stepsWithin (answer .components) config.network.busyRetryDelay.toNat cancel limit 0 now
    state).count .asked

/-- How often the mirrors are asked for, if they are. -/
def mirrorQuestions (answer : Responder σ) (config : Config) (cancel : Option Nat)
    (limit now : Nat) (state : σ) : Nat :=
  (stepsWithin (answer .mirrors) config.network.busyRetryDelay.toNat cancel limit 0 now state).count
    .asked

/-- A diagnosis asks for nothing but the mirrors. -/
theorem requests_diagnose (missing : List Component) :
    requests ((diagnose config missing).progress answer cancel limit now state).history =
      List.replicate (mirrorQuestions answer config cancel limit now state) .mirrors := by
  rw [progress_diagnose, requests_after_told,
    requests_proceed_of_eq_nil fun _ _ _ => rfl, requests_polled]
  rfl

/-- The mirrors are asked for only if the session is not ready. -/
theorem requests_explain (s : Session) :
    requests ((explain config s).progress answer cancel limit now state).history =
      if s.isReady then []
      else List.replicate (mirrorQuestions answer config cancel limit now state) .mirrors := by
  cases hready : s.isReady with
  | true =>
    rw [progress_explain_of_isReady hready]
    rfl
  | false =>
    rw [progress_explain_of_not_isReady hready, requests_after_told,
      requests_proceed_of_eq_nil fun _ _ _ => rfl, requests_diagnose]
    rfl

/-- Fetching asks for nothing but the listing. -/
theorem requests_fetchListing :
    requests ((fetchListing config).progress answer cancel limit now state).history =
      List.replicate (listingQuestions answer config cancel limit now state) .components := by
  rw [progress_fetchListing, requests_after_told,
    requests_proceed_of_eq_nil fun _ _ _ => rfl, requests_polled]
  rfl

/-- A listing that cannot be read leads to no request. -/
theorem requests_seed_of_error {offers : List Offer} {e : CatalogError}
    (h : config.readListing offers = .error e) :
    requests ((seed config flow offers).progress answer cancel limit now state).history = [] := by
  rw [progress_seed_of_error h]
  rfl

/-- After a listing that is read the mirrors are asked for, if the session is not ready. -/
theorem requests_seed_of_ok {offers : List Offer} {catalog : Catalog} {ignored : List String}
    (h : config.readListing offers = .ok (catalog, ignored)) :
    requests ((seed config flow offers).progress answer cancel limit now state).history =
      if (Session.start catalog flow config.resolver).1.isReady then []
      else List.replicate (mirrorQuestions answer config cancel limit now state) .mirrors := by
  rw [progress_seed_of_ok h]
  show requests (_ ++ (Progress.proceed _ _ _).history) = _
  rw [requests_append, requests_told, List.nil_append,
    requests_proceed_of_eq_nil fun _ _ _ => rfl, requests_explain]

/-- The requests of loading are those of its two parts, if the first succeeds. -/
theorem requests_load_of_ok {offers : List Offer} {t : Nat} {s : σ}
    (h : ((fetchListing config).progress answer cancel limit now state).outcome =
      some (.ok offers, t, s)) :
    requests ((load config flow).progress answer cancel limit now state).history =
      List.replicate (listingQuestions answer config cancel limit now state) .components ++
        requests ((seed config flow offers).progress answer cancel limit t s).history := by
  rw [progress_load, requests_after_told,
    requests_proceed_of_ok h, requests_fetchListing]

/-- If fetching does not succeed, its requests are all. -/
theorem requests_load_of_not_ok (h : ∀ offers t s,
    ((fetchListing config).progress answer cancel limit now state).outcome ≠
      some (.ok offers, t, s)) :
    requests ((load config flow).progress answer cancel limit now state).history =
      List.replicate (listingQuestions answer config cancel limit now state) .components := by
  rw [progress_load, requests_after_told,
    requests_proceed_of_not_ok h, requests_fetchListing]

/-! ## What is announced -/

/-- No completion is announced when a session begins. -/
theorem quiet_openingEvents (config : Config) (flow : Flow) (catalog : Catalog)
    (ignored : List String) : Quiet ((openingEvents config flow catalog ignored).map .told) := by
  rw [quiet_told]
  intro operation success h
  -- The events are those of the catalog and those of the session, none of which is a completion.
  rcases List.mem_append.1 h with h | h
  · unfold loadedEvents at h
    split at h <;> simp at h
  · exact nomatch Session.source_of_mem_start h

/-- A diagnosis announces no completion. -/
theorem quiet_diagnose (missing : List Component) :
    Quiet ((diagnose config missing).progress answer cancel limit now state).history := by
  rw [progress_diagnose]
  refine quiet_append.2 ⟨by simp, ?_⟩
  exact Progress.quiet_proceed (quiet_polled _ _ _) (by simp) (by simp [Progress.ended])

/-- Explaining a session announces no completion. -/
theorem quiet_explain (s : Session) :
    Quiet ((explain config s).progress answer cancel limit now state).history := by
  have hreadiness : Quiet [.told s.readiness] := by simp [Session.readiness]
  cases hready : s.isReady with
  | true =>
    rw [progress_explain_of_isReady hready]
    exact hreadiness
  | false =>
    rw [progress_explain_of_not_isReady hready]
    refine quiet_append.2 ⟨hreadiness, ?_⟩
    exact Progress.quiet_proceed (quiet_diagnose _) (by simp) (by simp [Progress.ended])

/-- Fetching the listing announces no completion. -/
theorem quiet_fetchListing :
    Quiet ((fetchListing config).progress answer cancel limit now state).history := by
  rw [progress_fetchListing]
  refine quiet_append.2 ⟨by simp, ?_⟩
  exact Progress.quiet_proceed (quiet_polled _ _ _) (by simp) (by simp [Progress.ended])

/-- What follows on the listing announces that the catalog is loaded exactly if it succeeds. -/
theorem announces_seed (offers : List Offer) :
    ((seed config flow offers).progress answer cancel limit now state).Announces
      "load_catalog" := by
  cases hread : config.readListing offers with
  | error e =>
    -- Without a session there is neither a result nor an announcement.
    rw [progress_seed_of_error hread]
    exact Progress.announces_error _ quiet_nil _
  | ok p =>
    -- With one the completion is the last event, after all that comes before is quiet.
    rw [progress_seed_of_ok hread]
    refine Progress.Announces.after ?_ (quiet_openingEvents _ _ _ _)
    refine Progress.announces_proceed (quiet_explain _) (by simp) fun _ _ _ => ?_
    exact .inl ⟨⟨_, Progress.yields_ended.2 rfl⟩, [], quiet_nil, rfl⟩

/-- Loading announces that the catalog is loaded exactly if it succeeds. -/
theorem announces_load :
    ((load config flow).progress answer cancel limit now state).Announces "load_catalog" := by
  rw [progress_load]
  refine Progress.Announces.after ?_ (by simp)
  exact Progress.announces_proceed quiet_fetchListing (by simp) fun offers _ _ =>
    announces_seed offers

/-! ## The whole -/

/-- After `n` busy answers the listing is fetched, before any cancellation, and the options of the
configuration are valid and make a catalog of it. -/
structure Opens (answer : Responder σ) (config : Config) (cancel : Option Nat) (now : Nat)
    (state : σ) (n : Nat) (offers : List Offer) (options : Catalog.Options) (catalog : Catalog) :
    Prop where
  fetched : Fetches (answer .components) config.network.busyRetryDelay.toNat cancel now state n
    offers
  options_eq : Catalog.Options.ofConfig config.catalog = .ok options
  catalog_eq : Catalog.normalize options offers = .ok catalog

namespace Opens

variable {n : Nat} {offers : List Offer} {options : Catalog.Options} {catalog : Catalog}

/-- The listing that opens a session is fetched. -/
theorem outcome_eq (h : Opens answer config cancel now state n offers options catalog)
    (hlimit : n < limit) :
    ((fetchListing config).progress answer cancel limit now state).outcome = some (.ok offers,
      now + arrival (answer .components) config.network.busyRetryDelay.toNat state n,
      stateAfter (answer .components) state (n + 1)) :=
  outcome_fetchListing_eq_ok_iff.2 ⟨n, hlimit, h.fetched, rfl, rfl⟩

/-- The listing that opens a session is read. -/
theorem readListing_eq (h : Opens answer config cancel now state n offers options catalog) :
    config.readListing offers = .ok (catalog, Catalog.unknownNames options offers) :=
  Config.readListing_eq_ok_iff.2 ⟨options, h.options_eq, h.catalog_eq, rfl⟩

end Opens

/-- Loading succeeds with the session that the listing opens, when it has been explained. -/
theorem yields_load_iff_opens {report : Report} :
    ((load config flow).progress answer cancel limit now state).Yields report ↔
      ∃ n < limit, ∃ offers options catalog,
        Opens answer config cancel now state n offers options catalog ∧
        report.ignored = Catalog.unknownNames options offers ∧
        ((explain config (Session.start catalog flow config.resolver).1).progress answer cancel
          limit (now + arrival (answer .components) config.network.busyRetryDelay.toNat state n)
          (stateAfter (answer .components) state (n + 1))).Yields report.session := by
  rw [yields_load_iff]
  constructor
  · -- The listing that was fetched was read, so it opens a session.
    rintro ⟨offers, t, s, houtcome, hseed⟩
    obtain ⟨n, hn, hfetched, rfl, rfl⟩ := outcome_fetchListing_eq_ok_iff.1 houtcome
    obtain ⟨catalog, hread, hexplain⟩ := yields_seed_iff.1 hseed
    obtain ⟨options, hoptions, hcatalog, hignored⟩ := Config.readListing_eq_ok_iff.1 hread
    exact ⟨n, hn, offers, options, catalog, ⟨hfetched, hoptions, hcatalog⟩, hignored, hexplain⟩
  · -- A listing that opens a session is fetched and read.
    rintro ⟨n, hn, offers, options, catalog, hopens, hignored, hexplain⟩
    refine ⟨offers, _, _, hopens.outcome_eq hn, yields_seed_iff.2 ⟨catalog, ?_, hexplain⟩⟩
    rw [hignored]
    exact hopens.readListing_eq

/-- Without a session that is not ready nothing but the listing is asked for. -/
theorem requests_load_of_not_waiting (h : ¬ ∃ n < limit, ∃ offers options catalog,
    Opens answer config cancel now state n offers options catalog ∧
    (Session.start catalog flow config.resolver).1.isReady = false) :
    requests ((load config flow).progress answer cancel limit now state).history =
      List.replicate (listingQuestions answer config cancel limit now state) .components := by
  by_cases hok : ∃ offers t s, ((fetchListing config).progress answer cancel limit now
      state).outcome = some (.ok offers, t, s)
  · -- The listing is there. Either it cannot be read, or the session that it opens is ready.
    obtain ⟨offers, t, s, houtcome⟩ := hok
    obtain ⟨n, hn, hfetched, -, -⟩ := outcome_fetchListing_eq_ok_iff.1 houtcome
    rw [requests_load_of_ok houtcome]
    cases hread : config.readListing offers with
    | error e => rw [requests_seed_of_error hread, List.append_nil]
    | ok p =>
      obtain ⟨catalog, ignored⟩ := p
      obtain ⟨options, hoptions, hcatalog, -⟩ := Config.readListing_eq_ok_iff.1 hread
      have hready : (Session.start catalog flow config.resolver).1.isReady = true := by
        by_contra hwaits
        exact h ⟨n, hn, offers, options, catalog, ⟨hfetched, hoptions, hcatalog⟩,
          Bool.eq_false_iff.2 hwaits⟩
      rw [requests_seed_of_ok hread, if_pos hready, List.append_nil]
  · -- Without the listing nothing else is asked for.
    exact requests_load_of_not_ok fun offers t s houtcome => hok ⟨offers, t, s, houtcome⟩

/-- First the listing is asked for, and then the mirrors, if it has opened a session that is not
ready. -/
theorem requests_load (answer : Responder σ) (config : Config) (flow : Flow) (cancel : Option Nat)
    (limit now : Nat) (state : σ) :
    ∃ i j, requests ((load config flow).progress answer cancel limit now state).history =
        List.replicate i .components ++ List.replicate j .mirrors ∧
      (0 < j ↔ ∃ n < limit, ∃ offers options catalog, i = n + 1 ∧
        Opens answer config cancel now state n offers options catalog ∧
        (Session.start catalog flow config.resolver).1.isReady = false) := by
  by_cases hwaits : ∃ n < limit, ∃ offers options catalog,
      Opens answer config cancel now state n offers options catalog ∧
      (Session.start catalog flow config.resolver).1.isReady = false
  · -- A session that is not ready has the mirrors asked for at least once.
    obtain ⟨n, hn, offers, options, catalog, hopens, hready⟩ := hwaits
    have hlisting : listingQuestions answer config cancel limit now state = n + 1 :=
      count_asked_of_fetches hopens.fetched hn
    have hmirrors : 0 < mirrorQuestions answer config cancel limit
        (now + arrival (answer .components) config.network.busyRetryDelay.toNat state n)
        (stateAfter (answer .components) state (n + 1)) :=
      List.count_pos_iff.2 (asked_mem_stepsWithin
        (isCancelled_eq_false_iff.2 hopens.fetched.lasts) (Nat.zero_lt_of_lt hn))
    refine ⟨_, _, ?_, iff_of_true hmirrors ⟨n, hn, offers, options, catalog, hlisting, hopens,
      hready⟩⟩
    rw [requests_load_of_ok (hopens.outcome_eq hn), requests_seed_of_ok hopens.readListing_eq,
      hready]
    rfl
  · -- Otherwise nothing is asked for after the listing.
    refine ⟨listingQuestions answer config cancel limit now state, 0, ?_,
      iff_of_false (Nat.lt_irrefl 0) ?_⟩
    · rw [List.replicate_zero, List.append_nil]
      exact requests_load_of_not_waiting hwaits
    · rintro ⟨n, hn, offers, options, catalog, -, hopens, hready⟩
      exact hwaits ⟨n, hn, offers, options, catalog, hopens, hready⟩

/-- Loading succeeds exactly if the listing is fetched, after any number of busy answers, the
options of the configuration are valid and make a catalog of it, and, if something that is required
has no artifact in the catalog, the report on the mirrors is fetched as well, each before any
cancellation; one at the very moment of an answer comes before it. The session is then the one that
begins with the catalog, with the findings of that report, or none if it is ready.

In every run, also in one that has not ended, the listing is asked for first, and the mirrors are
asked for exactly if the session that it opens is not ready. The completion is told exactly if
loading succeeds, once and last. -/
theorem load_outcome (answer : Responder σ) (config : Config) (flow : Flow) (cancel : Option Nat)
    (limit now : Nat) (state : σ) :
    let delay := config.network.busyRetryDelay.toNat
    let opens := Opens answer config cancel now state
    let explained := fun n => Fetches (answer .mirrors) delay cancel
      (now + arrival (answer .components) delay state n)
      (stateAfter (answer .components) state (n + 1))
    let first := fun catalog => (Session.start catalog flow config.resolver).1
    let run := fun limit => (load config flow).run answer cancel limit now state
    let history := ((load config flow).progress answer cancel limit now state).history
    let completed : Event := .completed "load_catalog" true
    (∀ report, (∃ e, run limit = some e ∧ e.result = .ok report) ↔
      ∃ n < limit, ∃ offers options catalog found, opens n offers options catalog ∧
        report = ⟨(first catalog).setFindings found, Catalog.unknownNames options offers⟩ ∧
        ((∀ c ∈ flow.required, catalog.artifacts c ≠ []) ∧ found = [] ∨
          (∃ c ∈ flow.required, catalog.artifacts c = []) ∧
            ∃ m < limit, ∃ mirrors, explained n m mirrors ∧
              found = findings config.mirrors mirrors)) ∧
    (∀ catalog, (first catalog).catalog = catalog ∧
      ((first catalog).isReady = true ↔ ∀ c ∈ flow.required, catalog.artifacts c ≠ [])) ∧
    (∃ i j, requests history = List.replicate i .components ++ List.replicate j .mirrors ∧
      (0 < j ↔ ∃ n < limit, ∃ offers options catalog, i = n + 1 ∧ opens n offers options catalog ∧
        (first catalog).isReady = false)) ∧
    (completed ∈ events history ↔ ∃ report e, run limit = some e ∧ e.result = .ok report) ∧
    (completed ∈ events history →
      ∃ earlier, events history = earlier ++ [completed] ∧ completed ∉ earlier) ∧
    (∀ e, run limit = some e → e.history = history) ∧
    ∀ limit' e, limit ≤ limit' → run limit' = some e → history <+: e.history := by
  intro delay opens explained first run history completed
  -- What the announcements and the catalog of the session are, for all clauses below.
  have hannounces : Progress.Announces "load_catalog"
      ((load config flow).progress answer cancel limit now state) := announces_load
  have hcatalog : ∀ catalog, (first catalog).catalog = catalog := fun catalog =>
    (Session.Settled.start catalog flow config.resolver).catalog_eq
  refine ⟨fun report => ?_, fun catalog => ⟨hcatalog catalog, Session.isReady_start_iff⟩,
    requests_load answer config flow cancel limit now state, ?_, hannounces.eq_append_of_mem,
    fun e => history_eq_of_run, fun limit' e hle he => ?_⟩
  · -- The result, by the session that the listing opens.
    rw [exists_run_iff, yields_load_iff_opens]
    constructor
    · rintro ⟨n, hn, offers, options, catalog, hopens, hignored, hexplain⟩
      obtain ⟨found, hsession, hfound⟩ := yields_explain_iff.1 hexplain
      rw [Session.isReady_start_iff, Session.isReady_start_eq_false_iff, Session.findings_start]
        at hfound
      refine ⟨n, hn, offers, options, catalog, found, hopens, ?_, hfound⟩
      exact congrArg₂ Report.mk hsession hignored
    · rintro ⟨n, hn, offers, options, catalog, found, hopens, rfl, hfound⟩
      refine ⟨n, hn, offers, options, catalog, hopens, rfl, yields_explain_iff.2 ⟨found, rfl, ?_⟩⟩
      rw [Session.isReady_start_iff, Session.isReady_start_eq_false_iff, Session.findings_start]
      exact hfound
  · -- The completion is announced exactly if there is a result.
    rw [hannounces.completed_mem_iff]
    exact exists_congr fun report => exists_run_iff.symm
  · -- A run with more questions goes on from this history.
    rw [history_eq_of_run he]
    exact history_progress_mono hle _

/-- A service that is busy at first and then has nothing to offer. -/
def emptyService : Script where
  components := [⟨.error (.network (.serviceBusy "components")), 5⟩, ⟨.ok [], 5⟩]
  mirrors := [⟨.ok ⟨0, []⟩, 5⟩]
  deployments := []
  delete := []
  connection := []

/-- Its listing is asked for twice, and then its mirrors, unless a cancellation comes while it is
busy. -/
example :
    (((load .standard .upgrade).run Script.responder none 2 0 emptyService).map fun e =>
      (requests e.history, e.result.toOption.map fun report => report.session.findings.length)) =
        some ([.components, .components, .mirrors], some 2) ∧
    (((load .standard .upgrade).run Script.responder (some 7) 2 0 emptyService).map fun e =>
      (requests e.history, e.result.toOption.isSome)) = some ([.components], false) := by
  decide +kernel

end Operation

end Rollout
