import Rollout.Http.Client
import Rollout.Http.Playback
import Rollout.Proofs.Json.Record
import Rollout.Proofs.Reading

/-!
# What the answers of the service mean

Every request reads its answer in the same way, up to the kind of data in it
(`Request.interpret_eq`). So one statement, `Request.Reflects`, says for all requests what a
response comes to, by its status first and then by the envelope in its body, and
`Client.responder_reflects` says that the client replies so to the response that ends the sending.

Which bodies have an envelope, and which one, is said by the fields of the JSON value
(`Envelope.IsIn`, `Envelope.ofJson?_eq_some_iff`): a field that is not there has its standard value,
which for the success is `false`, and data that is `null` is missing.
-/

namespace Rollout.Service

open Json Http

/-! ## Envelopes -/

namespace Envelope

variable {α : Type}

/-- The fields of an envelope. -/
def fields : List String :=
  ["success", "code", "msg", "data"]

/-- An envelope is what a record has in its fields, with the standard values of those that are not
there. -/
structure IsIn (read : Json → Option α) (j : Json) (e : Envelope α) : Prop where
  record : IsRecord fields j
  success : field? fields "success" j = none ∧ e.success = false ∨
    field? fields "success" j = some (.bool e.success)
  code : field? fields "code" j = none ∧ e.code = 0 ∨
    field? fields "code" j = some (.int e.code.toInt)
  message : field? fields "msg" j = none ∧ e.message = "" ∨
    field? fields "msg" j = some (.string e.message)
  /-- Data that is `null` is missing. -/
  missing : e.data = none → field? fields "data" j = none ∨ field? fields "data" j = some .null
  given : ∀ data, e.data = some data →
    ∃ x, field? fields "data" j = some x ∧ x ≠ .null ∧ read x = some data

/-- The data of an envelope, and its absence, as they are read. -/
theorem getD_asOption_eq_some_iff {read : Json → Option α} {slot : Slot} {data : Option α} :
    slot.getD (asOption read) none = some data ↔
      (data = none → slot.value? = none ∨ slot.value? = some .null) ∧
      ∀ d, data = some d → ∃ x, slot.value? = some x ∧ x ≠ .null ∧ read x = some d := by
  rw [Slot.getD_eq_some_iff]
  cases data with
  | none => simp [asOption_eq_some_none_iff]
  | some d => simp [asOption_eq_some_some_iff]

/-- An envelope is read from what there is for its four fields. -/
theorem ofJson?_of_slots? {read : Json → Option α} {j : Json} {e : Envelope α}
    {success code message data : Slot}
    (h : slots? fields j = some [success, code, message, data]) :
    Envelope.ofJson? read j = some e ↔
      success.getD asBool false = some e.success ∧ code.getD asInt64 0 = some e.code ∧
      message.getD asString "" = some e.message ∧ data.getD (asOption read) none = some e.data := by
  unfold fields at h
  unfold ofJson?
  rw [h]
  simp only [Option.bind_eq_bind, Option.bind_some, Option.bind_eq_some_iff]
  constructor
  · rintro ⟨s, hs, c, hc, m, hm, d, hd, heq⟩
    cases heq
    exact ⟨hs, hc, hm, hd⟩
  · rintro ⟨hs, hc, hm, hd⟩
    exact ⟨_, hs, _, hc, _, hm, _, hd, rfl⟩

/-- In a record there is something for each of the four fields. -/
theorem exists_slots {j : Json} (h : IsRecord fields j) :
    ∃ success code message data, slots? fields j = some [success, code, message, data] ∧
      success.value? = field? fields "success" j ∧ code.value? = field? fields "code" j ∧
      message.value? = field? fields "msg" j ∧ data.value? = field? fields "data" j := by
  obtain ⟨slots, hslots⟩ := exists_slots?_iff.2 h
  have hvalues : slots.map Slot.value? = [field? fields "success" j, field? fields "code" j,
      field? fields "msg" j, field? fields "data" j] :=
    map_value?_of_slots? (by decide) hslots
  -- There are four values, so there are four slots.
  rcases slots with _ | ⟨success, _ | ⟨code, _ | ⟨message, _ | ⟨data, _ | _⟩⟩⟩⟩ <;>
    simp only [List.map_cons, List.map_nil, List.cons.injEq, reduceCtorEq, and_false, and_true]
      at hvalues
  exact ⟨success, code, message, data, hslots, hvalues⟩

/-- An envelope is read from a record exactly if it is in the record. -/
theorem ofJson?_of_isRecord {read : Json → Option α} {j : Json} {e : Envelope α}
    (h : IsRecord fields j) : Envelope.ofJson? read j = some e ↔ e.IsIn read j := by
  obtain ⟨success, code, message, data, hslots, hs, hc, hm, hd⟩ := exists_slots h
  rw [ofJson?_of_slots? hslots, getD_asOption_eq_some_iff, Slot.getD_eq_some_iff,
    Slot.getD_eq_some_iff, Slot.getD_eq_some_iff, hs, hc, hm, hd]
  simp only [asBool_eq_some_iff, asInt64_eq_some_iff, asString_eq_some_iff, exists_eq_right]
  constructor
  · rintro ⟨hsuccess, hcode, hmessage, hmissing, hgiven⟩
    exact ⟨h, hsuccess, hcode, hmessage, hmissing, hgiven⟩
  · rintro ⟨-, hsuccess, hcode, hmessage, hmissing, hgiven⟩
    exact ⟨hsuccess, hcode, hmessage, hmissing, hgiven⟩

/-- An envelope is read from a value exactly if it is in the value. -/
theorem ofJson?_eq_some_iff {read : Json → Option α} {j : Json} {e : Envelope α} :
    Envelope.ofJson? read j = some e ↔ e.IsIn read j := by
  constructor
  · intro h
    obtain ⟨slots, hslots, -⟩ := Option.bind_eq_some_iff.1 h
    exact (ofJson?_of_isRecord (exists_slots?_iff.1 ⟨slots, hslots⟩)).1 h
  · intro h
    exact (ofJson?_of_isRecord h.record).2 h

end Envelope

/-! ## Replies -/

/-- A reply is busy exactly if its error says so. -/
theorem Reply.isBusy_iff {α : Type} {reply : Reply α} :
    reply.isBusy = true ↔ ∃ url, reply.result = .error (.network (.serviceBusy url)) := by
  unfold Reply.isBusy Service.isBusy Error.isBusy
  split
  · next e he =>
    rw [he]
    constructor
    · intro hbusy
      split at hbusy
      · next url => exact ⟨url, rfl⟩
      · contradiction
    · rintro ⟨url, hurl⟩
      cases hurl
      rfl
  · next a ha => simp [ha]

/-- Two ways to go on are the same if they agree on data and on its absence. -/
theorem bind_eq_of_data {α β : Type} (x : Except NetworkError (Option α))
    {f g : Option α → Except NetworkError β} (hnone : f none = g none)
    (hsome : ∀ data, f (some data) = g (some data)) : x.bind f = x.bind g := by
  match x with
  | .error e => rfl
  | .ok none => exact hnone
  | .ok (some data) => exact hsome data

end Rollout.Service

namespace Rollout.Http.Response

open Json Service

/-! ## The data in a response -/

/-- The envelope in the body, if there is one with data of this kind. -/
def envelope? {α : Type} (r : Response) (read : Json → Option α) : Option (Envelope α) :=
  (read? r.text).bind (Envelope.ofJson? read)

/-- What an unsuccessful answer says of itself: the message of its envelope, or its status if there
is none. -/
def IsReason (r : Response) (reason : String) : Prop :=
  (∃ e, r.envelope? (asBuffered 1) = some e ∧ e.message ≠ "" ∧ reason = e.message) ∨
    (∀ e, r.envelope? (asBuffered 1) = some e → e.message = "") ∧
      reason = Status.text r.status.toNat

/-- An unsuccessful answer is reported with what it says of itself. -/
theorem isReason_reason (r : Response) : r.IsReason r.reason := by
  unfold IsReason reason envelope?
  cases (read? r.text).bind (Envelope.ofJson? (asBuffered 1)) with
  | none => exact .inr ⟨fun e he => absurd he (by simp), rfl⟩
  | some e =>
    by_cases hempty : e.message = ""
    · refine .inr ⟨fun e' he' => ?_, if_pos hempty⟩
      cases he'
      exact hempty
    · exact .inl ⟨e, rfl, hempty, if_neg hempty⟩

section Data

variable {α : Type} {r : Response} {url : String} {read : Json → Option α}

/-- Of a busy service nothing else counts. -/
theorem data_of_busy (h : r.status = 503) : r.data url read = .error (.serviceBusy url) :=
  if_pos h

/-- Of a status that is no success only the reason counts. -/
theorem data_of_not_success (hbusy : r.status ≠ 503)
    (h : Status.isSuccess r.status.toNat = false) :
    r.data url read = .error (.httpStatus r.status r.reason) := by
  unfold data
  rw [if_neg hbusy, if_pos h]

/-- Where the status is a success, the envelope counts. -/
theorem data_of_success (h : Status.isSuccess r.status.toNat = true) :
    r.data url read = match r.envelope? read with
      | none => .error (.malformed url "the body is not an envelope with the expected data")
      | some e => if e.success then .ok e.data else .error (.rejected e.code e.message) := by
  have hbusy : r.status ≠ 503 := by
    intro hbusy
    rw [hbusy] at h
    contradiction
  have hsuccess : ¬ Status.isSuccess r.status.toNat = false := by simp [h]
  unfold data
  rw [if_neg hbusy, if_neg hsuccess]
  rfl

end Data

end Rollout.Http.Response

namespace Rollout.Service.Request

open Json Http

/-! ## The answer to a request -/

/-- The kind of data in the envelope of an answer. -/
abbrev Payload : Request → Type
  | components => Page Offer
  | mirrors => MirrorReport
  | deployments _ => Page Deployment
  | delete _ => Json
  | connection _ => Connection

/-- Reads the data in the envelope of an answer. -/
def readPayload : (request : Request) → Json → Option request.Payload
  | components => Page.ofJson? Offer.ofJson?
  | mirrors => MirrorReport.ofJson?
  | deployments _ => Page.ofJson? Deployment.ofJson?
  | delete _ => asBuffered 1
  | connection _ => Connection.ofJson?

/-- The answer that the data gives. -/
def answer : (request : Request) → request.Payload → request.Answer
  | components, page => page.items
  | mirrors, report => report
  | deployments _, page => page.items
  | delete _, _ => ()
  | connection _, c => c

/-- The answer without data, if there is one. -/
def emptyAnswer? : (request : Request) → Option request.Answer
  | components => some []
  | mirrors => some .empty
  | deployments _ => some []
  | delete _ => some ()
  | connection _ => none

/-- What the data of an answer, or its absence, comes to. -/
def accept (url : String) (request : Request) :
    Option request.Payload → Except NetworkError request.Answer
  | some data => .ok (request.answer data)
  | none =>
    match request.emptyAnswer? with
    | some a => .ok a
    | none => .error (.malformed url "response has no data")

/-- Every request reads an answer in the same way, up to its kind of data. -/
theorem interpret_eq (url : String) (request : Request) (r : Response) :
    request.interpret url r = (r.data url request.readPayload).bind (request.accept url) := by
  cases request with
  | components =>
    exact bind_eq_of_data (r.data url (Page.ofJson? Offer.ofJson?)) rfl fun _ => rfl
  | mirrors => exact bind_eq_of_data (r.data url MirrorReport.ofJson?) rfl fun _ => rfl
  | deployments status =>
    exact bind_eq_of_data (r.data url (Page.ofJson? Deployment.ofJson?)) rfl fun _ => rfl
  | delete name =>
    -- The data is dropped without a look, so that the two sides are compared result by result.
    show discard (r.data url (asBuffered 1)) = (r.data url (asBuffered 1)).bind _
    cases r.data url (asBuffered 1) with
    | error e => rfl
    | ok data => cases data <;> rfl
  | connection cluster =>
    exact bind_eq_of_data (r.data url Connection.ofJson?) rfl fun _ => rfl

section Interpret

variable (url : String) (request : Request) {r : Response}

/-- A busy service is an error of its own. -/
theorem interpret_of_busy (h : r.status = 503) :
    request.interpret url r = .error (.serviceBusy url) := by
  rw [interpret_eq, Response.data_of_busy h]
  rfl

/-- Any other status that is no success is an error with its reason. -/
theorem interpret_of_not_success (hbusy : r.status ≠ 503)
    (h : Status.isSuccess r.status.toNat = false) :
    request.interpret url r = .error (.httpStatus r.status r.reason) := by
  rw [interpret_eq, Response.data_of_not_success hbusy h]
  rfl

/-- A body without an envelope is an error. -/
theorem interpret_of_no_envelope (h : Status.isSuccess r.status.toNat = true)
    (hnone : r.envelope? request.readPayload = none) :
    request.interpret url r =
      .error (.malformed url "the body is not an envelope with the expected data") := by
  rw [interpret_eq, Response.data_of_success h, hnone]
  rfl

/-- An envelope tells of success or of an error. -/
theorem interpret_of_envelope (h : Status.isSuccess r.status.toNat = true)
    {e : Envelope request.Payload} (hsome : r.envelope? request.readPayload = some e) :
    request.interpret url r =
      if e.success then request.accept url e.data else .error (.rejected e.code e.message) := by
  rw [interpret_eq, Response.data_of_success h, hsome]
  dsimp only
  split <;> rfl

/-- Whatever becomes of the data, the service is not busy. -/
theorem accept_ne_busy (data : Option request.Payload) (url' : String) :
    request.accept url data ≠ .error (.serviceBusy url') := by
  unfold accept
  split
  · simp
  · split <;> simp

/-- No other status makes the service busy. -/
theorem interpret_ne_busy (hbusy : r.status ≠ 503) (url' : String) :
    request.interpret url r ≠ .error (.serviceBusy url') := by
  -- An answer says something else in each case: its reason, that it has no envelope, or what the
  -- envelope says.
  cases hstatus : Status.isSuccess r.status.toNat with
  | false =>
    rw [interpret_of_not_success url request hbusy hstatus]
    simp
  | true =>
    cases henvelope : r.envelope? request.readPayload with
    | none =>
      rw [interpret_of_no_envelope url request hstatus henvelope]
      simp
    | some e =>
      rw [interpret_of_envelope url request hstatus henvelope]
      split
      · exact accept_ne_busy url request e.data url'
      · simp

end Interpret

/-! ## The reply of the client -/

/-- What a reply must be by the response that ended the sending. -/
structure Reflects (request : Request) (url : String) (r : Response)
    (reply : Reply request.Answer) : Prop where
  /-- The service is busy exactly if the status says so, whatever the body is. -/
  busy : reply.isBusy = true ↔ r.status = 503
  /-- Any other status that is no success is reported with what the answer says of itself. -/
  failed : r.status ≠ 503 → Status.isSuccess r.status.toNat = false →
    ∃ reason, r.IsReason reason ∧ reply.result = .error (.network (.httpStatus r.status reason))
  /-- A body of another form is an error. -/
  malformed : Status.isSuccess r.status.toNat = true → r.envelope? request.readPayload = none →
    ∃ reason, reply.result = .error (.network (.malformed url reason))
  /-- Without success the data of an envelope does not count. -/
  rejected : Status.isSuccess r.status.toNat = true →
    ∀ e, r.envelope? request.readPayload = some e → e.success = false →
      reply.result = .error (.network (.rejected e.code e.message))
  /-- With success the data is the answer. -/
  given : Status.isSuccess r.status.toNat = true →
    ∀ e data, r.envelope? request.readPayload = some e → e.success = true → e.data = some data →
      reply.result = .ok (request.answer data)
  /-- Data that is missing is an empty answer, or an error if there is none. -/
  missing : Status.isSuccess r.status.toNat = true →
    ∀ e, r.envelope? request.readPayload = some e → e.success = true → e.data = none →
      (∀ a, request.emptyAnswer? = some a → reply.result = .ok a) ∧
      (request.emptyAnswer? = none →
        ∃ reason, reply.result = .error (.network (.malformed url reason)))

/-- A request is answered by what its last response means. -/
theorem reflects_of_result {request : Request} {url : String} {r : Response}
    {reply : Reply request.Answer}
    (h : reply.result = (request.interpret url r).mapError .network) :
    request.Reflects url r reply where
  busy := by
    constructor
    · intro hreply
      by_cases hbusy : r.status = 503
      · exact hbusy
      -- No error of another status is that of a busy service, of whatever address.
      obtain ⟨url', hresult⟩ := Reply.isBusy_iff.1 hreply
      rw [h, mapError_eq_error_iff] at hresult
      obtain ⟨cause, hcause, heq⟩ := hresult
      cases heq
      exact absurd hcause (interpret_ne_busy url request hbusy url')
    · intro hbusy
      refine Reply.isBusy_iff.2 ⟨url, ?_⟩
      rw [h, interpret_of_busy url request hbusy]
      rfl
  failed hbusy hstatus := by
    refine ⟨r.reason, r.isReason_reason, ?_⟩
    rw [h, interpret_of_not_success url request hbusy hstatus]
    rfl
  malformed hstatus hnone := by
    rw [h, interpret_of_no_envelope url request hstatus hnone]
    exact ⟨_, rfl⟩
  rejected hstatus e hsome hsuccess := by
    rw [h, interpret_of_envelope url request hstatus hsome, hsuccess]
    rfl
  given hstatus e data hsome hsuccess hdata := by
    rw [h, interpret_of_envelope url request hstatus hsome, hsuccess, hdata]
    rfl
  missing hstatus e hsome hsuccess hdata := by
    rw [h, interpret_of_envelope url request hstatus hsome, hsuccess, hdata]
    unfold accept
    refine ⟨fun a ha => ?_, fun hnone => ?_⟩
    · rw [ha]
      rfl
    · rw [hnone]
      exact ⟨_, rfl⟩

end Rollout.Service.Request

namespace Rollout.Http.Client

open Json Service

/-- Whatever transport carries a request, and however often, the response that ends the sending
decides what the client replies; and the envelope in it is what the JSON value in the body has in
its fields. -/
theorem responder_reflects {σ : Type} (client : Client) (transport : Transport σ)
    (request : Request) (state : σ) {r : Response}
    (h : (send (transport request (request.url client.base)) client.delay
      client.retries.toNat 0 state).outcome = .answered r) :
    request.Reflects (request.url client.base).text r
        (client.responder transport request state).1 ∧
      ∀ {α : Type} (read : Json → Option α) (e : Envelope α),
        r.envelope? read = some e ↔ ∃ j, read? r.text = some j ∧ e.IsIn read j := by
  constructor
  · -- The client interprets the response that ended the sending.
    refine Request.reflects_of_result ?_
    unfold responder
    dsimp only
    rw [h]
    rfl
  · intro α read e
    unfold Response.envelope?
    simp only [Option.bind_eq_some_iff, Envelope.ofJson?_eq_some_iff]

/-- After a first attempt that no answer came to, an envelope without data is no connection. -/
theorem responder_reflects_missing :
    let client : Client :=
      ⟨⟨"http", "", "", "127.0.0.1", some 8680, [[]], none, none⟩, 2, 500⟩
    let request := Request.connection "alpha"
    let url := request.url client.base
    let r : Response := ⟨200, "\x7b\"success\": true\x7d"⟩
    let playback : Playback :=
      ⟨false, [.silence, .response ⟨200, Text.Utf8.encode r.text.toList⟩], []⟩
    (send (Playback.transport request url) client.delay client.retries.toNat 0 playback).outcome =
        .answered r ∧
      ∃ reason, (client.responder Playback.transport request playback).1.result =
        .error (.network (.malformed url.text reason)) := by
  intro client request url r playback
  -- The first attempt is repeated, and the second brings the response.
  have hsent : (send (Playback.transport request url) client.delay client.retries.toNat 0
      playback).outcome = .answered r := by decide +kernel
  have henvelope : r.envelope? request.readPayload = some ⟨true, 0, "", none⟩ := by decide +kernel
  have hreflects := (responder_reflects client Playback.transport request playback hsent).1
  exact ⟨hsent, (hreflects.missing rfl _ henvelope rfl rfl).2 rfl⟩

end Rollout.Http.Client
