import Hiring.Http.Api
import Hiring.Proofs.Http.Addresses
import Hiring.Proofs.Office.Applications
import Hiring.Proofs.Office.Listings
import Hiring.Proofs.Office.StoredScreening

/-!
# Responses and what is stored

The response to an application, to a rescreening, or to a change of the stage is put together from
a receipt, a verdict or a record that was at hand while the request was handled.  None of these is
read back from the storage, and one value stands under several names: a verdict has its status as
`new_status`, the record as `auto_screening_status`.  That they agree is seen by asking again: what
a response says is what the next request is shown of the applicant.

* `Api.respond`, `Api.run` — requests that are answered one at a time, and what they leave.
* `Api.reachable_respond` — requests over the network do nothing that the office does not do.
* `Api.Shows` — an application is shown by itself and once among those for its job;
  `Api.shows_of_stored` says that every stored one is.
* `ReceiptAgrees`, `RescreeningAgrees`, `StatusAgrees` — a response against what is shown.
* `Api.responses_agree` — **what a response says is what is shown afterwards**.
-/

set_option autoImplicit false

namespace Hiring

/-- A field of one document is also in another one, perhaps under another name. -/
def Json.SameField (j : Json) (name : String) (shown : Json) (name' : String) : Prop :=
  ∃ value, j.field? name = some value ∧ shown.field? name' = some value

namespace Http

/-- The request was fulfilled. -/
def Response.isSuccess (r : Response) : Bool := 200 ≤ r.status && r.status < 300

/-- The request has the method and an address with the identifier in it. -/
def Request.Asks (r : Request) (method : String) (route : String → Route) (id : String) : Prop :=
  r.method = method ∧
    ∃ raw, Route.ofTarget? r.target = some (route raw) ∧ Text.percentDecode? raw = some id

/-- A request to look at what is at an address. -/
def Request.get (target : String) : Request := ⟨"GET", target, none, ""⟩

theorem asks_get {target : String} {route : String → Route} {id : String} (plain : IsPlain id)
    (h : Route.ofTarget? target = some (route id)) : (Request.get target).Asks "GET" route id :=
  ⟨rfl, id, h, Text.percentDecode?_of_not_mem plain.noEscape⟩

namespace Api

/-- A request answered at a time, without others in between: the response, and the storage after
it. -/
def respond (api : Api) (time : Timestamp) (r : Request) (s : Store) : Response × Store :=
  Store.run time (api.handle r) s

/-- The storage after requests that were answered one after the other, each at its time. -/
def run (api : Api) (requests : List (Timestamp × Request)) (s : Store) : Store :=
  requests.foldl (fun s r => (api.respond r.1 r.2 s).2) s

variable {api : Api} {time : Timestamp} {s s' : Store} {r : Request} {response : Response}

/-! ## Scripts of requests -/

section Scripts

variable {α : Type} {operation : Operation α} {answer : α → Response}
  {read : Except Response α} {next : α → Script Response}

theorem run_serve_of_ok {a : α} (h : operation.perform time s = (.ok a, s')) :
    Store.run time (serve operation answer) s = (answer a, s') := by
  have hrun : operation.run.runWith (Store.answer time) s = (.ok a, s') := h
  rw [Store.run, serve, Script.runWith_bind, hrun]
  rfl

theorem run_serve_of_error {e : OfficeError} (h : operation.perform time s = (.error e, s')) :
    Store.run time (serve operation answer) s = (errorResponse e, s') := by
  have hrun : operation.run.runWith (Store.answer time) s = (.error e, s') := h
  rw [Store.run, serve, Script.runWith_bind, hrun]
  rfl

/-- An operation leaves the same storage whether or not it is asked for over the network. -/
theorem run_serve_snd :
    (Store.run time (serve operation answer) s).2 = (operation.perform time s).2 := by
  cases h : operation.perform time s with
  | mk result s' =>
    cases result with
    | ok a => rw [run_serve_of_ok h]
    | error e => rw [run_serve_of_error h]

theorem isSuccess_errorResponse (e : OfficeError) : (errorResponse e).isSuccess = false := by
  cases e with
  | storage e => cases e <;> rfl
  | invalid e => rfl
  | jobNotFound id => rfl
  | applicantNotFound id => rfl

/-- A request was fulfilled only if its operation gave a result, and then it is answered with it. -/
theorem exists_of_serve (answered : Store.run time (serve operation answer) s = (response, s'))
    (success : response.isSuccess = true) :
    ∃ a, operation.perform time s = (.ok a, s') ∧ response = answer a := by
  cases h : operation.perform time s with
  | mk result s'' =>
    cases result with
    | ok a =>
      rw [run_serve_of_ok h] at answered
      cases answered
      exact ⟨a, rfl, rfl⟩
    | error e =>
      rw [run_serve_of_error h] at answered
      cases answered
      rw [isSuccess_errorResponse] at success
      cases success

/-- A request was fulfilled only if it could be read. -/
theorem exists_of_reading (refused : ∀ e, read = .error e → e.isSuccess = false)
    (answered : Store.run time (reading read next) s = (response, s'))
    (success : response.isSuccess = true) :
    ∃ a, read = .ok a ∧ Store.run time (next a) s = (response, s') := by
  cases h : read with
  | ok a =>
    rw [h] at answered
    exact ⟨a, rfl, answered⟩
  | error e =>
    rw [h] at answered
    cases answered
    rw [refused _ h] at success
    cases success

/-- What all requests leave that can be read, every request leaves. -/
theorem run_reading_snd {P : Store → Prop} (start : P s)
    (h : ∀ a, P (Store.run time (next a) s).2) : P (Store.run time (reading read next) s).2 := by
  cases read with
  | ok a => exact h a
  | error e => exact start

theorem isSuccess_readId {raw : String} {e : Response} (h : readId raw = .error e) :
    e.isSuccess = false := by
  rw [readId] at h
  split at h
  · cases h
  · cases h
    rfl

theorem isSuccess_readBody {decode : Json.Decoder α} {e : Response}
    (h : readBody decode r = .error e) : e.isSuccess = false := by
  rw [readBody] at h
  split at h
  · rw [boundedBody] at h
    split at h
    · change (decode.ofPrefix r.body).mapError faultResponse = .error e at h
      cases hread : decode.ofPrefix r.body with
      | ok a =>
        rw [hread] at h
        cases h
      | error fault =>
        rw [hread] at h
        cases h
        rw [faultResponse]
        split <;> rfl
    · cases h
      rfl
  · cases h
    rfl

theorem readId_eq_ok_iff {raw id : String} :
    readId raw = .ok id ↔ Text.percentDecode? raw = some id := by
  rw [readId]
  split <;> simp [*]

end Scripts

/-! ## Requests over the network -/

/-- At a known address a request is answered as its method says. -/
theorem respond_of_endpoint {method : String} {route : Route} {endpoint : Endpoint}
    (hmethod : r.method = method) (hroute : Route.ofTarget? r.target = some route)
    (hendpoint : route.endpoint? method = some endpoint) (hhead : method ≠ "HEAD") :
    api.respond time r s = Store.run time (api.answer endpoint r) s := by
  subst hmethod
  rw [respond, handle, hroute]
  simp only [hendpoint, if_neg hhead]
  rw [Store.run, Script.runWith_bind]
  rfl

/-- **Requests over the network do nothing that the office does not do.** -/
theorem reachable_answer (reached : api.office.Reachable s) (endpoint : Endpoint) :
    api.office.Reachable (Store.run time (api.answer endpoint r) s).2 := by
  cases endpoint with
  | listJobs =>
    rw [answer, run_serve_snd]
    exact reached.handle time .jobs
  | createJob =>
    refine run_reading_snd reached fun draft => ?_
    rw [run_serve_snd]
    exact reached.handle time (.createJob draft)
  | showJob raw =>
    refine run_reading_snd reached fun id => ?_
    rw [run_serve_snd]
    exact reached.handle time (.job id)
  | listApplicants raw =>
    refine run_reading_snd reached fun id => ?_
    rw [run_serve_snd]
    exact reached.handle time (.applicantsFor id)
  | tryScreening raw =>
    refine run_reading_snd reached fun id => run_reading_snd reached fun trial => ?_
    rw [run_serve_snd]
    exact reached.handle time (.tryScreening id trial)
  | apply =>
    refine run_reading_snd reached fun sub => ?_
    rw [run_serve_snd]
    exact reached.handle time (.apply sub)
  | showApplicant raw =>
    refine run_reading_snd reached fun id => ?_
    rw [run_serve_snd]
    exact reached.handle time (.applicant id)
  | rescreen raw =>
    refine run_reading_snd reached fun id => ?_
    rw [run_serve_snd]
    exact reached.handle time (.rescreen id)
  | moveTo raw =>
    refine run_reading_snd reached fun id => run_reading_snd reached fun stage => ?_
    rw [run_serve_snd]
    exact reached.handle time (.moveTo id stage)
  | screen => exact run_reading_snd reached fun _ => reached
  | health => exact reached
  | ready => exact reached
  | metrics => exact reached

theorem reachable_respond (reached : api.office.Reachable s) (time : Timestamp) (r : Request) :
    api.office.Reachable (api.respond time r s).2 := by
  rw [respond, handle]
  split
  · exact reached
  · split
    · exact reached
    · next endpoint _ =>
      rw [Store.run, Script.runWith_bind]
      exact reachable_answer reached endpoint

/-- Whatever requests came, the storage is one that the office can reach. -/
theorem reachable_run (reached : api.office.Reachable s)
    (requests : List (Timestamp × Request)) : api.office.Reachable (api.run requests s) := by
  induction requests generalizing s with
  | nil => exact reached
  | cons request rest ih => exact ih (reachable_respond reached request.1 request.2)

/-! ## What is shown -/

/-- An application is shown as it is stored, by itself and once among those for its job. -/
structure Shows (api : Api) (s : Store) (a : Applicant) : Prop where
  stored : s.applicants.get? a.id = some a
  /-- There are requests that ask for the application and for those for its job. -/
  asked : (Request.get (applicantAddress a.id)).Asks "GET" .application a.id ∧
    (Request.get (applicantsAddress a.jobId)).Asks "GET" .jobApplicants a.jobId
  alone : ∀ time g, g.Asks "GET" .application a.id →
    api.respond time g s = (.ofJson 200 a.toJson, s)
  listed : ∀ time g, g.Asks "GET" .jobApplicants a.jobId → ∃ before after : List Applicant,
    api.respond time g s =
      (.ofJson 200 (.array ((before ++ a :: after).map Applicant.toJson)), s) ∧
    ∀ b ∈ before ++ after, b.id ≠ a.id

theorem respond_applicant {a : Applicant} (stored : s.applicants.get? a.id = some a)
    (asks : r.Asks "GET" .application a.id) :
    api.respond time r s = (.ofJson 200 a.toJson, s) := by
  obtain ⟨hmethod, raw, hroute, hraw⟩ := asks
  have hperform : (Office.applicant a.id).perform time s = (.ok a, s) := by
    rw [Office.perform_applicant, stored]
  rw [respond_of_endpoint hmethod hroute rfl (by decide), answer, readId_eq_ok_iff.2 hraw]
  exact run_serve_of_ok hperform

theorem respond_applicantsFor {id : JobId} {job : JobPosting}
    (stored : s.jobs.get? id = some job) (asks : r.Asks "GET" .jobApplicants id) :
    api.respond time r s =
      (.ofJson 200 (.array ((Office.listedApplicants s id).map Applicant.toJson)), s) := by
  obtain ⟨hmethod, raw, hroute, hraw⟩ := asks
  have hperform : (Office.applicantsFor id).perform time s =
      (.ok (Office.listedApplicants s id), s) := by
    rw [Office.perform_applicantsFor, stored]
    rfl
  rw [respond_of_endpoint hmethod hroute rfl (by decide), answer, readId_eq_ok_iff.2 hraw]
  exact run_serve_of_ok hperform

/-- An application is once in the list for its job. -/
theorem exists_listed (consistent : s.Consistent) {a : Applicant}
    (stored : s.applicants.get? a.id = some a) :
    ∃ before after, Office.listedApplicants s a.jobId = before ++ a :: after ∧
      ∀ b ∈ before ++ after, b.id ≠ a.id := by
  have hperm : (Office.listedApplicants s a.jobId).Perm
      (s.applicants.values.filter (·.jobId == a.jobId)) := List.mergeSort_perm _ _
  have hmem : a ∈ Office.listedApplicants s a.jobId :=
    hperm.mem_iff.2
      (List.mem_filter.2 ⟨Keyed.mem_values_of_get? stored, beq_self_eq_true a.jobId⟩)
  obtain ⟨before, after, hlist⟩ := List.append_of_mem hmem
  have hnodup : ((before ++ a :: after).map (·.id)).Nodup := by
    rw [← hlist, (hperm.map _).nodup_iff]
    exact consistent.nodup_applicants.sublist (List.filter_sublist.map _)
  refine ⟨before, after, hlist, fun b hb heq => ?_⟩
  rw [(List.perm_middle.map _).nodup_iff, List.map_cons, List.nodup_cons] at hnodup
  exact hnodup.1 (List.mem_map.2 ⟨b, hb, heq⟩)

/-- **Every stored application is shown.** -/
theorem shows_of_stored (reached : api.office.Reachable s) {a : Applicant}
    (stored : s.applicants.get? a.id = some a) : api.Shows s a := by
  obtain ⟨job, hjob⟩ := reached.consistent.job_stored stored
  have hid : IsPlain a.id := reached.isPlain (k := .applicants)
    (Keyed.mem_keys_iff.2 (Keyed.contains_of_get? stored))
  have hjobId : IsPlain a.jobId := reached.isPlain (k := .jobs)
    (Keyed.mem_keys_iff.2 (Keyed.contains_of_get? hjob))
  refine ⟨stored, ⟨asks_get hid (Route.ofTarget?_application hid),
    asks_get hjobId (Route.ofTarget?_jobApplicants hjobId)⟩,
    fun time g asks => respond_applicant stored asks, fun time g asks => ?_⟩
  obtain ⟨before, after, hlist, hothers⟩ := exists_listed reached.consistent stored
  refine ⟨before, after, ?_, hothers⟩
  rw [respond_applicantsFor hjob asks, hlist]

end Api

/-! ## Responses against what is shown -/

/-- The response to an application says what is shown: no result of a screening exactly if there is
none, and otherwise its status and its log. -/
structure ReceiptAgrees (j shown : Json) : Prop where
  id : j.SameField "applicant_id" shown "id"
  stage : j.SameField "applicant_status" shown "status"
  autoScreening : j.SameField "auto_screening_status" shown "auto_screening_status"
  unscreened : j.field? "screening_result" = some .null ↔
    shown.field? "auto_screening_status" = some (.string "Belum Diproses")
  screened : shown.field? "auto_screening_status" ≠ some (.string "Belum Diproses") →
    ∃ result, j.field? "screening_result" = some result ∧
      result.SameField "status" shown "auto_screening_status" ∧
      result.SameField "log" shown "auto_screening_log"

/-- The response to a rescreening says what is shown. -/
structure RescreeningAgrees (j shown : Json) : Prop where
  autoScreening : j.SameField "new_status" shown "auto_screening_status"
  stage : j.SameField "applicant_status" shown "status"
  log : j.SameField "log" shown "auto_screening_log"

/-- The response to a change of the stage says what is shown. -/
structure StatusAgrees (j shown : Json) : Prop where
  id : j.SameField "applicant_id" shown "id"
  jobId : j.SameField "job_id" shown "job_id"
  stage : j.SameField "status" shown "status"
  autoScreening : j.SameField "auto_screening_status" shown "auto_screening_status"

/-- Only an application that was not screened is shown as one. -/
theorem toJson_eq_pending_iff {state : AutoScreening} :
    some state.toJson = some (.string "Belum Diproses") ↔ state = .pending := by
  cases state <;> simp [AutoScreening.toJson, AutoScreening.label]

theorem receipt_agrees {receipt : Receipt}
    (h : (receipt.verdict = none ∧ receipt.applicant.Unscreened) ∨
      ∃ v, receipt.verdict = some v ∧ receipt.applicant.Carries v) :
    ∃ j, Api.receiptResponse receipt = .ofJson 201 j ∧
      ReceiptAgrees j receipt.applicant.toJson := by
  refine ⟨_, rfl, ⟨_, rfl, rfl⟩, ⟨_, rfl, rfl⟩, ⟨_, rfl, rfl⟩, ?_, fun hscreened => ?_⟩
  · change some (Json.ofOption Verdict.toJson receipt.verdict) = some .null ↔
      some receipt.applicant.autoScreening.toJson = _
    rw [toJson_eq_pending_iff]
    rcases h with ⟨hnone, hpending, -⟩ | ⟨v, hv, -, hstatus⟩
    · rw [hnone, hpending]
      simp [Json.ofOption]
    · rw [hv, hstatus]
      cases v.status <;> simp [Json.ofOption, Verdict.toJson, AutoScreening.ofStatus]
  · change some receipt.applicant.autoScreening.toJson ≠ _ at hscreened
    rw [Ne, toJson_eq_pending_iff] at hscreened
    rcases h with ⟨-, hpending, -⟩ | ⟨v, hv, hlog, hstatus⟩
    · exact absurd hpending hscreened
    · have hresult : Json.ofOption Verdict.toJson receipt.verdict = v.toJson := by
        rw [hv]
        rfl
      refine ⟨v.toJson, congrArg some hresult, ⟨_, rfl, ?_⟩, ⟨_, rfl, ?_⟩⟩
      · change some receipt.applicant.autoScreening.toJson = _
        rw [hstatus, AutoScreening.toJson, AutoScreening.label_ofStatus]
      · change some (Json.ofOption Log.toJson receipt.applicant.log) = _
        rw [hlog]
        rfl

theorem rescreening_agrees {a : Applicant} {v : Verdict} (h : a.Carries v) :
    ∃ j, Api.rescreeningResponse ⟨a, v⟩ = .ofJson 200 j ∧ RescreeningAgrees j a.toJson := by
  obtain ⟨hlog, hstatus⟩ := h
  refine ⟨_, rfl, ⟨_, rfl, ?_⟩, ⟨_, rfl, rfl⟩, ⟨_, rfl, ?_⟩⟩
  · change some a.autoScreening.toJson = _
    rw [hstatus, AutoScreening.toJson, AutoScreening.label_ofStatus]
  · change some (Json.ofOption Log.toJson a.log) = _
    rw [hlog]
    rfl

theorem status_agrees (a : Applicant) : StatusAgrees a.statusView.toJson a.toJson :=
  ⟨⟨_, rfl, rfl⟩, ⟨_, rfl, rfl⟩, ⟨_, rfl, rfl⟩, ⟨_, rfl, rfl⟩⟩

/-! ## Requests that succeed -/

end Http

namespace Office

variable {o : Office} {time : Timestamp} {s s' : Store} {id : ApplicantId}

/-- With a verdict an application carries it. -/
theorem carries_withVerdict (a : Applicant) (v : Verdict) : (withVerdict a v).Carries v :=
  ⟨rfl, rfl⟩

/-- What comes of a rescreening that succeeds. -/
theorem rescreen_ok (consistent : s.Consistent) {rescreening : Rescreening}
    (h : (o.rescreen id).perform time s = (.ok rescreening, s')) :
    ∃ a job, s.applicants.get? id = some a ∧
      rescreening = ⟨withVerdict a (o.verdictOn job a), o.verdictOn job a⟩ ∧
      s.put rescreening.applicant = s' := by
  cases ha : s.applicants.get? id with
  | none =>
    rw [perform_rescreen, ha] at h
    cases h
  | some a =>
    obtain ⟨job, hj⟩ := consistent.job_stored ha
    rw [rescreen_returns consistent ha hj] at h
    cases h
    exact ⟨a, job, rfl, rfl, rfl⟩

/-- What comes of a change of the stage that succeeds. -/
theorem moveTo_ok (consistent : s.Consistent) {stage : Stage} {after : Applicant}
    (h : (moveTo id stage).perform time s = (.ok after, s')) :
    ∃ a, s.applicants.get? id = some a ∧ { a with stage } = after ∧ s.put after = s' := by
  cases ha : s.applicants.get? id with
  | none =>
    rw [perform_moveTo, ha] at h
    cases h
  | some a =>
    rw [moveTo_returns consistent ha] at h
    cases h
    exact ⟨a, rfl, rfl, rfl⟩

end Office

namespace Http

namespace Api

variable {api : Api} {time : Timestamp} {s s' : Store} {r : Request} {response : Response}

/-- At a known address the endpoint of the method gave the response, and the storage after it can be
reached. -/
theorem answered_by {method : String} {route : Route} {endpoint : Endpoint}
    (reached : api.office.Reachable s) (answered : api.respond time r s = (response, s'))
    (hmethod : r.method = method) (hroute : Route.ofTarget? r.target = some route)
    (hendpoint : route.endpoint? method = some endpoint) (hhead : method ≠ "HEAD") :
    Store.run time (api.answer endpoint r) s = (response, s') ∧ api.office.Reachable s' := by
  have reached' := reachable_respond reached time r
  rw [answered] at reached'
  exact ⟨respond_of_endpoint hmethod hroute hendpoint hhead ▸ answered, reached'⟩

/-- An application that was taken in. -/
theorem applied (reached : api.office.Reachable s)
    (answered : api.respond time r s = (response, s')) (success : response.isSuccess = true)
    (hmethod : r.method = "POST") (hroute : Route.ofTarget? r.target = some .applications) :
    ∃ (a : Applicant) (j : Json), response = .ofJson 201 j ∧ api.Shows s' a ∧
      ReceiptAgrees j a.toJson := by
  obtain ⟨hanswer, reached'⟩ := answered_by reached answered hmethod hroute rfl (by decide)
  obtain ⟨sub, -, hserve⟩ := exists_of_reading (fun _ => isSuccess_readBody) hanswer success
  obtain ⟨receipt, hperform, rfl⟩ := exists_of_serve hserve success
  obtain ⟨job, -, hverdict, henrolled, hstored⟩ :=
    Office.apply_ok (congrArg Prod.fst hperform)
  rw [hperform] at hstored
  change s' = _ at hstored
  have hscreening : (receipt.verdict = none ∧ receipt.applicant.Unscreened) ∨
      ∃ v, receipt.verdict = some v ∧ receipt.applicant.Carries v := by
    rw [hverdict, henrolled]
    cases api.office.firstVerdict job sub with
    | none => exact .inl ⟨rfl, rfl, rfl⟩
    | some v => exact .inr ⟨v, rfl, rfl, rfl⟩
  obtain ⟨j, hj, hagrees⟩ := receipt_agrees hscreening
  refine ⟨receipt.applicant, j, hj, shows_of_stored reached' ?_, hagrees⟩
  rw [hstored]
  exact Store.get?_put_self

/-- An application that was screened again. -/
theorem rescreened {raw : String} (reached : api.office.Reachable s)
    (answered : api.respond time r s = (response, s')) (success : response.isSuccess = true)
    (hmethod : r.method = "POST") (hroute : Route.ofTarget? r.target = some (.rescreening raw)) :
    ∃ (a : Applicant) (j : Json), Text.percentDecode? raw = some a.id ∧
      response = .ofJson 200 j ∧ api.Shows s' a ∧ RescreeningAgrees j a.toJson := by
  obtain ⟨hanswer, reached'⟩ := answered_by reached answered hmethod hroute rfl (by decide)
  obtain ⟨id, hid, hserve⟩ := exists_of_reading (fun _ => isSuccess_readId) hanswer success
  obtain ⟨rescreening, hperform, rfl⟩ := exists_of_serve hserve success
  obtain ⟨before, job, hbefore, rfl, rfl⟩ := Office.rescreen_ok reached.consistent hperform
  obtain ⟨j, hj, hagrees⟩ := rescreening_agrees
    (Office.carries_withVerdict before (api.office.verdictOn job before))
  have hsame : before.id = id := reached.consistent.applicant_id hbefore
  rw [← hsame] at hid
  exact ⟨Office.withVerdict before (api.office.verdictOn job before), j, readId_eq_ok_iff.1 hid, hj,
    shows_of_stored reached' Store.get?_put_self, hagrees⟩

/-- An application that was put into a stage. -/
theorem moved {raw : String} (reached : api.office.Reachable s)
    (answered : api.respond time r s = (response, s')) (success : response.isSuccess = true)
    (hmethod : r.method = "PUT") (hroute : Route.ofTarget? r.target = some (.stage raw)) :
    ∃ (before : Applicant) (stage : Stage) (j : Json), Text.percentDecode? raw = some before.id ∧
      s.applicants.get? before.id = some before ∧ readBody stageDecoder r = .ok stage ∧
      response = .ofJson 200 j ∧ api.Shows s' { before with stage } ∧
      StatusAgrees j { before with stage }.toJson := by
  obtain ⟨hanswer, reached'⟩ := answered_by reached answered hmethod hroute rfl (by decide)
  obtain ⟨id, hid, hread⟩ := exists_of_reading (fun _ => isSuccess_readId) hanswer success
  obtain ⟨stage, hstage, hserve⟩ := exists_of_reading (fun _ => isSuccess_readBody) hread success
  obtain ⟨after, hperform, rfl⟩ := exists_of_serve hserve success
  obtain ⟨before, hbefore, rfl, rfl⟩ := Office.moveTo_ok reached.consistent hperform
  have hsame : before.id = id := reached.consistent.applicant_id hbefore
  rw [← hsame] at hid hbefore
  exact ⟨before, stage, _, readId_eq_ok_iff.1 hid, hbefore, hstage, rfl,
    shows_of_stored reached' Store.get?_put_self, status_agrees _⟩

/-- **What a response says is what is shown afterwards.**  Let a request be answered with success
while the storage is one that can be reached.  If it handed in an application, the response says of
the application what is shown of it right afterwards: its identifier, its stage and the state of its
screening, no result of a screening exactly if it was not screened, and else the status and the log
that are shown.  If it asked for a rescreening, the response says the status, the stage and the log
that are shown of the applicant in the address.  If it asked for a stage, the record in the address
has that stage and is otherwise as it was, and the response says so.  In each case the record is
shown by itself and exactly once among the applicants for its job. -/
theorem responses_agree (api : Api) (s : Store) (reached : api.office.Reachable s)
    (time : Timestamp) (r : Request) (response : Response) (s' : Store)
    (answered : api.respond time r s = (response, s')) (success : response.isSuccess = true) :
    (r.method = "POST" → Route.ofTarget? r.target = some .applications →
      ∃ (a : Applicant) (j : Json), response = .ofJson 201 j ∧ api.Shows s' a ∧
        ReceiptAgrees j a.toJson) ∧
    (∀ raw, r.method = "POST" → Route.ofTarget? r.target = some (.rescreening raw) →
      ∃ (a : Applicant) (j : Json), Text.percentDecode? raw = some a.id ∧
        response = .ofJson 200 j ∧ api.Shows s' a ∧ RescreeningAgrees j a.toJson) ∧
    ∀ raw, r.method = "PUT" → Route.ofTarget? r.target = some (.stage raw) →
      ∃ (before : Applicant) (stage : Stage) (j : Json),
        Text.percentDecode? raw = some before.id ∧
        s.applicants.get? before.id = some before ∧ readBody stageDecoder r = .ok stage ∧
        response = .ofJson 200 j ∧ api.Shows s' { before with stage } ∧
        StatusAgrees j { before with stage }.toJson :=
  ⟨applied reached answered success, fun _ => rescreened reached answered success,
    fun _ => moved reached answered success⟩

/-- The office where nothing is configured. -/
def standard : Api := ⟨⟨Screener.standard⟩, true⟩

/-- A position is opened that asks for a number. -/
def openPosition : Request where
  method := "POST"
  target := "/api/v1/jobs"
  contentType := some "application/json"
  body := "\x7b\"title\":\"Staf\",\"custom_fields\":[\x7b\"label\":\"gaji\",\"type\":\"number\",\"criteria\":\">=3\"\x7d]\x7d"

/-- An application for it with another number. -/
def handIn : Request where
  method := "POST"
  target := "/api/v1/applications"
  contentType := some "application/json"
  body := "\x7b\"job_id\":\"job-000001\",\"name\":\"Ani\",\"email\":\"ani@example.id\",\"custom_answers\":\x7b\"gaji\":2\x7d\x7d"

/-- The first application is screened again. -/
def rescreenFirst : Request where
  method := "POST"
  target := "/api/v1/applications/applicant-000001/rescreen"
  contentType := none
  body := ""

/-- The first applicant is hired. -/
def hireFirst : Request where
  method := "PUT"
  target := "/api/v1/applications/applicant%2D000001/status"
  contentType := some "application/json"
  body := "\x7b\"status\":\"Hired\"\x7d"

/-- After one application was handed in: a second one, the first one screened again, and the first
applicant hired although the application was rejected. -/
theorem responses_agree_hired :
    ∃ s, s = standard.run [(⟨2024, 5, 1, 8, 0, 0, 0⟩, openPosition),
        (⟨2024, 5, 2, 8, 0, 0, 0⟩, handIn)] (.emptyAt 1 1) ∧
      (∃ a j s', standard.respond ⟨2024, 5, 3, 8, 0, 0, 0⟩ handIn s = (.ofJson 201 j, s') ∧
        standard.Shows s' a ∧ ReceiptAgrees j a.toJson) ∧
      (∃ a j s', standard.respond ⟨2024, 5, 3, 8, 0, 0, 0⟩ rescreenFirst s = (.ofJson 200 j, s') ∧
        a.id = "applicant-000001" ∧ standard.Shows s' a ∧ RescreeningAgrees j a.toJson) ∧
      ∃ a j s', standard.respond ⟨2024, 5, 3, 8, 0, 0, 0⟩ hireFirst s = (.ofJson 200 j, s') ∧
        a.id = "applicant-000001" ∧ a.stage = .hired ∧ a.autoScreening = .tidakLolos ∧
        standard.Shows s' a ∧ StatusAgrees j a.toJson := by
  obtain ⟨s, hs⟩ : ∃ s, s = standard.run [(⟨2024, 5, 1, 8, 0, 0, 0⟩, openPosition),
      (⟨2024, 5, 2, 8, 0, 0, 0⟩, handIn)] (.emptyAt 1 1) := ⟨_, rfl⟩
  have hreached : standard.office.Reachable s := by
    rw [hs]
    exact reachable_run ⟨[], 1, 1, rfl⟩ _
  obtain ⟨happly, hrescreen, hhire, hentries⟩ :
      (standard.respond ⟨2024, 5, 3, 8, 0, 0, 0⟩ handIn s).1.isSuccess = true ∧
      (standard.respond ⟨2024, 5, 3, 8, 0, 0, 0⟩ rescreenFirst s).1.isSuccess = true ∧
      (standard.respond ⟨2024, 5, 3, 8, 0, 0, 0⟩ hireFirst s).1.isSuccess = true ∧
      s.applicants.values.map (fun a => (a.id, a.autoScreening)) =
        [("applicant-000001", .tidakLolos)] := by
    rw [hs]
    decide +kernel
  have hstage : (readBody stageDecoder hireFirst).toOption = some .hired := by decide +kernel
  have hagree (r : Request) (success : (standard.respond ⟨2024, 5, 3, 8, 0, 0, 0⟩ r s).1.isSuccess =
      true) := responses_agree standard s hreached ⟨2024, 5, 3, 8, 0, 0, 0⟩ r _ _ (Prod.eta _).symm
    success
  refine ⟨s, hs, ?_, ?_, ?_⟩
  · obtain ⟨a, j, hj, hshows, hagrees⟩ := (hagree handIn happly).1 rfl (by decide +kernel)
    exact ⟨a, j, _, Prod.ext hj rfl, hshows, hagrees⟩
  · obtain ⟨a, j, ha, hj, hshows, hagrees⟩ := (hagree rescreenFirst hrescreen).2.1
      "applicant-000001" rfl (by decide +kernel)
    rw [Text.percentDecode?_of_not_mem (by decide +kernel), Option.some.injEq] at ha
    exact ⟨a, j, _, Prod.ext hj rfl, ha.symm, hshows, hagrees⟩
  · obtain ⟨a, stage, j, -, hstored, hread, hj, hshows, hagrees⟩ := (hagree hireFirst hhire).2.2
      "applicant%2D000001" rfl (by decide +kernel)
    have hentry := List.mem_map_of_mem (f := fun a : Applicant => (a.id, a.autoScreening))
      (Keyed.mem_values_of_get? hstored)
    rw [hentries, List.mem_singleton] at hentry
    rw [hread] at hstage
    exact ⟨{ a with stage }, j, _, Prod.ext hj rfl, congrArg Prod.fst hentry,
      Option.some.inj hstage, congrArg Prod.snd hentry, hshows, hagrees⟩

end Api

end Http

end Hiring
