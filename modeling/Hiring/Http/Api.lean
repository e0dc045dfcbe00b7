import Hiring.Failure
import Hiring.Http.MediaType
import Hiring.Http.Route
import Hiring.Office.Basic
import Hiring.Text.Percent

/-!
# The office over the network

* `Http.Api` — the office, and whether it is open.
* `Http.Api.handle` — the script of a request: address and method first, then the identifier in
  the address, then the body, and only then the office is asked.
* `Http.Api.errorResponse` — how an error of the office is answered.
-/

namespace Hiring.Http

open Json (Decoder Fault Fields)

/-- What requests are answered from. -/
structure Api where
  office : Office
  /-- Requests can be answered. -/
  ready : Bool

namespace Api

/-- The status with which an error of the office is answered. -/
def errorStatus : OfficeError → Nat
  | .invalid _ => 422
  | .jobNotFound _ => 404
  | .applicantNotFound _ => 404
  | .storage .notFound => 404
  | .storage .conflict => 409
  | .storage (.unavailable _) => 500

/-- The answer to a request that the office refuses. -/
def errorResponse (e : OfficeError) : Response := .ofError (errorStatus e) e.message

/-- An operation of the office as the script of a request. -/
def serve {α : Type} (operation : Operation α) (answer : α → Response) : Script Response := do
  match ← operation.run with
  | .ok a => return answer a
  | .error e => return errorResponse e

/-! ## Reading requests -/

/-- The identifier in an address. -/
def readId (raw : String) : Except Response String :=
  match Text.percentDecode? raw with
  | some id => .ok id
  | none => .error (.ofText 400 "Invalid URL")

/-- The answer to a body in which a fault was found. -/
def faultResponse (fault : Fault) : Response :=
  if fault.isData then
    .ofText 422 "Failed to deserialize the JSON body into the target type"
  else .ofText 400 "Failed to parse the request body as JSON"

/-- The greatest number of bytes of a body. -/
def bodyLimit : Nat := 2097152

/-- The body of a request, if it is not too long. -/
def boundedBody (r : Request) : Except Response String :=
  if r.body.utf8ByteSize ≤ bodyLimit then .ok r.body
  else .error (.ofText 413 "Failed to buffer the request body")

/-- The value in a body that has to be JSON. -/
def readBody {α : Type} (decode : Decoder α) (r : Request) : Except Response α := do
  if (r.contentType.map MediaType.isJson).getD false then
    (decode.ofPrefix (← boundedBody r)).mapError faultResponse
  else .error (.ofText 415 "Expected request with `Content-Type")

/-- The stage in a request to change it. -/
def stageDecoder : Decoder Stage := .record "StatusUpdate" (id <$> .required "status" Stage.decoder)

/-! ## Answers -/

/-- The answer to an application. -/
def receiptResponse (r : Receipt) : Response :=
  .ofJson 201 (.object [
    ("message", .string "Application submitted successfully"),
    ("applicant_id", .string r.applicant.id),
    ("screening_result", .ofOption Verdict.toJson r.verdict),
    ("auto_screening_status", r.applicant.autoScreening.toJson),
    ("applicant_status", r.applicant.stage.toJson)])

/-- The answer to a rescreening. -/
def rescreeningResponse (r : Rescreening) : Response :=
  .ofJson 200 (.object [
    ("message", .string "Auto-screening completed successfully."),
    ("new_status", .string r.verdict.status.label),
    ("applicant_status", r.applicant.stage.toJson),
    ("log", r.verdict.log.toJson)])

/-- The answer to the question whether requests can be answered. -/
def readiness (ready : Bool) : Response :=
  if ready then .ofJson 200 (.object [("status", .string "ready")])
  else .ofJson 503 (.object [("status", .string "initializing")])

/-- The answer to a document to be screened. -/
def screenDocument (s : Screener) (body : String) : Response :=
  match ScreeningRequest.decoder.ofText body with
  | .ok request => .ofJson 200 (s.report request).toJson
  | .error fault => (Failure.input fault).response

/-! ## Requests -/

/-- What was read from a request decides the script, and a fault is the answer. -/
def reading {α : Type} (read : Except Response α) (next : α → Script Response) : Script Response :=
  match read with
  | .ok a => next a
  | .error response => .done response

/-- The script of a request to an endpoint. -/
def answer (api : Api) (endpoint : Endpoint) (r : Request) : Script Response :=
  match endpoint with
  | .listJobs => serve Office.jobs fun jobs => .ofJson 200 (.array (jobs.map JobPosting.toJson))
  | .createJob =>
    reading (readBody JobDraft.decoder r) fun draft =>
      serve (Office.createJob draft) fun job => .ofJson 201 job.toJson
  | .showJob raw =>
    reading (readId raw) fun id => serve (Office.job id) fun job => .ofJson 200 job.toJson
  | .listApplicants raw =>
    reading (readId raw) fun id =>
      serve (Office.applicantsFor id) fun applicants =>
        .ofJson 200 (.array (applicants.map Applicant.toJson))
  | .tryScreening raw =>
    reading (readId raw) fun id =>
      reading (readBody TrialRequest.decoder r) fun request =>
        serve (api.office.tryScreening id request) fun trial => .ofJson 200 trial.toJson
  | .apply =>
    reading (readBody Submission.decoder r) fun submission =>
      serve (api.office.apply submission) receiptResponse
  | .showApplicant raw =>
    reading (readId raw) fun id =>
      serve (Office.applicant id) fun applicant => .ofJson 200 applicant.toJson
  | .rescreen raw =>
    reading (readId raw) fun id => serve (api.office.rescreen id) rescreeningResponse
  | .moveTo raw =>
    reading (readId raw) fun id =>
      reading (readBody stageDecoder r) fun stage =>
        serve (Office.moveTo id stage) fun applicant => .ofJson 200 applicant.statusView.toJson
  | .screen => reading (boundedBody r) fun body => .done (screenDocument api.office.screener body)
  | .health => .done (.ofJson 200 (.object [("status", .string "ok")]))
  | .ready => .done (readiness api.ready)
  | .metrics => .done ⟨200, .text "text/plain; version=0.0.4" ""⟩

/-- The script of a request: an unknown address is not found, and an address that is known does
not take every method. -/
def handle (api : Api) (r : Request) : Script Response :=
  match Route.ofTarget? r.target with
  | none => .done (.bare 404)
  | some route =>
    match route.endpoint? r.method with
    | none => .done (.bare 405)
    | some endpoint => do
      let response ← api.answer endpoint r
      return if r.method = "HEAD" then response.headOnly else response

end Api

end Hiring.Http
