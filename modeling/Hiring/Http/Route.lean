import Hiring.Text.Pieces

/-!
# Addresses

* `Route` — the addresses that are served, with the identifiers in them as they were written.
* `Route.ofTarget?` — the address of a request; an identifier between two slashes may be empty,
  one at the end may not.
* `Endpoint`, `Route.endpoint?` — what is done at an address for a method.
-/

namespace Hiring.Http

/-- The addresses that are served. -/
inductive Route where
  | jobs
  | job (id : String)
  | jobApplicants (id : String)
  | jobTrial (id : String)
  | applications
  | application (id : String)
  | rescreening (id : String)
  | stage (id : String)
  | screening
  | health
  | ready
  | metrics
deriving Repr, DecidableEq

/-- What can be asked for. -/
inductive Endpoint where
  | listJobs
  | createJob
  | showJob (id : String)
  | listApplicants (id : String)
  | tryScreening (id : String)
  | apply
  | showApplicant (id : String)
  | rescreen (id : String)
  | moveTo (id : String)
  | screen
  | health
  | ready
  | metrics
deriving Repr, DecidableEq

/-- What stands before a query or a fragment. -/
def withoutQuery (cs : List Char) : List Char := cs.takeWhile fun c => c != '?' && c != '#'

/-- What stands after the scheme and the name of the server, if a target starts with them. -/
def withoutServer (cs : List Char) : List Char :=
  match cs with
  | '/' :: _ => cs
  | cs =>
    match cs.dropWhile (· != ':') with
    | ':' :: '/' :: '/' :: rest => rest.dropWhile (· != '/')
    | _ => cs

/-- The path of a target. -/
def pathOf (target : String) : List Char := withoutServer (withoutQuery target.toList)

/-- The address of a path by its parts. -/
def Route.ofSegments? : List String → Option Route
  | ["", "health"] => some .health
  | ["", "ready"] => some .ready
  | ["", "metrics"] => some .metrics
  | ["", "api", "v1", "screening"] => some .screening
  | ["", "api", "v1", "jobs"] => some .jobs
  | ["", "api", "v1", "jobs", id] => if id = "" then none else some (.job id)
  | ["", "api", "v1", "jobs", id, "applicants"] => some (.jobApplicants id)
  | ["", "api", "v1", "jobs", id, "test-screening"] => some (.jobTrial id)
  | ["", "api", "v1", "applications"] => some .applications
  | ["", "api", "v1", "applications", id] => if id = "" then none else some (.application id)
  | ["", "api", "v1", "applications", id, "rescreen"] => some (.rescreening id)
  | ["", "api", "v1", "applications", id, "status"] => some (.stage id)
  | _ => none

/-- The address of a request. -/
def Route.ofTarget? (target : String) : Option Route :=
  ofSegments? ((Text.pieces '/' (pathOf target)).map String.ofList)

/-- What is done at an address for a method; `HEAD` is `GET` here. -/
def Route.endpoint? (route : Route) (method : String) : Option Endpoint :=
  let method := if method = "HEAD" then "GET" else method
  match route, method with
  | .jobs, "GET" => some .listJobs
  | .jobs, "POST" => some .createJob
  | .job id, "GET" => some (.showJob id)
  | .jobApplicants id, "GET" => some (.listApplicants id)
  | .jobTrial id, "POST" => some (.tryScreening id)
  | .applications, "POST" => some .apply
  | .application id, "GET" => some (.showApplicant id)
  | .rescreening id, "POST" => some (.rescreen id)
  | .stage id, "PUT" => some (.moveTo id)
  | .screening, "POST" => some .screen
  | .health, "GET" => some .health
  | .ready, "GET" => some .ready
  | .metrics, "GET" => some .metrics
  | _, _ => none

end Hiring.Http
