import Hiring.Json.Basic

/-!
# Requests and responses

* `Http.Request` — the parts of a request that matter here.
* `Http.Response` — status, media type and body.
-/

namespace Hiring.Http

/-- A request. -/
structure Request where
  method : String
  /-- The path with an optional query; the scheme and the name of the server may come first. -/
  target : String
  contentType : Option String
  body : String
deriving Repr, DecidableEq

/-- The body of a response. -/
inductive Body where
  | empty
  | text (mediaType : String) (content : String)
  | json (content : Json)

/-- A response. -/
structure Response where
  status : Nat
  body : Body

namespace Response

/-- The media type of plain text. -/
def plainText : String := "text/plain; charset=utf-8"

/-- A response without a body. -/
def bare (status : Nat) : Response := ⟨status, .empty⟩

/-- A response in plain text. -/
def ofText (status : Nat) (content : String) : Response := ⟨status, .text plainText content⟩

/-- A response in JSON. -/
def ofJson (status : Nat) (content : Json) : Response := ⟨status, .json content⟩

/-- A response that says what went wrong. -/
def ofError (status : Nat) (message : String) : Response :=
  ofJson status (.object [("error", .string message)])

/-- The media type of a response, if it has a body. -/
def mediaType? (r : Response) : Option String :=
  match r.body with
  | .empty => none
  | .text mediaType _ => some mediaType
  | .json _ => some "application/json"

/-- The response to a request that asks for the head only: the media type stays. -/
def headOnly (r : Response) : Response :=
  { r with
    body :=
      match r.mediaType? with
      | some mediaType => .text mediaType ""
      | none => .empty }

end Response

end Hiring.Http
