import Outline.Failure
import Outline.Json.Finite
import Outline.Report.Basic
import Outline.Service.Request

set_option autoImplicit false

/-!
# Responses of the service

A response has a status and a body. What is wrong with a body is told in detail, with the value at
the place in question; a detail that cannot be written down makes the response an internal error.
-/
namespace Outline.Service

inductive Body where
  | json (value : Json)
  | text (text : String)

structure Response where
  status : Nat
  body : Body

namespace Response

def detail (status : Nat) (message : String) : Response :=
  ⟨status, .json (.object [("detail", .string message)])⟩

def notFound : Response := detail 404 "Not Found"

def methodNotAllowed : Response := detail 405 "Method Not Allowed"

def internalError : Response := ⟨500, .text "Internal Server Error"⟩

def bare (r : Response) : Response := { r with body := .text "" }

def location (steps : List Json) : Json := .array (.string "body" :: steps)

def stepValue : Json.Step → Json
  | .key name => .string name
  | .index position => .int position

def issueValue (i : Json.Issue) : Json :=
  .object [("type", .string i.fault.code), ("loc", location (i.path.map stepValue)),
    ("msg", .string i.fault.message), ("input", i.input)]

def malformedValue (message : String) (offset : Nat) : Json :=
  .object [("type", .string "json_invalid"), ("loc", location [.int offset]),
    ("msg", .string "JSON decode error"), ("input", .object []),
    ("ctx", .object [("error", .string message)])]

def unprocessable (descriptions : List Json) : Response :=
  let value : Json := .object [("detail", .array descriptions)]
  if value.isFinite then ⟨422, .json value⟩ else internalError

def ofFault : BodyFault → Response
  | .absent => unprocessable [issueValue ⟨.missing, [], .null⟩]
  | .unreadable (.malformed message offset) => unprocessable [malformedValue message offset]
  | .unreadable .hugeInteger => detail 400 "There was an error parsing the body"
  | .invalid issues => unprocessable (issues.map issueValue)

def ofFailure (failure : Failure) : Response :=
  match failure.kind with
  | .configuration => detail 400 failure.message
  | .file | .other => internalError

def ofReport (report : Report) (path : Option String) : Response :=
  ⟨200, .json (.object [("markdown", .string report.render),
    ("output_path", (path.map Json.string).getD .null)])⟩

end Response

end Outline.Service
