import Outline.Json.Flag
import Outline.Json.Reader

set_option autoImplicit false

/-!
# Requests to the service

A request names a method and a target and may carry a body. The body of a request for a report is a
JSON object with the root folder and, if wanted, the folder of entities, a filter and whether to
write the report.
-/
namespace Outline.Service

/-- A request. An absent body is an empty one. -/
structure Request where
  method : String
  target : String
  body : String
deriving Repr, DecidableEq

namespace Request

def verb (r : Request) : String := String.ofList (r.method.toList.map Char.toUpper)

/-- The path of the target: it starts with a slash, it has no slash at its end, and the query is
left out. -/
def path (r : Request) : String :=
  let chars := (r.target.toList.takeWhile fun c => c != '?' && c != '#')
  let rooted := if chars.head? == some '/' then chars else '/' :: chars
  String.ofList (rooted.reverse.dropWhile (· == '/')).reverse

end Request

structure Wish where
  root : String
  entities : Option String
  filter : Option String
  write : Bool
deriving Repr, DecidableEq

inductive BodyFault where
  | absent
  | unreadable (error : Json.ReadError)
  | invalid (issues : List Json.Issue)

namespace Wish

def check : Json → Json.Checked Wish
  | .object fields =>
    Json.both
      (Json.both
        (Json.both
          (Json.both (.ok mk) (Json.requiredField fields "root_path" Json.checkText))
          (Json.optionalField fields "entities_path" none Json.checkOptionalText))
        (Json.optionalField fields "filter_pattern" none Json.checkOptionalText))
      (Json.optionalField fields "write" false Json.checkFlag)
  | other => Json.refuse .notFields other

/-- Reads a body; a byte order mark in front of it is dropped. -/
def read (body : String) : Except BodyFault Wish :=
  match body.toList with
  | [] => .error .absent
  | first :: rest =>
    let text := if first == '\uFEFF' then String.ofList rest else body
    match Json.read text with
    | .error e => .error (.unreadable e)
    | .ok value =>
      match check value with
      | .error issues => .error (.invalid issues)
      | .ok wish => .ok wish

end Wish

end Outline.Service
