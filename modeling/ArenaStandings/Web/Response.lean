import ArenaStandings.Failure

/-!
# Responses

A response has a status, the headers that depend on the request, and a body. In a body that is a
value, doubles that are no finite numbers are written as nothing.
-/

namespace ArenaStandings

/-- What a response carries. -/
inductive Body
  | empty
  | text (content : String)
  | value (content : Value)

structure Response where
  status : Nat
  headers : List (String × String)
  body : Body

mutual

/-- A value with nothing in place of doubles that are no finite numbers. -/
def Value.finiteOnly : Value → Value
  | .float x => if x.isFinite then .float x else .null
  | .list items => .list (finiteItems items)
  | .record fields => .record (finiteFields fields)
  | value => value

/-- Elements with nothing in place of doubles that are no finite numbers. -/
def Value.finiteItems : List Value → List Value
  | [] => []
  | item :: rest => finiteOnly item :: finiteItems rest

/-- Fields with nothing in place of doubles that are no finite numbers. -/
def Value.finiteFields : List (String × Value) → List (String × Value)
  | [] => []
  | (name, value) :: rest => (name, finiteOnly value) :: finiteFields rest

end

/-- What a bound was, under the name of its comparison. -/
def Reason.bound : Reason → Record
  | .above bound => [("le", .int bound)]
  | .below bound => [("ge", .int bound)]
  | _ => []

namespace Response

def json (status : Nat) (content : Value) : Response :=
  ⟨status, [("content-type", "application/json")], .value content.finiteOnly⟩

def detail (status : Nat) (message : String) : Response :=
  json status (.record [("detail", .text message)])

def notFound : Response := detail 404 "Not Found"

/-- The response to a method that the endpoint does not know, with those that it knows. -/
def methodNotAllowed (known : List String) : Response :=
  let response := detail 405 "Method Not Allowed"
  { response with headers := ("allow", ", ".intercalate known) :: response.headers }

/-- The response when something fails that is not expected to. -/
def internalError : Response :=
  ⟨500, [("content-type", "text/plain; charset=utf-8")], .text "Internal Server Error"⟩

/-- The response that sends the client to another address. -/
def redirect (address : String) : Response := ⟨307, [("location", address)], .empty⟩

def stepValue : Step → Value
  | .key name => .text name
  | .index position => .int position

/-- An issue with a text that was given, in a response. -/
def issueValue (input : String) (issue : Issue) : Value :=
  let bound := issue.reason.bound
  .record ([
    ("type", .text issue.reason.code),
    ("loc", .list (issue.path.map stepValue)),
    ("msg", .text issue.reason.message),
    ("input", .text input)] ++ if bound.isEmpty then [] else [("ctx", .record bound)])

/-- The response to a parameter that is not accepted. -/
def unprocessable (input : String) (issues : List Issue) : Response :=
  json 422 (.record [("detail", .list (issues.map (issueValue input)))])

/-- The response to a failure. A failure without a response of its own is an internal error. -/
def ofFailure : Failure → Response
  | .unreadable part => detail 503 (Failure.unreadable part).message
  | .unknownArena id => detail 404 (Failure.unknownArena id).message
  | _ => internalError

/-- The response without its body. -/
def withoutBody (response : Response) : Response := { response with body := .empty }

end Response

end ArenaStandings
