import Relational.Http.Address
import Relational.Json.Bytes
import Relational.Session

/-!
# Statements over HTTP

One path takes statements: `POST /query` with a JSON object whose entry `sql` is a statement. The answer is the
result as an object. Every answer allows requests from other origins, and OPTIONS is answered at any path.
-/

namespace Relational.Http

open Text

/-- A request. -/
structure Request where
  method : String
  target : String
  contentType : String
  body : String
  deriving Repr, DecidableEq

/-- An answer; one without a body has none to show. -/
structure Response where
  status : Nat
  body : Option Json

/-- The methods that other origins may use. -/
def allowedMethods : String := "POST, OPTIONS"

/-! ## Bodies -/

/-- A result as an object. -/
def resultJson (r : Result) : Json :=
  .object [("success", .bool r.success), ("affectedRows", .int r.affectedRows), ("columns", .ofTexts r.columns),
    ("rows", .list (r.rows.map fun row => .list (row.map Cell.toJson))), ("errorMessage", .text r.errorMessage),
    ("message", .text r.message)]

/-- The answer to a request without a statement. -/
def missingStatement : Json :=
  .object [("success", .bool false), ("affectedRows", .int 0), ("columns", .list []), ("rows", .list []),
    ("errorMessage", .text "Request body must be JSON with a non-empty 'sql' field")]

/-- The answer to a request that fails as a whole. -/
def failureJson (reason : String) : Json :=
  .object [("success", .bool false), ("errorMessage", .text reason)]

/-! ## Requests -/

/-- Blanks that count for nothing around the type of the content. -/
def isMargin (c : Char) : Bool :=
  c.toNat < 0x80 && isBlank c

/-- The type of the content without its parameters. -/
def mediaType (contentType : String) : String :=
  lower (String.ofList (trimWhile isMargin (contentType.toList.takeWhile (· != ';'))))

/-- The content is JSON. -/
def isJson (contentType : String) : Bool :=
  let type := (mediaType contentType).toList
  type == "application/json".toList
    || "application/".toList.isPrefixOf type && "+json".toList.isSuffixOf type

/-- The statement in a request, if there is one. -/
def statement? (request : Request) : Option String := do
  if !isJson request.contentType then none
  match (← Json.ofReceived? request.body).field? "sql" with
  | some (.text sql) => if (strip sql).isEmpty then none else some sql
  | _ => none

/-- The content type stands on one line, as a header has to. -/
def hasHeader (request : Request) : Bool :=
  !request.contentType.toList.any fun c => c == '\r' || c == '\n'

/-- A path of the files that are served, none of which is there. -/
def isFilePath (path : String) : Bool :=
  "/static/".toList.isPrefixOf path.toList && "/static/".length < path.length

/-- The answer to a request that nothing takes. -/
def refusal (method path : String) : Nat × Json :=
  if path == "/query" || isFilePath path && method != "GET" && method != "HEAD" then
    (405, failureJson "Method not allowed")
  else (404, failureJson "Not found")

/-- Answers a request for a path. A fault that the session passes on is an answer of its own. -/
def respondAt (session : Session) (now : Timestamp) (request : Request) (path : String) : Response × Session :=
  let method := upper request.method
  if method == "OPTIONS" then (⟨204, none⟩, session)
  else if method == "POST" && path == "/query" then
    match statement? request with
    | none => (⟨400, some missingStatement⟩, session)
    | some sql =>
      match session.run now sql with
      | (.ok r, session) => (⟨200, some (resultJson r)⟩, session)
      | (.error _, session) => (⟨500, none⟩, session)
  else
    let (status, body) := refusal method path
    (⟨status, if request.method == "HEAD" then none else some body⟩, session)

/-- Answers a request, unless it is one that cannot be sent. -/
def respond (session : Session) (now : Timestamp) (request : Request) : Except Failure Response × Session :=
  match path? request.target with
  | none => (fail (.value .request), session)
  | some path =>
    if hasHeader request then
      let (response, session) := respondAt session now request path
      (.ok response, session)
    else (fail (.value .request), session)

end Relational.Http
