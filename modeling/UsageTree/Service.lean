import UsageTree.Config
import UsageTree.Json.Reader
import UsageTree.Route
import UsageTree.Row
import UsageTree.Validation.Request

/-!
# The service

Calls ask for the report of posted records, as trees or as rows, or whether the service is there.

## Main definitions

* `Entry.toJson`, `Node.toJson`, `Row.toJson` — the parts of a report as objects.
* `Call`, `Response` — what comes in and what goes out.
* `Service.content` — the value that a call carries.
* `Service.accept` — the checked request of a value, or the response that refuses it.
* `Service.answer` — the response to a call.
-/

namespace UsageTree

/-! ## Reports as values -/

namespace Entry

mutual

/-- An entry as an object, its children inside. -/
def toJson : Entry → Json
  | ⟨path, name, size, itemCount, lastChanged, percent, children⟩ => .object [
    ("path", .text path),
    ("name", .text name),
    ("size", .int size),
    ("itemCount", .int itemCount),
    ("lastChanged", .ofText? lastChanged),
    ("percent", .float percent),
    ("children", .list (listToJson children))]

/-- Entries one by one. -/
def listToJson : List Entry → List Json
  | [] => []
  | e :: rest => toJson e :: listToJson rest

end

end Entry

/-- A node as an object. -/
def Node.toJson (node : Node) : Json := .object [
  ("name", .text node.name),
  ("id", .text node.id),
  ("totalSize", .int node.totalSize),
  ("entries", .list (Entry.listToJson node.entries))]

/-- A row as an object. -/
def Row.toJson (row : Row) : Json := .object [
  ("id", .text row.id),
  ("depth", .int row.depth),
  ("label", .text row.label),
  ("sublabel", .text row.sublabel),
  ("percent", .text row.percent),
  ("size", .text row.size),
  ("items", .text row.items),
  ("last_changed", .text row.lastChanged),
  ("has_children", .bool row.hasChildren),
  ("expanded", .bool row.expanded)]

/-! ## Calls -/

/-- A call of the service. -/
structure Call where
  method : Text
  /-- The place called. -/
  target : Text
  contentType : Option Text
  body : List UInt8

/-- The response to a call. -/
structure Response where
  status : Nat
  /-- The value that the response carries, if it carries one. -/
  body : Option Json
  deriving Repr

namespace Service

/-! ## Requests -/

/-- A response that tells an error in words. -/
def refuse (status : Nat) (words : Text) : Response :=
  ⟨status, some (.object [("error", .text words)])⟩

/-- The blanks that may stand around a media type. -/
def isPadding (c : CodePoint) : Bool := c == ' ' || c == '\t'

/-- A letter in lower case, if it is an ASCII letter. -/
def toLower (c : CodePoint) : CodePoint :=
  if c.between 'A' 'Z' then CodePoint.ofNat (c.val + 32) else c

/-- The content is JSON by its media type, which ends at a semicolon. -/
def isJson (contentType : Text) : Bool :=
  let named := contentType.takeWhile fun (c : CodePoint) => c != ';'
  let media := (Text.trim isPadding named).map toLower
  media == "application/json" ||
    (Text.ofString "application/").isPrefixOf media && (Text.ofString "+json").isSuffixOf media

/-- How deep the lists and objects of a body may be nested. A reader that calls itself for each of
them exhausts a stack of 1000 calls; the number is an estimate of how many of these are left once
some 25 lead to the reader. The trees of a report have no such limit here, see `Entry`. -/
def maxNesting : Nat := 975

/-- The response to content that is no object. -/
def notObject : Response := refuse 400 "expected a JSON object body"

/-- The response to a body that is not read. -/
def ofRefusal : Json.Refusal → Response
  | .malformed => notObject
  | .tooDeep => ⟨500, none⟩

/-- The value that a call carries, if its content is JSON. -/
def content (call : Call) : Except Response Json :=
  if call.contentType.any isJson then (Json.ofBytes maxNesting call.body).mapError ofRefusal
  else .error notObject

/-- A list has more than `limit` items; other values have no items. -/
def exceeds (limit : Int) : Option Json → Bool
  | some (.list items) => decide (limit < items.length)
  | _ => false

/-- The request of a value, or the response that refuses it. A list of records that is too long is
refused before any of them is looked at. -/
def accept (config : Config) : Json → Except Response Request
  | .object fields =>
    if exceeds config.maxRecords (Table.findEntry Request.filesKey fields) then
      .error (refuse 413 ("too many records, limit is " ++ toString config.maxRecords))
    else
      (Request.ofJson config.maxPathDepth (.object fields)).mapError fun errors =>
        ⟨400, some errors.toJson⟩
  | _ => .error notObject

/-- The request of a call, or the response that refuses it. -/
def requested (config : Config) (call : Call) : Except Response Request := do
  accept config (← content call)

/-! ## Responses -/

/-- Which rows a request wants open. -/
def expansion : Option (List Text) → Expansion
  | none => .everything
  | some ids => .only ids

/-- The nodes of a request as trees. -/
def treesOf (request : Request) : Except Fault Json := do
  let nodes ← Node.report (request.files.map FileRecord.toRaw)
  return .list (nodes.map Node.toJson)

/-- The nodes of a request as rows, with times in a local zone `zone` seconds east of UTC. -/
def rowsOf (zone : Int) (request : Request) : Except Fault Json := do
  let nodes ← Node.report (request.files.map FileRecord.toRaw)
  let rows ← Row.ofNodes zone (expansion request.expanded) nodes
  return .list (rows.map Row.toJson)

/-- The response that carries a value. A fault, and an integer with too many digits to be written,
leave nothing to carry. -/
def respond : Except Fault Json → Response
  | .ok v => if v.withinDigits Text.maxDigits then ⟨200, some v⟩ else ⟨500, none⟩
  | .error _ => ⟨500, none⟩

/-- The response to a call by one of the methods of a route, from a service in a local zone. -/
def serve (config : Config) (zone : Int) (route : Route) (call : Call) : Response :=
  match route with
  | .ping => ⟨200, some (.object [("status", .text "ok")])⟩
  | .file => ⟨404, none⟩
  | .trees =>
    match requested config call with
    | .ok request => respond (treesOf request)
    | .error response => response
  | .rows =>
    match requested config call with
    | .ok request => respond (rowsOf zone request)
    | .error response => response

/-- The response to a call by a method in capital letters. Where a route starts only once runs of
slashes are single ones, the caller is sent there. -/
def dispatch (config : Config) (zone : Int) (method : Text) (call : Call) : Response :=
  let place := Target.place call.target
  let other := Target.mergeSlashes place
  match Route.find? method place with
  | some route => if method = "OPTIONS" then ⟨200, none⟩ else serve config zone route call
  | none =>
    if (Route.find? method other).isSome then ⟨308, none⟩
    else if (Route.ofPlace? place).isSome || (Route.ofPlace? other).isSome then ⟨405, none⟩
    else ⟨404, none⟩

/-- The response to a call by a service in a local zone. Methods may be in letters of any case; only
one that is `HEAD` as it stands leaves the response without a value. -/
def answer (config : Config) (zone : Int) (call : Call) : Response :=
  let response := dispatch config zone (Text.capitals call.method) call
  if call.method = "HEAD" then { response with body := none } else response

end Service

end UsageTree
