import ServiceDiscovery.Api.Target
import ServiceDiscovery.Text.Split
import ServiceDiscovery.View.Task

/-!
# Requests to the API

The API has four resources, all to be read only: the node itself, the list of
its peers, the digest of that list, and a single peer by its instance name. A
name is one segment of the path, not empty, with percent escapes; the segment
`hash`, written so, is the digest and no name.
-/

namespace ServiceDiscovery.Api

/-- What a path leads to. -/
inductive Resource
  | self
  | peers
  | digest
  /-- The peer named by a segment, as it is written. -/
  | peer (segment : String)
  deriving DecidableEq, Repr

/-- What a path leads to, if anything. -/
def Resource.ofPath? (path : String) : Option Resource :=
  match (splitAtChar '/' path.toList).map String.ofList with
  | ["", "v1", "self"] => some .self
  | ["", "v1", "peers"] => some .peers
  | ["", "v1", "peers", segment] =>
    if segment = "hash" then some .digest
    else if segment.isEmpty then none
    else some (.peer segment)
  | _ => none

/-- How a resource is asked for. -/
inductive Method
  | get
  /-- As `get`, without the body. -/
  | head
  | other
  deriving DecidableEq, Repr

/-- The method of a name, which is case-sensitive. -/
def Method.ofName (name : String) : Method :=
  if name = "GET" then .get else if name = "HEAD" then .head else .other

/-- The method and the target on a line, with a space between them. -/
def requestOfLine (line : String) : Method × String :=
  let cs := line.toList.takeWhile fun c => c != '\n' && c != '\r'
  let method := cs.takeWhile (· != ' ')
  (.ofName (String.ofList method), String.ofList ((cs.drop method.length).drop 1))

/-- What is to be done for a request. -/
inductive Action
  | notFound
  | notAllowed
  /-- A segment whose bytes are not UTF-8. -/
  | badSegment
  | self
  | peers
  | digest
  | peer (instanceName : String)
  deriving DecidableEq, Repr

namespace Action

/-- What is to be done for a method and a path. The path is looked at first,
    then the method, and then the segment. -/
def of (method : Method) (path : String) : Action :=
  match Resource.ofPath? path with
  | none => notFound
  | some resource =>
    if method = .other then notAllowed
    else
      match resource with
      | .self => self
      | .peers => peers
      | .digest => digest
      | .peer segment =>
        match Percent.decode segment with
        | some instanceName => peer instanceName
        | none => badSegment

/-- What is asked of the view for it. -/
def viewRequest? : Action → Option ViewRequest
  | peers => some .all
  | peer instanceName => some (.one instanceName)
  | _ => none

end Action

end ServiceDiscovery.Api
