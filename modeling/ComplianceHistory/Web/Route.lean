import ComplianceHistory.Web.Path

/-!
# Routes

What a path and a method ask for.  The path of a request is resolved as clients do before they send it: its
steps `.` and `..` are gone through here.  A path that nothing is under is looked up again without the
slashes at its end, since clients are sent there by a redirect and follow it; the two requests are one.
-/

namespace ComplianceHistory.Web

/-- What is asked for. -/
inductive Route where
  | compile
  | parse
  | search
  | complianceBySearch
  | complianceByStream
  | statusOverTime
  | statusOverTimeByStream
  | listFilters
  | createFilter
  | exportFilters
  | getFilter (id : String)
  | updateFilter (id : String)
  | deleteFilter (id : String)
  | filterCompliance (id : String)
  | health
deriving DecidableEq, Repr

/-- Whether replies on a route repeat texts of the body. -/
def Route.repeatsBody : Route → Bool
  | compile | parse | createFilter | updateFilter _ => true
  | _ => false

/-- Whether replies on a route repeat texts of the file of saved filters. -/
def Route.repeatsFile : Route → Bool
  | listFilters | exportFilters | getFilter _ | updateFilter _ => true
  | _ => false

/-- The routes under the path of a saved filter, by their methods. -/
def Route.ofFilter (id : String) : List (String × Route) :=
  if id.isEmpty then []
  else [("GET", getFilter id), ("PUT", updateFilter id), ("DELETE", deleteFilter id)]

/-- The routes under a path, by their methods. -/
def Route.under (path : List Char) : List (String × Route) :=
  match (parts path).map String.ofList with
  | ["", "health"] => [("GET", health)]
  | ["", "api", "filters"] => [("GET", listFilters), ("POST", createFilter)]
  | ["", "api", "filters", "compile"] => ("POST", compile) :: ofFilter "compile"
  | ["", "api", "filters", "parse"] => ("POST", parse) :: ofFilter "parse"
  | ["", "api", "filters", id] => ofFilter id
  | ["", "api", "filters", "export", "download"] => [("GET", exportFilters)]
  | ["", "api", "filters", id, "compliance"] => if id.isEmpty then [] else [("GET", filterCompliance id)]
  | ["", "api", "results", "search"] => [("POST", search)]
  | ["", "api", "results", "compliance-by-search"] => [("POST", complianceBySearch)]
  | ["", "api", "results", "compliance-by-stream"] => [("POST", complianceByStream)]
  | ["", "api", "findings", "status-over-time"] => [("POST", statusOverTime)]
  | ["", "api", "findings", "status-over-time-by-stream"] => [("POST", statusOverTimeByStream)]
  | _ => []

/-- The routes under the path of a request, perhaps without the slashes at its end. -/
def Route.at (text : List Char) : List (String × Route) :=
  let path := decodedPath text
  match under path with
  | [] => match withoutSlash? path with
    | some short => if (under short).isEmpty then [] else under (decodedPath short)
    | none => []
  | routes => routes

/-- Why there is no route. -/
inductive NoRoute where
  | notFound
  | badMethod
deriving DecidableEq, Repr

/-- The route of a method and the path of a request. -/
def Route.find (method : String) (path : List Char) : Except NoRoute Route :=
  match Route.at path with
  | [] => .error .notFound
  | routes => match routes.lookup method with
    | some r => .ok r
    | none => .error .badMethod

end ComplianceHistory.Web
