import GatedResources.Http.Message
import GatedResources.Http.Pattern
import GatedResources.Store.Database

/-!
# Routing

A router finds the handler of a request by its path and its method.
-/

namespace GatedResources

/-- Answers a request, given the named parts of its path, on a database. -/
abbrev Handler := Request -> Captures -> Database -> Attempt Empty (Response × Database)

/-- The handlers of a path by method, in the order they were added. -/
structure Route where
  path : String
  pattern : Pattern
  methods : List (String × Handler)

structure Router where
  routes : List Route

namespace Router

def empty : Router := ⟨[]⟩

/-- Adds handlers to the route of the same path; `none` when a method is taken. -/
def extend (path : String) (methods : List (String × Handler)) : List Route -> Option (List Route)
  | [] => some []
  | route :: rest =>
      if route.path = path then
        if methods.any fun entry => route.methods.any fun held => held.1 == entry.1 then none
        else some ({ route with methods := route.methods ++ methods } :: rest)
      else do
        some (route :: (← extend path methods rest))

/-- Adds a route. There is no router when the path is no pattern or clashes with another. -/
def route (router : Router) (path : String) (methods : List (String × Handler)) : Option Router :=
  match Pattern.parse path with
  | none => none
  | some pattern =>
      if router.routes.any fun held => held.path == path then
        (extend path methods router.routes).map Router.mk
      else if router.routes.any fun held => Pattern.conflicts held.pattern pattern then
        none
      else
        some ⟨router.routes ++ [⟨path, pattern, methods⟩]⟩

def addRoutes (router : Router) : List Route -> Option Router
  | [] => some router
  | added :: rest => do addRoutes (← router.route added.path added.methods) rest

def merge (router other : Router) : Option Router :=
  router.addRoutes other.routes

def find? (router : Router) (path : String) : Option (Route × Captures) :=
  router.routes.foldl (fun best route =>
    match Pattern.matchPath route.pattern path.toList, best with
    | none, best => best
    | some captures, none => some (route, captures)
    | some captures, some held =>
        if Pattern.precedes route.pattern held.1.pattern then some (route, captures)
        else some held) none

def allowText (route : Route) : String :=
  ",".intercalate (route.methods.map fun entry =>
    if entry.1 = "GET" then "GET,HEAD" else entry.1)

/-- Answers a request. A request for the head only is answered as one for the content,
without the content. -/
def handle (router : Router) (request : Request) (database : Database) :
    Attempt Empty (Response × Database) :=
  match router.find? request.path with
  | none => return (Response.bare 404, database)
  | some (route, captures) =>
      match route.methods.lookup request.method with
      | some handler => handler request captures database
      | none =>
          match request.method, route.methods.lookup "GET" with
          | "HEAD", some handler => do
              let (response, database) ← handler request captures database
              return (response.head, database)
          | _, _ => return ({ Response.bare 405 with allow := some (allowText route) }, database)

end Router
end GatedResources
