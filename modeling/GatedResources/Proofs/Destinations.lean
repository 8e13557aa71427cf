import GatedResources.Proofs.RequestStages

/-!
# Where a request goes

The path and the method of a request say which operation of a resource it is for, whoever
identifies callers and whatever the database holds. The router answers what the stages of this
operation end with, or that there is no such path or method.
-/

namespace GatedResources
namespace Rest

structure Stop where
  path : String
  pattern : Pattern
  methods : List (String × RootOperation)

def Stop.route (endpoint : Endpoint) (stop : Stop) : Route :=
  ⟨stop.path, stop.pattern, stop.methods.map fun entry =>
    (entry.1, Autocommit.handler endpoint entry.2)⟩

def collectionMethods : List (String × RootOperation) :=
  [("GET", .findAll), ("POST", .create), ("DELETE", .removeMany)]

def itemMethods : List (String × RootOperation) :=
  [("GET", .findOne), ("PATCH", .patch), ("DELETE", .remove)]

def stopsAt (resource : Resource) (path : String) (methods : List (String × RootOperation)) :
    List Stop :=
  match methods.filter fun entry => resource.offers entry.2.action, Pattern.parse path with
  | [], _ => []
  | _ :: _, none => []
  | first :: rest, some pattern => [⟨path, pattern, first :: rest⟩]

def stops (resource : Resource) : List Stop :=
  stopsAt resource (collectionPath resource.options.name) collectionMethods ++
    stopsAt resource (itemPath resource.options.name) itemMethods

/-- The stop of a path with the named parts; of several the one whose pattern precedes. -/
def stopFor (stops : List Stop) (path : String) : Option (Stop × Captures) :=
  stops.foldl (fun best stop =>
    match Pattern.matchPath stop.pattern path.toList, best with
    | none, best => best
    | some captures, none => some (stop, captures)
    | some captures, some held =>
        if Pattern.precedes stop.pattern held.1.pattern then some (stop, captures)
        else some held) none

inductive Destination where
  | nowhere
  /-- The path has other methods, which are listed. -/
  | refused (allowed : String)
  | reached (kind : RootOperation) (captures : Captures) (headOnly : Bool)
deriving DecidableEq

/-- Where a request goes. A request for the head goes where one for the content does. -/
def destination (resource : Resource) (request : Request) : Destination :=
  match stopFor (stops resource) request.path with
  | none => .nowhere
  | some (stop, captures) =>
      match stop.methods.lookup request.method with
      | some kind => .reached kind captures false
      | none =>
          match if request.method = "HEAD" then stop.methods.lookup "GET" else none with
          | some kind => .reached kind captures true
          | none => .refused (",".intercalate (stop.methods.map fun entry =>
              if entry.1 = "GET" then "GET,HEAD" else entry.1))

def methodAction : String -> Option Action
  | "GET" => some .find
  | "HEAD" => some .find
  | "POST" => some .create
  | "PATCH" => some .update
  | "DELETE" => some .delete
  | _ => none

section Routes

variable {endpoint : Endpoint} {resource : Resource}

theorem collection_methods : collection endpoint =
    (collectionMethods.filter fun entry => endpoint.resource.offers entry.2.action).map
      fun entry => (entry.1, Autocommit.handler endpoint entry.2) := by
  unfold collection collectionMethods
  simp only [List.filter_cons, RootOperation.action]
  cases endpoint.resource.offers .find <;> cases endpoint.resource.offers .create <;>
    cases endpoint.resource.offers .delete <;> rfl

theorem item_methods : item endpoint =
    (itemMethods.filter fun entry => endpoint.resource.offers entry.2.action).map
      fun entry => (entry.1, Autocommit.handler endpoint entry.2) := by
  unfold item itemMethods
  simp only [List.filter_cons, RootOperation.action]
  cases endpoint.resource.offers .find <;> cases endpoint.resource.offers .update <;>
    cases endpoint.resource.offers .delete <;> rfl

theorem stops_at_path {path : String} {methods : List (String × RootOperation)} {stop : Stop}
    (member : stop ∈ stopsAt resource path methods) : stop.path = path := by
  unfold stopsAt at member
  split at member
  · cases member
  · cases member
  · cases List.mem_singleton.mp member
    rfl

theorem add_route_stops {path : String} {methods : List (String × RootOperation)}
    {held : List (String × Handler)} {router added : Router}
    (same : held = (methods.filter fun entry => endpoint.resource.offers entry.2.action).map
      fun entry => (entry.1, Autocommit.handler endpoint entry.2))
    (built : addRoute path held router = some added)
    (new : ∀ held ∈ router.routes, held.path ≠ path) :
    added.routes = router.routes ++
      (stopsAt endpoint.resource path methods).map (Stop.route endpoint) := by
  subst same
  unfold addRoute at built
  unfold stopsAt
  cases offered : methods.filter fun entry => endpoint.resource.offers entry.2.action with
  | nil =>
      rw [offered] at built
      cases built
      exact (List.append_nil _).symm
  | cons first rest =>
      rw [offered] at built
      obtain ⟨pattern, read, rfl⟩ := Router.route_new built new
      rw [read]
      rfl

/-- The router of a resource has the stops of the resource. -/
theorem router_stops {router : Router} (built : (Rest.router endpoint).outcome = .done router) :
    router.routes = (stops endpoint.resource).map (Stop.route endpoint) := by
  obtain ⟨between, firstBuilt, secondBuilt⟩ := router_added built
  have first := add_route_stops collection_methods firstBuilt fun held member => nomatch member
  have second := add_route_stops item_methods secondBuilt (by
    intro held member
    rw [first] at member
    obtain ⟨stop, inside, rfl⟩ := List.mem_map.mp member
    exact fun same => item_path_differs _ ((stops_at_path inside).symm.trans same))
  rw [second, first]
  unfold stops
  rw [List.map_append]
  rfl

theorem find_stop {router : Router} {stops : List Stop}
    (routes : router.routes = stops.map (Stop.route endpoint)) (path : String) :
    router.find? path = (stopFor stops path).map fun found =>
      (found.1.route endpoint, found.2) := by
  unfold Router.find? stopFor
  rw [routes, List.foldl_map]
  change List.foldl _ (Option.map (fun found : Stop × Captures =>
    (found.1.route endpoint, found.2)) none) stops = _
  apply List.foldl_hom
  intro best stop
  change (match Pattern.matchPath stop.pattern path.toList, _ with
    | none, best => best
    | some captures, none => some (stop.route endpoint, captures)
    | some captures, some held => _) = _
  cases Pattern.matchPath stop.pattern path.toList with
  | none => cases best <;> rfl
  | some captures =>
      cases best with
      | none => rfl
      | some held =>
          dsimp only [Option.map_some]
          change (if Pattern.precedes stop.pattern held.1.pattern then _ else _) = _
          split <;> rfl

theorem stop_for_member {stops : List Stop} {path : String} {stop : Stop} {captures : Captures}
    (found : stopFor stops path = some (stop, captures)) : stop ∈ stops := by
  have all : ∀ held taken, stopFor stops path = some (held, taken) → held ∈ stops := by
    unfold stopFor
    apply List.foldlRecOn (motive := fun best : Option (Stop × Captures) => ∀ held taken,
      best = some (held, taken) → held ∈ stops)
    · intro held taken impossible
      cases impossible
    · intro best claim stop member held taken same
      split at same
      · exact claim held taken same
      · cases same
        exact member
      · split at same
        · cases same
          exact member
        · exact claim held taken same
  exact all stop captures found

/-- Every method of a stop is offered, and is for the action of its operation. -/
theorem stops_offered {stop : Stop} (member : stop ∈ stops resource) {method : String}
    {kind : RootOperation} (found : stop.methods.lookup method = some kind) :
    resource.options.isHidden kind.action = false ∧ methodAction method = some kind.action := by
  have entry : (method, kind) ∈ stop.methods := by
    obtain ⟨front, back, split, _⟩ := List.lookup_eq_some_iff.mp found
    rw [split]
    exact List.mem_append_right _ List.mem_cons_self
  have listed : ∀ {path : String} {methods : List (String × RootOperation)},
      stop ∈ stopsAt resource path methods →
      (∀ entry ∈ methods, methodAction entry.1 = some entry.2.action) →
      resource.options.isHidden kind.action = false ∧ methodAction method = some kind.action := by
    intro path methods inside suits
    have taken : stop.methods =
        methods.filter fun entry => resource.offers entry.2.action := by
      unfold stopsAt at inside
      split at inside
      · cases inside
      · cases inside
      · next first rest pattern offered _ =>
          cases List.mem_singleton.mp inside
          exact offered.symm
    rw [taken] at entry
    obtain ⟨among, visible⟩ := List.mem_filter.mp entry
    unfold Resource.offers at visible
    exact ⟨by simpa using visible, suits _ among⟩
  rcases List.mem_append.mp member with collected | single
  · exact listed collected (by decide)
  · exact listed single (by decide)

end Routes

section Answers

variable {endpoint : Endpoint} {request : Request}

/-- A request that reaches an operation has a method for its action, and the action is offered. -/
theorem destination_offered {resource : Resource} {kind : RootOperation} {captures : Captures}
    {headOnly : Bool} (reached : destination resource request = .reached kind captures headOnly) :
    resource.options.isHidden kind.action = false ∧
      methodAction request.method = some kind.action := by
  unfold destination at reached
  split at reached
  · cases reached
  · next stop captures found =>
      have member := stop_for_member found
      split at reached
      · next own asked =>
          cases reached
          exact stops_offered member asked
      · split at reached
        · next own asked =>
            cases reached
            obtain ⟨isHead, asked⟩ := Option.ite_none_right_eq_some.mp asked
            obtain ⟨offered, gets⟩ := stops_offered member asked
            rw [isHead]
            exact ⟨offered, gets⟩
        · cases reached

def Destination.answer (endpoint : Endpoint) (request : Request) (database : Database) :
    Destination -> Outcome Empty (Response × Database)
  | .nowhere => .done (Response.bare 404, database)
  | .refused allowed => .done ({ Response.bare 405 with allow := some allowed }, database)
  | .reached kind captures headOnly =>
      (concluded endpoint.resource.entity database
        (staged endpoint request captures kind (database.backing endpoint.resource.entity))).map
          fun answer => (if headOnly then answer.1.head else answer.1, answer.2)

theorem route_lookup (stop : Stop) (method : String) :
    (stop.route endpoint).methods.lookup method =
      (stop.methods.lookup method).map (Autocommit.handler endpoint) := by
  unfold Stop.route
  induction stop.methods with
  | nil => rfl
  | cons entry rest claim =>
      rw [List.map_cons, List.lookup_cons, List.lookup_cons, claim]
      cases method == entry.1 <;> rfl

theorem handle_destination {router : Router} (built : (Rest.router endpoint).outcome = .done router)
    (database : Database) :
    (router.handle request database).outcome =
      (destination endpoint.resource request).answer endpoint request database := by
  have found := find_stop (router_stops built) request.path
  unfold Router.handle destination
  rw [found]
  cases sought : stopFor (stops endpoint.resource) request.path with
  | none => rfl
  | some pair =>
      obtain ⟨stop, captures⟩ := pair
      have member := stop_for_member sought
      dsimp only [Option.map_some]
      rw [route_lookup, route_lookup]
      cases asked : stop.methods.lookup request.method with
      | some kind =>
          obtain ⟨offered, _⟩ := stops_offered member asked
          dsimp only [Option.map_some]
          rw [handler_staged kind offered]
          unfold Destination.answer
          dsimp only
          cases concluded endpoint.resource.entity database (staged endpoint request captures kind
            (database.backing endpoint.resource.entity)) <;> rfl
      | none =>
          dsimp only [Option.map_none]
          split
          · next handler isHead gets =>
              obtain ⟨kind, asked, rfl⟩ := Option.map_eq_some_iff.mp gets
              obtain ⟨offered, _⟩ := stops_offered member asked
              rw [if_pos isHead, asked, Attempt.outcome_bind, handler_staged kind offered]
              unfold Destination.answer
              dsimp only
              cases concluded endpoint.resource.entity database (staged endpoint request captures
                kind (database.backing endpoint.resource.entity)) <;> rfl
          · next other =>
              have unasked : (if request.method = "HEAD" then stop.methods.lookup "GET" else none) =
                  none := by
                cases gets : stop.methods.lookup "GET" with
                | none => exact ite_self none
                | some kind =>
                    apply if_neg
                    intro isHead
                    exact other _ isHead (congrArg _ gets)
              rw [unasked]
              unfold Destination.answer Router.allowText Stop.route
              dsimp only
              rw [List.map_map]
              rfl

end Answers

end Rest
end GatedResources
