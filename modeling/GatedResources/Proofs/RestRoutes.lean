import GatedResources.Proofs.Databases
import GatedResources.Proofs.RestService

/-!
# What a request asks over HTTP

The operation of a request is told by its path, its method and its arguments, without a look at
any handler. The router of a resource has at most two routes, and every handler that it finds for
a request does the operation that the request asks for. As in all that is said of requests over
HTTP, a body is one that the server takes: the two megabytes it takes by default are no condition
of the statements.
-/

namespace GatedResources

namespace Router

theorem route_new {router added : Router} {path : String} {methods : List (String × Handler)}
    (built : router.route path methods = some added)
    (new : ∀ held ∈ router.routes, held.path ≠ path) :
    ∃ pattern, Pattern.parse path = some pattern ∧
      added = ⟨router.routes ++ [⟨path, pattern, methods⟩]⟩ := by
  have absent : (router.routes.any fun held => held.path == path) = false := by
    rw [List.any_eq_false]
    intro held member same
    exact new held member (eq_of_beq same)
  unfold route at built
  cases read : Pattern.parse path with
  | none =>
      rw [read] at built
      cases built
  | some pattern =>
      rw [read] at built
      simp only [absent, Bool.false_eq_true, if_false] at built
      split at built
      · cases built
      · cases built
        exact ⟨pattern, rfl, rfl⟩

/-- A route that the router finds for a path is one of its routes, and its pattern matches. -/
theorem find_some {router : Router} {path : String} {found : Route} {captures : Captures}
    (sought : router.find? path = some (found, captures)) :
    found ∈ router.routes ∧ Pattern.matchPath found.pattern path.toList = some captures := by
  have all : ∀ held taken, router.find? path = some (held, taken) →
      held ∈ router.routes ∧ Pattern.matchPath held.pattern path.toList = some taken := by
    unfold find?
    apply List.foldlRecOn (motive := fun best : Option (Route × Captures) => ∀ held taken,
      best = some (held, taken) →
        held ∈ router.routes ∧ Pattern.matchPath held.pattern path.toList = some taken)
    · intro held taken impossible
      cases impossible
    · intro best claim route member held taken same
      split at same
      · exact claim held taken same
      · next fits =>
          cases same
          exact ⟨member, fits⟩
      · next fits =>
          split at same
          · cases same
            exact ⟨member, fits⟩
          · exact claim held taken same
  exact all found captures sought

end Router

namespace Rest

def collectionPath (name : String) : String :=
  "/" ++ name

def itemPath (name : String) : String :=
  "/" ++ name ++ "/\x7bid\x7d"

def Fits (template path : String) (captures : Captures) : Prop :=
  ∃ pattern, Pattern.parse template = some pattern ∧
    Pattern.matchPath pattern path.toList = some captures

def Names (captures : Captures) (identifier : Int) : Prop :=
  ∃ name value symbols, captures.getLast? = some (name, value) ∧
    Utf8.decode (Percent.decode value) = some symbols ∧
    Integer.parseSigned 64 symbols = .ok identifier

def Carries (request : Request) (members : List (String × Json)) : Prop :=
  ContentType.saysJson request.headers = true ∧
    Json.parse request.body = some (.object members)

/-- What a request asks of the resource of a name. -/
inductive Asks (name : String) (request : Request) : Operation -> Prop where
  | findAll {captures : Captures} {wanted : ListRequest}
      (path : Fits (collectionPath name) request.path captures)
      (method : request.method = "GET" ∨ request.method = "HEAD")
      (read : readListRequest request.query = .ok wanted) : Asks name request (.findAll wanted)
  | create {captures : Captures} {input : List (String × Json)}
      (path : Fits (collectionPath name) request.path captures)
      (method : request.method = "POST")
      (read : Carries request input) : Asks name request (.create input)
  | removeMany {captures : Captures} {wanted : FilterRequest}
      (path : Fits (collectionPath name) request.path captures)
      (method : request.method = "DELETE")
      (read : readFilterRequest request.query = .ok wanted) :
      Asks name request (.removeMany wanted)
  | findOne {captures : Captures} {identifier : Int}
      (path : Fits (itemPath name) request.path captures)
      (method : request.method = "GET" ∨ request.method = "HEAD")
      (named : Names captures identifier) : Asks name request (.findOne identifier)
  | update {captures : Captures} {identifier : Int} {patch : List (String × Json)}
      (path : Fits (itemPath name) request.path captures)
      (method : request.method = "PATCH")
      (named : Names captures identifier)
      (read : Carries request patch) : Asks name request (.update identifier patch)
  | remove {captures : Captures} {identifier : Int}
      (path : Fits (itemPath name) request.path captures)
      (method : request.method = "DELETE")
      (named : Names captures identifier) : Asks name request (.remove identifier)

theorem Asks.finds {name : String} {request : Request} {operation : Operation}
    (asks : Asks name request operation)
    (method : request.method = "GET" ∨ request.method = "HEAD") : operation.action = .find := by
  cases asks with
  | findAll | findOne => rfl
  | create _ other | removeMany _ other | update _ other | remove _ other =>
      rw [other] at method
      simp at method

def IsRoute (path : String) (methods : List (String × Handler)) (routes : List Route) : Prop :=
  (methods = [] ∧ routes = []) ∨
    ∃ pattern, Pattern.parse path = some pattern ∧ routes = [⟨path, pattern, methods⟩]

theorem add_route_appends {path : String} {methods : List (String × Handler)}
    {router added : Router} (built : addRoute path methods router = some added)
    (new : ∀ held ∈ router.routes, held.path ≠ path) :
    ∃ routes, IsRoute path methods routes ∧ added.routes = router.routes ++ routes := by
  unfold addRoute at built
  by_cases nothing : methods.isEmpty = true
  · rw [if_pos nothing] at built
    cases built
    exact ⟨[], .inl ⟨List.isEmpty_iff.mp nothing, rfl⟩, (List.append_nil _).symm⟩
  · rw [if_neg nothing] at built
    obtain ⟨pattern, read, same⟩ := Router.route_new built new
    subst same
    exact ⟨[⟨path, pattern, methods⟩], .inr ⟨pattern, read, rfl⟩, rfl⟩

theorem item_path_differs (name : String) : collectionPath name ≠ itemPath name := by
  intro same
  have lengths := congrArg String.length same
  simp [collectionPath, itemPath] at lengths

/-- The router of a resource is made of the route for its records and the one for each of them. -/
theorem router_added {endpoint : Endpoint} {router : Router}
    (built : (Rest.router endpoint).outcome = .done router) :
    ∃ between, addRoute (collectionPath endpoint.resource.options.name) (collection endpoint)
        Router.empty = some between ∧
      addRoute (itemPath endpoint.resource.options.name) (item endpoint) between =
        some router := by
  apply Option.bind_eq_some_iff.mp
  unfold Rest.router at built
  dsimp only at built
  unfold collectionPath itemPath
  split at built
  · cases built
  · next found routed =>
      cases built
      exact routed

theorem router_routes {endpoint : Endpoint} {router : Router}
    (built : (Rest.router endpoint).outcome = .done router) :
    ∃ first second, router.routes = first ++ second ∧
      IsRoute (collectionPath endpoint.resource.options.name) (collection endpoint) first ∧
      IsRoute (itemPath endpoint.resource.options.name) (item endpoint) second := by
  obtain ⟨between, firstBuilt, secondBuilt⟩ := router_added built
  obtain ⟨first, isFirst, firstRoutes⟩ := add_route_appends firstBuilt (by
    intro held member
    cases member)
  have firstOnly : between.routes = first := firstRoutes
  obtain ⟨second, isSecond, secondRoutes⟩ := add_route_appends secondBuilt (by
    intro held member
    rw [firstOnly] at member
    rcases isFirst with ⟨_, empty⟩ | ⟨pattern, _, only⟩
    · rw [empty] at member
      cases member
    · rw [only] at member
      rw [List.mem_singleton.mp member]
      exact item_path_differs _)
  exact ⟨first, second, by rw [secondRoutes, firstOnly], isFirst, isSecond⟩

theorem is_route_methods {path : String} {methods : List (String × Handler)}
    {routes : List Route} {route : Route} (isRoute : IsRoute path methods routes)
    (member : route ∈ routes) :
    route.methods = methods ∧ Pattern.parse path = some route.pattern := by
  rcases isRoute with ⟨_, empty⟩ | ⟨pattern, read, only⟩
  · rw [empty] at member
    cases member
  · rw [only] at member
    rw [List.mem_singleton.mp member]
    exact ⟨rfl, read⟩

section Requests

variable {endpoint : Endpoint} {request : Request} {captures : Captures}
  {database after : Database} {response : Response}

theorem content_of_carries {members : List (String × Json)} (carries : Carries request members) :
    content request = .succeed members := by
  unfold content
  rw [if_pos carries.1, carries.2]

theorem content_eq_done {members : List (String × Json)}
    (read : (content request).outcome = .done members) : Carries request members := by
  unfold content at read
  by_cases isJson : ContentType.saysJson request.headers = true
  · rw [if_pos isJson] at read
    split at read
    · next held parsed =>
        cases read
        exact ⟨isJson, parsed⟩
    · cases read
    · cases read
  · rw [if_neg isJson] at read
    cases read

theorem queried_eq_done {α : Type} {result : Except QueryFault α} {value : α}
    (read : (queried result).outcome = .done value) : result = .ok value := by
  cases result with
  | ok held =>
      cases read
      rfl
  | error fault => cases read

theorem identifier_eq_done {wanted : Int} (read : (identifier captures).outcome = .done wanted) :
    identifier captures = .succeed wanted ∧ Names captures wanted := by
  unfold identifier at read ⊢
  dsimp only at read ⊢
  split at read
  · cases read
  · next name value whole =>
      have decoded : ∃ symbols, Utf8.decode (Percent.decode value) = some symbols := by
        unfold brokenName at whole
        cases found : Utf8.decode (Percent.decode value) with
        | some symbols => exact ⟨symbols, rfl⟩
        | none => simp [found] at whole
      obtain ⟨symbols, decoded⟩ := decoded
      rw [decoded, Option.getD_some] at read ⊢
      split at read
      · next held parsed =>
          cases read
          exact ⟨rfl, name, value, symbols, rfl, decoded, parsed⟩
      · cases read
  · cases read

def Followed (endpoint : Endpoint) (request : Request) (database after : Database) : Prop :=
  after = database ∨ ∃ operation offered response,
    Asks endpoint.resource.options.name request operation ∧
      served endpoint (Bearer.credential request.headers) database operation offered =
        .done (response, after)

/-- A handler leaves the database alone unless its operation ends well. -/
theorem answering_followed {steps : Request -> Captures -> Steps Problem Response}
    (done : (answering endpoint steps request captures database).outcome =
      .done (response, after))
    (claim : ∀ answer,
      ((steps request captures).run (database.backing endpoint.resource.entity)).outcome =
        .done answer → Followed endpoint request database after) :
    Followed endpoint request database after := by
  rw [answering_outcome] at done
  cases ended :
      ((steps request captures).run (database.backing endpoint.resource.entity)).outcome with
  | done answer => exact claim answer ended
  | failed problem =>
      rw [ended] at done
      cases done
      exact .inl rfl
  | crashed =>
      rw [ended] at done
      cases done

theorem offering_member {action : Action} {entry offered : String × Handler}
    (member : entry ∈ if endpoint.resource.offers action then [offered] else []) :
    endpoint.resource.options.isHidden action = false ∧ entry = offered := by
  split at member
  · next visible =>
      unfold Resource.offers at visible
      rw [Bool.not_eq_true'] at visible
      exact ⟨visible, List.mem_singleton.mp member⟩
  · cases member

theorem collection_followed {method : String} {handler : Handler}
    (member : (method, handler) ∈ collection endpoint)
    (asked : request.method = method ∨ (method = "GET" ∧ request.method = "HEAD"))
    (path : Fits (collectionPath endpoint.resource.options.name) request.path captures)
    (done : (handler request captures database).outcome = .done (response, after)) :
    Followed endpoint request database after := by
  unfold collection at member
  dsimp only at member
  rcases List.mem_append.mp member with member | removes
  · rcases List.mem_append.mp member with finds | creates
    · obtain ⟨offered, same⟩ := offering_member finds
      cases same
      apply answering_followed done
      intro _ ended
      obtain ⟨wanted, read, _⟩ := Steps.doing_eq_done.mp ended
      have read := queried_eq_done read
      rw [find_all_served read offered] at done
      exact .inr ⟨.findAll wanted, offered, response,
        .findAll path (asked.imp_right And.right) read, done⟩
    · obtain ⟨offered, same⟩ := offering_member creates
      cases same
      apply answering_followed done
      intro _ ended
      obtain ⟨_, _, ended⟩ := Steps.doing_eq_done.mp ended
      obtain ⟨input, read, _⟩ := Steps.doing_eq_done.mp ended
      have carries := content_eq_done read
      rw [create_one_served (content_of_carries carries) offered] at done
      exact .inr ⟨.create input, offered, response,
        .create path (asked.resolve_right (by simp)) carries, done⟩
  · obtain ⟨offered, same⟩ := offering_member removes
    cases same
    apply answering_followed done
    intro _ ended
    obtain ⟨wanted, read, _⟩ := Steps.doing_eq_done.mp ended
    have read := queried_eq_done read
    rw [remove_many_served read offered] at done
    exact .inr ⟨.removeMany wanted, offered, response,
      .removeMany path (asked.resolve_right (by simp)) read, done⟩

theorem item_followed {method : String} {handler : Handler}
    (member : (method, handler) ∈ item endpoint)
    (asked : request.method = method ∨ (method = "GET" ∧ request.method = "HEAD"))
    (path : Fits (itemPath endpoint.resource.options.name) request.path captures)
    (done : (handler request captures database).outcome = .done (response, after)) :
    Followed endpoint request database after := by
  unfold item at member
  dsimp only at member
  rcases List.mem_append.mp member with member | removes
  · rcases List.mem_append.mp member with finds | updates
    · obtain ⟨offered, same⟩ := offering_member finds
      cases same
      apply answering_followed done
      intro _ ended
      obtain ⟨wanted, read, _⟩ := Steps.doing_eq_done.mp ended
      obtain ⟨succeeds, names⟩ := identifier_eq_done read
      rw [find_one_served succeeds offered] at done
      exact .inr ⟨.findOne wanted, offered, response,
        .findOne path (asked.imp_right And.right) names, done⟩
    · obtain ⟨offered, same⟩ := offering_member updates
      cases same
      apply answering_followed done
      intro _ ended
      obtain ⟨wanted, read, ended⟩ := Steps.doing_eq_done.mp ended
      obtain ⟨succeeds, names⟩ := identifier_eq_done read
      obtain ⟨_, _, ended⟩ := Steps.doing_eq_done.mp ended
      obtain ⟨patch, read, _⟩ := Steps.doing_eq_done.mp ended
      have carries := content_eq_done read
      rw [update_one_served succeeds (content_of_carries carries) offered] at done
      exact .inr ⟨.update wanted patch, offered, response,
        .update path (asked.resolve_right (by simp)) names carries, done⟩
  · obtain ⟨offered, same⟩ := offering_member removes
    cases same
    apply answering_followed done
    intro _ ended
    obtain ⟨wanted, read, _⟩ := Steps.doing_eq_done.mp ended
    obtain ⟨succeeds, names⟩ := identifier_eq_done read
    rw [remove_served succeeds offered] at done
    exact .inr ⟨.remove wanted, offered, response,
      .remove path (asked.resolve_right (by simp)) names, done⟩

theorem lookup_member {methods : List (String × Handler)} {method : String} {handler : Handler}
    (found : methods.lookup method = some handler) : (method, handler) ∈ methods := by
  obtain ⟨front, back, split, _⟩ := List.lookup_eq_some_iff.mp found
  rw [split]
  exact List.mem_append_right _ List.mem_cons_self

/-- Whatever the router does with a request, the request asked for it. -/
theorem router_followed {router : Router} (built : (Rest.router endpoint).outcome = .done router)
    (done : (router.handle request database).outcome = .done (response, after)) :
    Followed endpoint request database after := by
  obtain ⟨first, second, routes, isFirst, isSecond⟩ := router_routes built
  have handled : ∀ {route : Route} {captures : Captures} {method : String} {handler : Handler}
      {response : Response}, router.find? request.path = some (route, captures) →
      route.methods.lookup method = some handler →
      (request.method = method ∨ (method = "GET" ∧ request.method = "HEAD")) →
      (handler request captures database).outcome = .done (response, after) →
      Followed endpoint request database after := by
    intro route captures method handler response sought found asked done
    obtain ⟨member, fits⟩ := Router.find_some sought
    have served := lookup_member found
    rw [routes] at member
    rcases List.mem_append.mp member with inFirst | inSecond
    · obtain ⟨methods, read⟩ := is_route_methods isFirst inFirst
      rw [methods] at served
      exact collection_followed served asked ⟨route.pattern, read, fits⟩ done
    · obtain ⟨methods, read⟩ := is_route_methods isSecond inSecond
      rw [methods] at served
      exact item_followed served asked ⟨route.pattern, read, fits⟩ done
  unfold Router.handle at done
  split at done
  · cases done
    exact .inl rfl
  · next route captures sought =>
      split at done
      · next handler found => exact handled sought found (.inl rfl) done
      · split at done
        · next handler isHead found =>
            rw [Attempt.outcome_bind] at done
            obtain ⟨⟨whole, left⟩, ended, finished⟩ := Outcome.bind_eq_done.mp done
            cases finished
            exact handled sought found (.inr ⟨rfl, isHead⟩) ended
        · cases done
          exact .inl rfl

end Requests

end Rest
end GatedResources
