import GatedResources.Proofs.LiteralNames
import GatedResources.Proofs.RestRoutes

/-!
# Requests that are served over HTTP

The paths of a resource whose name has no named parts are told apart, and the path of a record
names nothing but its identifier. So whatever a request asks of such a resource is done.
-/

namespace GatedResources

namespace Router

theorem handle_found {router : Router} {request : Request} {route : Route} {captures : Captures}
    {handler : Handler} (found : router.find? request.path = some (route, captures))
    (method : route.methods.lookup request.method = some handler) (database : Database) :
    router.handle request database = handler request captures database := by
  unfold handle
  rw [found]
  dsimp only
  rw [method]

theorem find_first {first second : Route} {path : String} {captures : Captures}
    (fits : Pattern.matchPath first.pattern path.toList = some captures)
    (other : Pattern.matchPath second.pattern path.toList = none) :
    Router.find? ⟨[first, second]⟩ path = some (first, captures) := by
  unfold find?
  simp only [List.foldl_cons, List.foldl_nil, fits, other]

theorem find_second {first second : Route} {path : String} {captures : Captures}
    (other : Pattern.matchPath first.pattern path.toList = none)
    (fits : Pattern.matchPath second.pattern path.toList = some captures) :
    Router.find? ⟨[first, second]⟩ path = some (second, captures) := by
  unfold find?
  simp only [List.foldl_cons, List.foldl_nil, fits, other]

end Router

namespace Rest

/-- The name of a resource has no named parts where it stands in paths. -/
def IsLiteralName (name : String) : Prop :=
  ∃ pattern, Pattern.parse (collectionPath name) = some pattern ∧ Pattern.IsLiteral pattern

section Visible

variable {endpoint : Endpoint}
  (visible : ∀ action, endpoint.resource.options.isHidden action = false)

include visible

theorem collection_visible : collection endpoint =
    [("GET", answering endpoint (findAll endpoint)),
      ("POST", answering endpoint (createOne endpoint)),
      ("DELETE", answering endpoint (removeMany endpoint))] := by
  simp [collection, Resource.offers, visible]

theorem item_visible : item endpoint =
    [("GET", answering endpoint (findOne endpoint)),
      ("PATCH", answering endpoint (updateOne endpoint)),
      ("DELETE", answering endpoint (remove endpoint))] := by
  simp [item, Resource.offers, visible]

/-- With all actions offered and a literal name there are two routes, and the second one goes on
where the first one ends. -/
theorem literal_routes {router : Router}
    (built : (Rest.router endpoint).outcome = .done router)
    (literal : IsLiteralName endpoint.resource.options.name) :
    ∃ pattern, Pattern.IsLiteral pattern ∧
      Pattern.parse (collectionPath endpoint.resource.options.name) = some pattern ∧
      Pattern.parse (itemPath endpoint.resource.options.name) =
        some (pattern ++ [.symbol '/', .segment ['i', 'd']]) ∧
      router = ⟨[
        ⟨collectionPath endpoint.resource.options.name, pattern, collection endpoint⟩,
        ⟨itemPath endpoint.resource.options.name, pattern ++ [.symbol '/', .segment ['i', 'd']],
          item endpoint⟩]⟩ := by
  obtain ⟨pattern, read, isLiteral⟩ := literal
  obtain ⟨first, second, routes, isFirst, isSecond⟩ := router_routes built
  rcases isFirst with ⟨none, _⟩ | ⟨firstPattern, firstRead, firstIs⟩
  · rw [collection_visible visible] at none
    cases none
  rcases isSecond with ⟨none, _⟩ | ⟨secondPattern, secondRead, secondIs⟩
  · rw [item_visible visible] at none
    cases none
  rw [read] at firstRead
  cases firstRead
  have goesOn := Pattern.parse_literal_item isLiteral read secondRead
  subst goesOn
  refine ⟨pattern, isLiteral, read, secondRead, ?_⟩
  rw [firstIs, secondIs] at routes
  cases router
  cases routes
  rfl

end Visible

section Paths

variable {pattern : Pattern} {path : List Char} {captures : Captures}

theorem collection_match (literal : Pattern.IsLiteral pattern)
    (fits : Pattern.matchPath pattern path = some captures) :
    path = Pattern.spelling pattern := by
  rw [← List.append_nil pattern] at fits
  obtain ⟨rest, same, ends⟩ := (Pattern.match_literal literal [] path captures).mp fits
  cases rest with
  | nil => rw [same, List.append_nil]
  | cons symbol later => cases ends

theorem item_match (literal : Pattern.IsLiteral pattern)
    (fits : Pattern.matchPath (pattern ++ [.symbol '/', .segment ['i', 'd']]) path =
      some captures) :
    path ≠ Pattern.spelling pattern ∧ ∃ value, captures = [(['i', 'd'], value)] := by
  obtain ⟨rest, same, ends⟩ := (Pattern.match_literal literal _ path captures).mp fits
  obtain ⟨value, nonempty, only⟩ := Pattern.match_item ends
  refine ⟨?_, value, only⟩
  intro spelled
  rw [spelled] at same
  exact nonempty (List.append_right_eq_self.mp same.symm)

theorem collection_alone (literal : Pattern.IsLiteral pattern)
    (fits : Pattern.matchPath pattern path = some captures) :
    Pattern.matchPath (pattern ++ [.symbol '/', .segment ['i', 'd']]) path = none := by
  cases other : Pattern.matchPath (pattern ++ [.symbol '/', .segment ['i', 'd']]) path with
  | none => rfl
  | some held => exact absurd (collection_match literal fits) (item_match literal other).1

theorem item_alone (literal : Pattern.IsLiteral pattern)
    (fits : Pattern.matchPath (pattern ++ [.symbol '/', .segment ['i', 'd']]) path =
      some captures) :
    Pattern.matchPath pattern path = none := by
  cases other : Pattern.matchPath pattern path with
  | none => rfl
  | some held => exact absurd (collection_match literal other) (item_match literal fits).1

end Paths

theorem identifier_of_names {name value : List Char} {wanted : Int}
    (names : Names [(name, value)] wanted) : identifier [(name, value)] = .succeed wanted := by
  obtain ⟨held, text, symbols, last, decoded, parsed⟩ := names
  cases last
  unfold identifier brokenName
  simp [decoded, parsed]

section Asked

variable {endpoint : Endpoint} {router : Router} {request : Request} {database : Database}
  {operation : Operation}
  (visible : ∀ action, endpoint.resource.options.isHidden action = false)
  (literal : IsLiteralName endpoint.resource.options.name)
  (built : (Rest.router endpoint).outcome = .done router)

include visible literal built

theorem collection_handled {captures : Captures} {handler : Handler}
    (path : Fits (collectionPath endpoint.resource.options.name) request.path captures)
    (method : (collection endpoint).lookup request.method = some handler) :
    router.handle request database = handler request captures database := by
  obtain ⟨pattern, isLiteral, read, _, same⟩ := literal_routes visible built literal
  obtain ⟨held, readHeld, fits⟩ := path
  rw [read] at readHeld
  cases readHeld
  subst same
  exact Router.handle_found (Router.find_first fits (collection_alone isLiteral fits)) method
    database

/-- A request on the path of a record gets to the handler of its method, and names one part. -/
theorem item_handled {captures : Captures} {handler : Handler}
    (path : Fits (itemPath endpoint.resource.options.name) request.path captures)
    (method : (item endpoint).lookup request.method = some handler) :
    router.handle request database = handler request captures database ∧
      ∃ value, captures = [(['i', 'd'], value)] := by
  obtain ⟨pattern, isLiteral, _, read, same⟩ := literal_routes visible built literal
  obtain ⟨held, readHeld, fits⟩ := path
  rw [read] at readHeld
  cases readHeld
  subst same
  exact ⟨Router.handle_found (Router.find_second (item_alone isLiteral fits) fits) method database,
    (item_match isLiteral fits).2⟩

/-- Whatever a request for the whole answer asks is done. -/
theorem router_asked (asks : Asks endpoint.resource.options.name request operation)
    (whole : request.method ≠ "HEAD") :
    (router.handle request database).outcome =
      served endpoint (Bearer.credential request.headers) database operation
        (visible operation.action) := by
  cases asks with
  | findAll path method read =>
      have handled : (collection endpoint).lookup request.method =
          some (answering endpoint (findAll endpoint)) := by
        rw [collection_visible visible, method.resolve_right whole]
        rfl
      rw [collection_handled visible literal built path handled]
      exact find_all_served read _
  | create path method read =>
      have handled : (collection endpoint).lookup request.method =
          some (answering endpoint (createOne endpoint)) := by
        rw [collection_visible visible, method]
        rfl
      rw [collection_handled visible literal built path handled]
      exact create_one_served (content_of_carries read) _
  | removeMany path method read =>
      have handled : (collection endpoint).lookup request.method =
          some (answering endpoint (removeMany endpoint)) := by
        rw [collection_visible visible, method]
        rfl
      rw [collection_handled visible literal built path handled]
      exact remove_many_served read _
  | findOne path method named =>
      have handled : (item endpoint).lookup request.method =
          some (answering endpoint (findOne endpoint)) := by
        rw [item_visible visible, method.resolve_right whole]
        rfl
      obtain ⟨answered, value, only⟩ := item_handled visible literal built path handled
      subst only
      rw [answered]
      exact find_one_served (identifier_of_names named) _
  | update path method named read =>
      have handled : (item endpoint).lookup request.method =
          some (answering endpoint (updateOne endpoint)) := by
        rw [item_visible visible, method]
        rfl
      obtain ⟨answered, value, only⟩ := item_handled visible literal built path handled
      subst only
      rw [answered]
      exact update_one_served (identifier_of_names named) (content_of_carries read) _
  | remove path method named =>
      have handled : (item endpoint).lookup request.method =
          some (answering endpoint (remove endpoint)) := by
        rw [item_visible visible, method]
        rfl
      obtain ⟨answered, value, only⟩ := item_handled visible literal built path handled
      subst only
      rw [answered]
      exact remove_served (identifier_of_names named) _

end Asked

end Rest
end GatedResources
