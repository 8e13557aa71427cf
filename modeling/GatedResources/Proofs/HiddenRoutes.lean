import GatedResources.Proofs.Destinations
import GatedResources.Proofs.NestedPaths

/-!
# Paths with hidden actions

Hiding actions takes methods away from the two paths of a resource, and a path with its last
method. The path of a request alone tells which methods are in question, so that what is left goes
where it went before.
-/

namespace GatedResources

namespace ResourceOptions

def withHidden (options : ResourceOptions) (actions : List Action) : ResourceOptions :=
  { options with hidden := actions }

theorem hide_all (options : ResourceOptions) (actions : List Action) :
    ∃ held, actions.foldl hide options = options.withHidden held ∧
      ∀ action, action ∈ held ↔ action ∈ options.hidden ∨ action ∈ actions := by
  induction actions generalizing options with
  | nil => exact ⟨options.hidden, rfl, fun action => by simp⟩
  | cons first rest claim =>
      obtain ⟨held, same, members⟩ := claim (options.hide first)
      refine ⟨held, ?_, ?_⟩
      · rw [List.foldl_cons, same]
        unfold hide
        by_cases already : first ∈ options.hidden
        · rw [if_pos already]
        · rw [if_neg already]
          rfl
      · intro action
        have hides : action ∈ (options.hide first).hidden ↔
            action ∈ options.hidden ∨ action = first := by
          unfold hide
          by_cases already : first ∈ options.hidden
          · rw [if_pos already]
            constructor
            · exact .inl
            · rintro (inside | rfl)
              · exact inside
              · exact already
          · rw [if_neg already]
            simp
        rw [members, hides, List.mem_cons, or_assoc]

end ResourceOptions

section Hiding

variable {entity : Entity} {options : ResourceOptions} {held : List Action} {action : Action}

theorem offers_with_hidden : Resource.offers ⟨entity, options.withHidden held⟩ action = true ↔
    action ∉ held := by
  unfold Resource.offers ResourceOptions.isHidden ResourceOptions.withHidden
  rw [Bool.not_eq_true', decide_eq_false_iff_not]

theorem offers_visible (visible : options.hidden = []) :
    Resource.offers ⟨entity, options⟩ action = true := by
  simp [Resource.offers, ResourceOptions.isHidden, visible]

end Hiding

namespace Rest

/-- The operation that a method asks for, and whether only for its head. -/
def sought (methods : List (String × RootOperation)) (method : String) :
    Option (RootOperation × Bool) :=
  match methods.lookup method with
  | some kind => some (kind, false)
  | none => (if method = "HEAD" then methods.lookup "GET" else none).map fun kind => (kind, true)

def arrival (methods : List (String × RootOperation)) (method : String) (captures : Captures) :
    Destination :=
  match sought methods method with
  | some (kind, headOnly) => .reached kind captures headOnly
  | none => .refused (",".intercalate (methods.map fun entry =>
      if entry.1 = "GET" then "GET,HEAD" else entry.1))

theorem destination_arrival (resource : Resource) (request : Request) :
    destination resource request =
      match stopFor (stops resource) request.path with
      | none => .nowhere
      | some (stop, captures) => arrival stop.methods request.method captures := by
  unfold destination arrival sought
  cases stopFor (stops resource) request.path with
  | none => rfl
  | some found =>
      dsimp only
      cases found.1.methods.lookup request.method with
      | some kind => rfl
      | none =>
          dsimp only
          cases if request.method = "HEAD" then found.1.methods.lookup "GET" else none <;> rfl

theorem arrival_reached {methods : List (String × RootOperation)} {method : String}
    {taken captures : Captures} {kind : RootOperation} {headOnly : Bool} :
    arrival methods method taken = .reached kind captures headOnly ↔
      sought methods method = some (kind, headOnly) ∧ taken = captures := by
  unfold arrival
  cases sought methods method with
  | none => simp
  | some found =>
      constructor
      · intro reached
        cases reached
        exact ⟨rfl, rfl⟩
      · rintro ⟨same, rfl⟩
        cases same
        rfl

theorem arrival_refused {methods : List (String × RootOperation)} {method : String}
    (unknown : sought methods method = none) (captures : Captures) :
    ∃ allowed, arrival methods method captures = .refused allowed := by
  unfold arrival
  rw [unknown]
  exact ⟨_, rfl⟩

theorem sought_filled {methods : List (String × RootOperation)} {method : String}
    {found : RootOperation × Bool} (asked : sought methods method = some found) :
    methods.isEmpty = false := by
  cases methods with
  | nil => simp [sought] at asked
  | cons entry rest => rfl

theorem lookup_kept {methods : List (String × RootOperation)}
    (distinct : (methods.map Prod.fst).Nodup) (keep : RootOperation -> Bool) (method : String) :
    (methods.filter fun entry => keep entry.2).lookup method =
      (methods.lookup method).filter keep := by
  induction methods with
  | nil => rfl
  | cons entry rest claim =>
      obtain ⟨name, kind⟩ := entry
      rw [List.map_cons, List.nodup_cons] at distinct
      have later := claim distinct.2
      rw [List.lookup_cons]
      by_cases same : method = name
      · subst same
        have absent : rest.lookup method = none := by
          rw [List.lookup_eq_none_iff]
          intro other inside
          rw [bne_iff_ne]
          intro same
          exact distinct.1 (List.mem_map.mpr ⟨other, inside, same.symm⟩)
        rw [absent] at later
        by_cases kept : keep kind = true
        · simp [Option.filter, kept]
        · simp [Option.filter, kept, later]
      · have differs : (method == name) = false := beq_eq_false_iff_ne.mpr same
        by_cases kept : keep kind = true
        · simp [kept, List.lookup_cons, differs, later]
        · simp [kept, differs, later]

/-- Taking operations away leaves the methods of the others, and no method for those. -/
theorem sought_kept {methods : List (String × RootOperation)}
    (distinct : (methods.map Prod.fst).Nodup) (noHead : methods.lookup "HEAD" = none)
    (keep : RootOperation -> Bool) {method : String} {kind : RootOperation} {headOnly : Bool}
    (asked : sought methods method = some (kind, headOnly)) :
    sought (methods.filter fun entry => keep entry.2) method =
      if keep kind then some (kind, headOnly) else none := by
  unfold sought at asked ⊢
  rw [lookup_kept distinct, lookup_kept distinct]
  cases own : methods.lookup method with
  | some held =>
      rw [own] at asked
      cases asked
      have notHead : method ≠ "HEAD" := by
        rintro rfl
        rw [noHead] at own
        cases own
      rw [Option.filter_some]
      by_cases keeps : keep kind = true
      · rw [if_pos keeps, if_pos keeps]
      · rw [if_neg keeps, if_neg keeps, if_neg notHead]
        rfl
  | none =>
      rw [own] at asked
      obtain ⟨held, gets, same⟩ := Option.map_eq_some_iff.mp asked
      cases same
      obtain ⟨isHead, gets⟩ := Option.ite_none_right_eq_some.mp gets
      rw [Option.filter_none, if_pos isHead, gets, Option.filter_some]
      by_cases keeps : keep kind = true
      · rw [if_pos keeps, if_pos keeps]
        rfl
      · rw [if_neg keeps, if_neg keeps]
        rfl

section Patterns

variable {endpoint : Endpoint} {router : Router} {collectionPattern itemPattern : Pattern}

/-- The router of a resource that can be found has both of its paths. -/
theorem router_patterns (built : (Rest.router endpoint).outcome = .done router)
    (finds : endpoint.resource.offers .find = true) :
    ∃ collectionPattern itemPattern,
      Pattern.parse (collectionPath endpoint.resource.options.name) = some collectionPattern ∧
      Pattern.parse (itemPath endpoint.resource.options.name) = some itemPattern := by
  obtain ⟨between, firstBuilt, secondBuilt⟩ := router_added built
  have collected : (collection endpoint).isEmpty = false := by simp [collection, finds]
  have single : (item endpoint).isEmpty = false := by simp [item, finds]
  unfold addRoute at firstBuilt secondBuilt
  rw [collected, if_neg Bool.false_ne_true] at firstBuilt
  rw [single, if_neg Bool.false_ne_true] at secondBuilt
  obtain ⟨pattern, read, rfl⟩ := Router.route_new firstBuilt fun held member => nomatch member
  have new : ∀ held ∈ (Router.mk (Router.empty.routes ++ [⟨collectionPath
      endpoint.resource.options.name, pattern, collection endpoint⟩])).routes,
      held.path ≠ itemPath endpoint.resource.options.name := by
    intro held member
    rw [List.mem_singleton.mp member]
    exact item_path_differs _
  obtain ⟨itemPattern, readItem, -⟩ := Router.route_new secondBuilt new
  exact ⟨pattern, itemPattern, read, readItem⟩

/-- A resource whose two paths are patterns has a router, whatever it hides. -/
theorem router_builds
    (read : Pattern.parse (collectionPath endpoint.resource.options.name) =
      some collectionPattern)
    (readItem : Pattern.parse (itemPath endpoint.resource.options.name) = some itemPattern) :
    ∃ router, (Rest.router endpoint).outcome = .done router := by
  obtain ⟨bounded, parts⟩ := item_pattern read readItem
  have apart : Pattern.conflicts collectionPattern itemPattern = false := by
    rw [parts]
    exact Pattern.conflicts_append bounded _ _
  have differs := item_path_differs endpoint.resource.options.name
  have routed : ∃ router, ((addRoute (collectionPath endpoint.resource.options.name)
      (collection endpoint) Router.empty).bind fun between =>
        addRoute (itemPath endpoint.resource.options.name) (item endpoint) between) =
          some router := by
    unfold addRoute
    by_cases noCollection : (collection endpoint).isEmpty = true
    · rw [if_pos noCollection]
      by_cases noItem : (item endpoint).isEmpty = true
      · simp [noItem]
      · simp [noItem, Router.route, Router.empty, readItem]
    · rw [if_neg noCollection]
      by_cases noItem : (item endpoint).isEmpty = true
      · simp [noItem, Router.route, Router.empty, read]
      · simp [noItem, Router.route, Router.empty, read, readItem, differs, apart]
  obtain ⟨router, routed⟩ := routed
  refine ⟨router, ?_⟩
  unfold Rest.router
  dsimp only
  split
  · next missing => cases missing.symm.trans routed
  · next found has =>
      cases has.symm.trans routed
      rfl

end Patterns

section Paths

variable {resource : Resource} {path : String} {captures : Captures}

def nearer (path : String) (best : Option (Stop × Captures)) (stop : Stop) :
    Option (Stop × Captures) :=
  match Pattern.matchPath stop.pattern path.toList, best with
  | none, best => best
  | some captures, none => some (stop, captures)
  | some captures, some held =>
      if Pattern.precedes stop.pattern held.1.pattern then some (stop, captures) else some held

theorem stop_for_nearer (stops : List Stop) (path : String) :
    stopFor stops path = stops.foldl (nearer path) none := rfl

/-- Stops that a path does not fit are passed over. -/
theorem nearer_unfit {stops : List Stop}
    (unfit : ∀ stop ∈ stops, Pattern.matchPath stop.pattern path.toList = none)
    (best : Option (Stop × Captures)) : stops.foldl (nearer path) best = best := by
  induction stops generalizing best with
  | nil => rfl
  | cons stop rest claim =>
      have kept : nearer path best stop = best := by
        unfold nearer
        rw [unfit stop List.mem_cons_self]
      rw [List.foldl_cons, kept]
      exact claim (fun later member => unfit later (List.mem_cons_of_mem _ member)) best

def offered (resource : Resource) (methods : List (String × RootOperation)) :
    List (String × RootOperation) :=
  methods.filter fun entry => resource.offers entry.2.action

theorem stops_at_pattern {pattern : Pattern} (read : Pattern.parse path = some pattern)
    (methods : List (String × RootOperation)) :
    stopsAt resource path methods =
      if (offered resource methods).isEmpty then []
      else [⟨path, pattern, offered resource methods⟩] := by
  unfold stopsAt offered
  rw [read]
  cases methods.filter fun entry => resource.offers entry.2.action <;> rfl

theorem stops_at_unfit {pattern : Pattern} (read : Pattern.parse path = some pattern)
    {wanted : String} (unfit : Pattern.matchPath pattern wanted.toList = none)
    (methods : List (String × RootOperation)) :
    ∀ stop ∈ stopsAt resource path methods,
      Pattern.matchPath stop.pattern wanted.toList = none := by
  intro stop member
  rw [stops_at_pattern read] at member
  split at member
  · cases member
  · rw [List.mem_singleton.mp member]
    exact unfit

theorem stops_at_fit {pattern : Pattern} (read : Pattern.parse path = some pattern)
    {wanted : String} (fits : Pattern.matchPath pattern wanted.toList = some captures)
    (methods : List (String × RootOperation)) :
    (stopsAt resource path methods).foldl (nearer wanted) none =
      if (offered resource methods).isEmpty then none
      else some (⟨path, pattern, offered resource methods⟩, captures) := by
  rw [stops_at_pattern read]
  split
  · rfl
  · rw [List.foldl_cons, List.foldl_nil]
    unfold nearer
    rw [fits]

/-- The path of a request tells which methods there are, whatever of them a resource offers. -/
theorem destination_of_path {name : String} {collectionPattern itemPattern : Pattern}
    (read : Pattern.parse (collectionPath name) = some collectionPattern)
    (readItem : Pattern.parse (itemPath name) = some itemPattern) (request : Request) :
    (∀ resource : Resource, resource.options.name = name →
      destination resource request = .nowhere) ∨
    ∃ methods captures, (methods = collectionMethods ∨ methods = itemMethods) ∧
      ∀ resource : Resource, resource.options.name = name →
        destination resource request =
          if (offered resource methods).isEmpty then .nowhere
          else arrival (offered resource methods) request.method captures := by
  cases fits : Pattern.matchPath collectionPattern request.path.toList with
  | some captures =>
      have unfit := collection_apart_from_items read readItem fits
      refine .inr ⟨collectionMethods, captures, .inl rfl, ?_⟩
      intro resource named
      subst named
      rw [destination_arrival, stop_for_nearer, stops, List.foldl_append,
        nearer_unfit (stops_at_unfit readItem unfit _), stops_at_fit read fits]
      cases (offered resource collectionMethods).isEmpty <;> rfl
  | none =>
      cases fitsItem : Pattern.matchPath itemPattern request.path.toList with
      | some captures =>
          refine .inr ⟨itemMethods, captures, .inr rfl, ?_⟩
          intro resource named
          subst named
          rw [destination_arrival, stop_for_nearer, stops, List.foldl_append,
            nearer_unfit (stops_at_unfit read fits _), stops_at_fit readItem fitsItem]
          cases (offered resource itemMethods).isEmpty <;> rfl
      | none =>
          refine .inl ?_
          intro resource named
          subst named
          rw [destination_arrival, stop_for_nearer, stops, List.foldl_append,
            nearer_unfit (stops_at_unfit read fits _),
            nearer_unfit (stops_at_unfit readItem fitsItem _)]

end Paths

section Hidden

variable {entity : Entity} {options : ResourceOptions} {held : List Action} {request : Request}
  {kind : RootOperation} {captures : Captures} {headOnly : Bool}

/-- With actions hidden, a request goes where it went, or nowhere if it was for one of these. -/
theorem destination_with_hidden (visible : options.hidden = [])
    {collectionPattern itemPattern : Pattern}
    (read : Pattern.parse (collectionPath options.name) = some collectionPattern)
    (readItem : Pattern.parse (itemPath options.name) = some itemPattern)
    (reached : destination ⟨entity, options⟩ request = .reached kind captures headOnly) :
    (kind.action ∉ held → destination ⟨entity, options.withHidden held⟩ request =
      .reached kind captures headOnly) ∧
    (kind.action ∈ held → destination ⟨entity, options.withHidden held⟩ request = .nowhere ∨
      ∃ allowed, destination ⟨entity, options.withHidden held⟩ request = .refused allowed) := by
  rcases destination_of_path read readItem request with nowhere | ⟨methods, taken, known, goes⟩
  · rw [nowhere ⟨entity, options⟩ rfl] at reached
    cases reached
  · have distinct : (methods.map Prod.fst).Nodup := by
      rcases known with rfl | rfl <;> decide
    have noHead : methods.lookup "HEAD" = none := by
      rcases known with rfl | rfl <;> decide
    have all : offered ⟨entity, options⟩ methods = methods :=
      List.filter_eq_self.mpr fun entry _ => offers_visible visible
    have filled : methods.isEmpty = false := by
      rcases known with rfl | rfl <;> rfl
    rw [goes ⟨entity, options⟩ rfl, all, filled, if_neg Bool.false_ne_true,
      arrival_reached] at reached
    obtain ⟨asked, same⟩ := reached
    rw [goes ⟨entity, options.withHidden held⟩ rfl]
    have kept : sought (offered ⟨entity, options.withHidden held⟩ methods) request.method =
        if Resource.offers ⟨entity, options.withHidden held⟩ kind.action then
          some (kind, headOnly) else none :=
      sought_kept distinct noHead
        (fun kind => Resource.offers ⟨entity, options.withHidden held⟩ kind.action) asked
    constructor
    · intro outside
      rw [if_pos (offers_with_hidden.mpr outside)] at kept
      rw [sought_filled kept, if_neg Bool.false_ne_true]
      exact arrival_reached.mpr ⟨kept, same⟩
    · intro inside
      rw [if_neg fun offers => offers_with_hidden.mp offers inside] at kept
      cases (offered ⟨entity, options.withHidden held⟩ methods).isEmpty with
      | true => exact .inl rfl
      | false => exact .inr (arrival_refused kept taken)

theorem router_visible (visible : options.hidden = []) {verifier : Verifier} {router : Router}
    (built : (Rest.router ⟨⟨entity, options⟩, verifier⟩).outcome = .done router) :
    ∃ collectionPattern itemPattern,
      Pattern.parse (collectionPath options.name) = some collectionPattern ∧
      Pattern.parse (itemPath options.name) = some itemPattern := by
  have patterns := router_patterns built (offers_visible visible)
  exact patterns

/-- A request for an action that is not hidden is answered as if nothing was. -/
theorem handle_kept (visible : options.hidden = []) {verifier : Verifier} {router kept : Router}
    (built : (Rest.router ⟨⟨entity, options⟩, verifier⟩).outcome = .done router)
    (builtKept : (Rest.router ⟨⟨entity, options.withHidden held⟩, verifier⟩).outcome = .done kept)
    (reached : destination ⟨entity, options⟩ request = .reached kind captures headOnly)
    (outside : kind.action ∉ held) (database : Database) :
    (kept.handle request database).outcome = (router.handle request database).outcome := by
  obtain ⟨collectionPattern, itemPattern, read, readItem⟩ := router_visible visible built
  have same := (destination_with_hidden visible read readItem reached).1 outside
  rw [handle_destination builtKept, handle_destination built, reached, same]
  rfl

/-- A request for a hidden action finds no path or no method, whoever asks. -/
theorem handle_hidden (visible : options.hidden = []) {verifier : Verifier} {router : Router}
    (built : (Rest.router ⟨⟨entity, options⟩, verifier⟩).outcome = .done router)
    (reached : destination ⟨entity, options⟩ request = .reached kind captures headOnly)
    (inside : kind.action ∈ held) :
    ∃ response : Response, (response.status = 404 ∨ response.status = 405) ∧
      ∀ other kept, (Rest.router ⟨⟨entity, options.withHidden held⟩, other⟩).outcome = .done kept →
        ∀ database, (kept.handle request database).outcome = .done (response, database) := by
  obtain ⟨collectionPattern, itemPattern, read, readItem⟩ := router_visible visible built
  rcases (destination_with_hidden visible read readItem reached).2 inside with
    nowhere | ⟨allowed, refused⟩
  · refine ⟨Response.bare 404, .inl rfl, ?_⟩
    intro other kept builtKept database
    rw [handle_destination builtKept, nowhere]
    rfl
  · refine ⟨{ Response.bare 405 with allow := some allowed }, .inr rfl, ?_⟩
    intro other kept builtKept database
    rw [handle_destination builtKept, refused]
    rfl

end Hidden

end Rest

end GatedResources
