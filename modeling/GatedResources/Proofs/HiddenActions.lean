import GatedResources.Proofs.HiddenRoutes
import GatedResources.Proofs.SchemaRegistry

/-!
# Hidden actions

Hiding actions of a resource takes away exactly the requests for them. Whatever is not hidden is
answered as before; what is hidden is not there, over HTTP and in a schema alike, before anyone is
identified; and an operation that is called in spite of it neither succeeds nor changes anything.
-/

namespace GatedResources

namespace Resource

variable {entity : Entity} {options : ResourceOptions} {held : List Action}

theorem root_fields_with_hidden (visible : options.hidden = []) :
    rootFields ⟨entity, options.withHidden held⟩ =
      (rootFields ⟨entity, options⟩).filter fun field =>
        Resource.offers ⟨entity, options.withHidden held⟩ field.operation.action := by
  have all : ∀ action, Resource.offers ⟨entity, options⟩ action = true :=
    fun action => offers_visible visible
  have names : (options.withHidden held).name = options.name ∧
      (options.withHidden held).singularName = options.singularName := ⟨rfl, rfl⟩
  unfold rootFields
  dsimp only
  rw [names.1, names.2, all, all, all, all]
  simp only [List.filter_append, List.filter_cons, List.filter_nil, RootOperation.action, if_true]
  cases Resource.offers ⟨entity, options.withHidden held⟩ .find <;>
    cases Resource.offers ⟨entity, options.withHidden held⟩ .create <;>
    cases Resource.offers ⟨entity, options.withHidden held⟩ .update <;>
    cases Resource.offers ⟨entity, options.withHidden held⟩ .delete <;> rfl

end Resource

namespace Schema

variable {entity : Entity} {options : ResourceOptions} {held : List Action} {schema kept : Schema}

theorem contribution_keys (resource : Resource) :
    keys ⟨empty.entries ++ contribution resource⟩ =
      resource.rootFields.map fun field => (field.type, field.name) :=
  List.map_map

theorem register_registered (resource : Resource) :
    Registered empty (contribution resource) (empty.register resource).outcome :=
  add_fields_registered resource.rootFields List.nodup_nil

/-- A resource registers exactly when its own fields are distinct. -/
theorem register_distinct (resource : Resource) :
    (∃ schema, (empty.register resource).outcome = .done schema) ↔
      (resource.rootFields.map fun field => (field.type, field.name)).Nodup := by
  have ends := register_registered resource
  generalize (empty.register resource).outcome = outcome at ends ⊢
  cases ends with
  | done distinct =>
      rw [contribution_keys] at distinct
      exact ⟨fun _ => distinct, fun _ => ⟨_, rfl⟩⟩
  | failed repeats =>
      rw [contribution_keys] at repeats
      constructor
      · rintro ⟨schema, impossible⟩
        cases impossible
      · intro distinct
        exact absurd distinct repeats.not_nodup

/-- A resource that registers still does with actions hidden. -/
theorem register_with_hidden (visible : options.hidden = [])
    (registers : (empty.register ⟨entity, options⟩).outcome = .done schema) :
    ∃ kept, (empty.register ⟨entity, options.withHidden held⟩).outcome = .done kept := by
  have distinct := (register_distinct ⟨entity, options⟩).mp ⟨schema, registers⟩
  rw [register_distinct, Resource.root_fields_with_hidden visible]
  exact distinct.sublist (List.filter_sublist.map _)

/-- Every entry of the schema of one resource is one of its fields. -/
theorem register_owned {resource : Resource} (registers : (empty.register resource).outcome =
    .done schema) {type : RootType} {name : String} {entry : SchemaEntry}
    (found : schema.find? type name = some entry) :
    entry.resource = resource ∧ entry.field ∈ resource.rootFields ∧ entry.field.type = type ∧
      entry.field.name = name := by
  have holds := holds_empty.register registers
  obtain ⟨registered, own⟩ := holds.owned entry (List.mem_of_find?_eq_some found)
  have named := List.find?_some found
  rw [Bool.and_eq_true, beq_iff_eq, beq_iff_eq] at named
  have only : entry.resource = resource := by simpa using registered
  rw [only] at own
  exact ⟨only, own, named.1, named.2⟩

theorem register_found {resource : Resource} (registers : (empty.register resource).outcome =
    .done schema) {field : RootField} (own : field ∈ resource.rootFields) :
    schema.find? field.type field.name = some ⟨field, resource⟩ :=
  (holds_empty.register registers).found resource (by simp) field own

/-- With actions hidden, a schema has the fields of the others and none of these. -/
theorem find_with_hidden (visible : options.hidden = [])
    (registers : (empty.register ⟨entity, options⟩).outcome = .done schema)
    (registersKept : (empty.register ⟨entity, options.withHidden held⟩).outcome = .done kept)
    {type : RootType} {name : String} {entry : SchemaEntry}
    (found : schema.find? type name = some entry) :
    (entry.field.operation.action ∉ held → kept.find? type name =
      some ⟨entry.field, ⟨entity, options.withHidden held⟩⟩) ∧
    (entry.field.operation.action ∈ held → kept.find? type name = none) := by
  obtain ⟨-, own, typed, named⟩ := register_owned registers found
  have fields : Resource.rootFields ⟨entity, options.withHidden held⟩ = _ :=
    Resource.root_fields_with_hidden visible
  constructor
  · intro outside
    have inside : entry.field ∈ Resource.rootFields ⟨entity, options.withHidden held⟩ := by
      rw [fields]
      exact List.mem_filter.mpr ⟨own, offers_with_hidden.mpr outside⟩
    have foundKept := register_found registersKept inside
    rw [typed, named] at foundKept
    exact foundKept
  · intro inside
    cases foundKept : kept.find? type name with
    | none => rfl
    | some other =>
        obtain ⟨-, ownKept, typedKept, namedKept⟩ := register_owned registersKept foundKept
        rw [fields] at ownKept
        obtain ⟨ownWhole, offers⟩ := List.mem_filter.mp ownKept
        have same := register_found registers ownWhole
        rw [typedKept, namedKept, found] at same
        rw [Option.some.inj same] at inside
        exact absurd inside (offers_with_hidden.mp offers)

/-- A request for an operation that is not hidden is answered as if nothing was. -/
theorem execute_kept (visible : options.hidden = [])
    (registers : (empty.register ⟨entity, options⟩).outcome = .done schema)
    (registersKept : (empty.register ⟨entity, options.withHidden held⟩).outcome = .done kept)
    {request : GraphRequest} {entry : SchemaEntry}
    (found : schema.find? request.type request.field = some entry)
    (outside : entry.field.operation.action ∉ held) (verifier : Verifier)
    (credential : Option String) (database : Database) :
    (kept.execute verifier database request credential).outcome =
      (schema.execute verifier database request credential).outcome := by
  have foundKept := (find_with_hidden visible registers registersKept found).1 outside
  obtain ⟨owner, -, -, -⟩ := register_owned registers found
  have offered : (Resource.mk entity options).options.isHidden entry.field.operation.action =
      false := by
    simp [ResourceOptions.isHidden, visible]
  have offeredKept : (Resource.mk entity (options.withHidden held)).options.isHidden
      entry.field.operation.action = false := by
    unfold ResourceOptions.isHidden
    exact decide_eq_false outside
  rw [execute_entry foundKept, execute_entry found, owner]
  dsimp only
  rw [Graph.resolve_staged _ offeredKept, Graph.resolve_staged _ offered]
  rfl

/-- A request for a hidden operation is refused as one for a field that is not there. -/
theorem execute_hidden (visible : options.hidden = [])
    (registers : (empty.register ⟨entity, options⟩).outcome = .done schema)
    (registersKept : (empty.register ⟨entity, options.withHidden held⟩).outcome = .done kept)
    {request : GraphRequest} {entry : SchemaEntry}
    (found : schema.find? request.type request.field = some entry)
    (inside : entry.field.operation.action ∈ held) (verifier : Verifier)
    (credential : Option String) (database : Database) :
    (kept.execute verifier database request credential).outcome =
      .done (400, .failure (GraphError.unknownField request.type request.field), database) := by
  have absent := (find_with_hidden visible registers registersKept found).2 inside
  obtain ⟨type, field, arguments⟩ := request
  rw [execute_unknown (find_eq_none.mp absent)]

end Schema

namespace Graph

theorem handle_for_hidden {resource : Resource} {action : Action}
    (isHidden : resource.options.isHidden action = true) :
    handleFor resource action = .fail (.internal "operation is hidden") := by
  unfold handleFor Resource.handle?
  rw [dif_neg (by simp [isHidden])]

theorem needs_handle {α β : Type} {resource : Resource} {action : Action}
    (isHidden : resource.options.isHidden action = true) {first : Attempt ResourceError α}
    {next : α -> Handle action -> Steps ResourceError β} {backing : Backing}
    {answer : β × Backing} :
    ((Steps.doing first >>= fun value =>
      Steps.doing (handleFor resource action) >>= next value).run backing).outcome ≠
        .done answer := by
  intro done
  obtain ⟨value, -, done⟩ := Steps.doing_eq_done.mp done
  obtain ⟨handle, given, -⟩ := Steps.doing_eq_done.mp done
  rw [handle_for_hidden isHidden] at given
  cases given

/-- Resolving a hidden operation never succeeds. -/
theorem resolve_hidden {resource : Resource} {kind : RootOperation}
    (isHidden : resource.options.isHidden kind.action = true) (arguments : Json)
    (credential : Option String) (verifier : Verifier) (backing : Backing)
    (answer : Json × Backing) :
    (resolve resource kind arguments credential verifier backing).outcome ≠ .done answer := by
  intro done
  obtain ⟨principal, -, done⟩ := Steps.doing_eq_done.mp done
  cases kind with
  | findOne | findAll | create | patch | remove | removeMany => exact needs_handle isHidden done

/-- The steps of resolving a hidden operation leave what was there. -/
theorem resolve_hidden_spares {resource : Resource} {kind : RootOperation}
    (isHidden : resource.options.isHidden kind.action = true) (arguments : Json)
    (credential : Option String) (verifier : Verifier) (backing : Backing) :
    ((Autocommit.resolve resource kind arguments credential verifier).run backing).2 =
      backing := by
  have never := resolve_hidden isHidden arguments credential verifier backing
  rw [Autocommit.resolve_whole kind arguments backing]
  cases ended : (resolve resource kind arguments credential verifier backing).outcome with
  | done answer => exact absurd ended (never answer)
  | failed error => rfl
  | crashed => rfl

end Graph

namespace ResourceOptions

/-- Hiding actions of a resource that hides none keeps every request for another action as it is,
over HTTP and in a schema, and answers every request for one of these without asking the verifier
or touching the database. A hidden operation that is called itself neither succeeds nor changes
anything. -/
theorem hide_exact {entity : Entity} {options : ResourceOptions} {schema : Schema}
    (visible : options.hidden = [])
    (registers : (Schema.empty.register ⟨entity, options⟩).outcome = .done schema)
    (hidden : List Action) :
    (∀ verifier router, (Rest.router ⟨⟨entity, options⟩, verifier⟩).outcome = .done router →
      (∀ other, ∃ kept,
        (Rest.router ⟨⟨entity, hidden.foldl hide options⟩, other⟩).outcome = .done kept) ∧
      ∀ request kind captures headOnly,
        Rest.destination ⟨entity, options⟩ request = .reached kind captures headOnly →
        (kind.action ∉ hidden → ∀ kept,
          (Rest.router ⟨⟨entity, hidden.foldl hide options⟩, verifier⟩).outcome = .done kept →
          ∀ database, (kept.handle request database).outcome =
            (router.handle request database).outcome) ∧
        (kind.action ∈ hidden → ∃ response : Response,
          (response.status = 404 ∨ response.status = 405) ∧ ∀ other kept,
            (Rest.router ⟨⟨entity, hidden.foldl hide options⟩, other⟩).outcome = .done kept →
            ∀ database, (kept.handle request database).outcome = .done (response, database))) ∧
    (∃ kept, (Schema.empty.register ⟨entity, hidden.foldl hide options⟩).outcome = .done kept ∧
      ∀ request entry, schema.find? request.type request.field = some entry →
        (entry.field.operation.action ∉ hidden → ∀ verifier credential database,
          (kept.execute verifier database request credential).outcome =
            (schema.execute verifier database request credential).outcome) ∧
        (entry.field.operation.action ∈ hidden → ∃ message, ∀ verifier credential database,
          (kept.execute verifier database request credential).outcome =
            .done (400, .failure ⟨"GRAPHQL_VALIDATION_FAILED", message⟩, database))) ∧
    ∀ kind : RootOperation, kind.action ∈ hidden → ∀ arguments credential verifier backing,
      (∀ answer, (Graph.resolve ⟨entity, hidden.foldl hide options⟩ kind arguments credential
        verifier backing).outcome ≠ .done answer) ∧
      ((Autocommit.resolve ⟨entity, hidden.foldl hide options⟩ kind arguments credential
        verifier).run backing).2 = backing := by
  obtain ⟨held, same, members⟩ := hide_all options hidden
  have inside : ∀ action, action ∈ held ↔ action ∈ hidden := by
    intro action
    rw [members, visible]
    simp
  rw [same]
  refine ⟨?_, ?_, ?_⟩
  · intro verifier router built
    obtain ⟨collectionPattern, itemPattern, read, readItem⟩ := Rest.router_visible visible built
    refine ⟨fun other => Rest.router_builds read readItem, ?_⟩
    intro request kind captures headOnly reached
    constructor
    · intro outside kept builtKept database
      exact Rest.handle_kept visible built builtKept reached
        (fun member => outside ((inside _).mp member)) database
    · intro isHidden
      exact Rest.handle_hidden visible built reached ((inside _).mpr isHidden)
  · obtain ⟨kept, registersKept⟩ := Schema.register_with_hidden visible registers
    refine ⟨kept, registersKept, ?_⟩
    intro request entry found
    constructor
    · intro outside verifier credential database
      exact Schema.execute_kept visible registers registersKept found
        (fun member => outside ((inside _).mp member)) verifier credential database
    · intro isHidden
      refine ⟨(GraphError.unknownField request.type request.field).message, ?_⟩
      intro verifier credential database
      exact Schema.execute_hidden visible registers registersKept found ((inside _).mpr isHidden)
        verifier credential database
  · intro kind isHidden arguments credential verifier backing
    have hides : (Resource.mk entity (options.withHidden held)).options.isHidden kind.action =
        true := decide_eq_true ((inside _).mpr isHidden)
    exact ⟨Graph.resolve_hidden hides arguments credential verifier backing,
      Graph.resolve_hidden_spares hides arguments credential verifier backing⟩

/-- Questions that can only be asked: for every verifier both routers are built, reading a question
finds no path any more, and asking one goes on. -/
theorem hide_exact_questions :
    let options : ResourceOptions := ResourceOptions.named "faqs"
    let hidden : List Action := [.find, .update, .delete]
    let read : Request := ⟨"HEAD", "/faqs/1", none, [], ""⟩
    let ask : Request := ⟨"POST", "/faqs", none, [], ""⟩
    options.hidden = [] ∧
    (∃ schema, (Schema.empty.register ⟨Entity.faqs, options⟩).outcome = .done schema) ∧
    Rest.destination ⟨Entity.faqs, options⟩ read =
      .reached .findOne [(['i', 'd'], ['1'])] true ∧
    Rest.destination ⟨Entity.faqs, options⟩ ask = .reached .create [] false ∧
    ∀ verifier, ∃ router kept,
      (Rest.router ⟨⟨Entity.faqs, options⟩, verifier⟩).outcome = .done router ∧
      (Rest.router ⟨⟨Entity.faqs, hidden.foldl hide options⟩, verifier⟩).outcome = .done kept ∧
      ∃ response : Response, (response.status = 404 ∨ response.status = 405) ∧
        ∀ database, (kept.handle read database).outcome = .done (response, database) ∧
          (kept.handle ask database).outcome = (router.handle ask database).outcome := by
  intro options hidden read ask
  have readGoes : Rest.destination ⟨Entity.faqs, options⟩ read =
      .reached .findOne [(['i', 'd'], ['1'])] true := by decide +kernel
  have askGoes : Rest.destination ⟨Entity.faqs, options⟩ ask = .reached .create [] false := by
    decide +kernel
  obtain ⟨schema, registers⟩ := (Schema.register_distinct ⟨Entity.faqs, options⟩).mpr (by decide)
  refine ⟨rfl, ⟨schema, registers⟩, readGoes, askGoes, ?_⟩
  intro verifier
  have ⟨collectionPattern, collectionRead⟩ : ∃ pattern,
      Pattern.parse (Rest.collectionPath options.name) = some pattern :=
    Option.isSome_iff_exists.mp (by decide +kernel)
  have ⟨itemPattern, itemRead⟩ : ∃ pattern,
      Pattern.parse (Rest.itemPath options.name) = some pattern :=
    Option.isSome_iff_exists.mp (by decide +kernel)
  have ⟨router, built⟩ : ∃ router,
      (Rest.router ⟨⟨Entity.faqs, options⟩, verifier⟩).outcome = .done router :=
    Rest.router_builds collectionRead itemRead
  obtain ⟨builds, requests⟩ := (hide_exact rfl registers hidden).1 verifier router built
  obtain ⟨kept, builtKept⟩ := builds verifier
  obtain ⟨response, status, answers⟩ := (requests read _ _ _ readGoes).2 (by decide)
  have goesOn := (requests ask _ _ _ askGoes).1 (by decide)
  refine ⟨router, kept, built, builtKept, response, status, ?_⟩
  intro database
  exact ⟨answers verifier kept builtKept database, goesOn kept builtKept database⟩

end ResourceOptions
end GatedResources
