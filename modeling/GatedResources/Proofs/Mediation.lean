import GatedResources.Proofs.GraphService
import GatedResources.Proofs.RestRoutes

/-!
# Complete mediation of writes

No request, sent over HTTP or to a schema, changes a table unless it asks for an operation of a
resource over that table, the action of that operation is offered, and the caller may do it. The
table then changes the way that operation changes it.
-/

namespace GatedResources

section Changes

variable {owner : Resource} {verifier : Verifier} {credential : Option String}
  {operation : Operation} {offered : owner.options.isHidden operation.action = false}
  {database : Database} {entity : Entity} {table : Table} {value : Json} {left : Backing}

theorem stored_change (present : database.backing entity = some table)
    (differs : (database.store owner.entity left).backing entity ≠ some table) :
    owner.entity.table = entity.table ∧ database.backing owner.entity = some table ∧
      (database.store owner.entity left).backing entity = left := by
  by_cases same : entity.table = owner.entity.table
  · have shared : ∀ held : Database, held.backing entity = held.backing owner.entity := by
      intro held
      unfold Database.backing
      rw [same]
    refine ⟨same.symm, ?_, ?_⟩
    · rw [← shared, present]
    · rw [shared, Database.backing_store]
  · rw [Database.backing_store_other same, present] at differs
    exact absurd rfl differs

/-- An operation that changes a numbered table was authorized, and the change has its shape. -/
theorem performed_change
    (done : operation.perform owner verifier credential (database.backing owner.entity) offered =
      .done (value, left))
    (present : database.backing entity = some table)
    (differs : (database.store owner.entity left).backing entity ≠ some table) :
    owner.entity.table = entity.table ∧
      Authorized owner verifier credential operation.action ∧
      (owner.entity.key = .assigned → table.Numbered →
        ∃ changed, (database.store owner.entity left).backing entity = some changed ∧
          (table.Reached owner.entity → changed.Reached owner.entity) ∧
          operation.Effect table changed) := by
  obtain ⟨sameTable, before, afterwards⟩ := stored_change present differs
  refine ⟨sameTable, Operation.perform_authorized done, ?_⟩
  intro assigned numbered
  rw [before] at done
  rw [afterwards] at differs ⊢
  exact Operation.perform_effect assigned numbered done differs

theorem performed_find (finds : operation.action = .find)
    (done : operation.perform owner verifier credential (database.backing owner.entity) offered =
      .done (value, left)) : database.store owner.entity left = database := by
  rw [Operation.perform_find finds done, Database.store_backing]

end Changes

/-- Complete mediation, over HTTP and for every schema that a resource is registered in. -/
theorem writes_mediated {resource : Resource} {verifier : Verifier} {database : Database}
    {table : Table} (assigned : resource.entity.key = .assigned)
    (reached : table.Reached resource.entity)
    (present : database.backing resource.entity = some table) :
    (∀ router request response after,
      (Rest.router ⟨resource, verifier⟩).outcome = .done router →
      (router.handle request database).outcome = .done (response, after) →
        (request.method = "GET" ∨ request.method = "HEAD" → after = database) ∧
        (after.backing resource.entity ≠ some table → ∃ operation changed,
          Rest.Asks resource.options.name request operation ∧
          Authorized resource verifier (Bearer.credential request.headers) operation.action ∧
          after.backing resource.entity = some changed ∧ changed.Reached resource.entity ∧
          operation.Effect table changed)) ∧
    (∀ resources schema request credential status response after,
      (Schema.registerAll resources Schema.empty).outcome = .done schema → resource ∈ resources →
      (schema.execute verifier database request credential).outcome =
          .done (status, response, after) →
        (request.type = .query → after = database) ∧
        (after.backing resource.entity ≠ some table → ∃ owner ∈ resources, ∃ operation,
          owner.entity.table = resource.entity.table ∧ Graph.Asks owner request operation ∧
          Authorized owner verifier credential operation.action ∧
          -- Another resource over the same table is one over an entity with identifiers as well.
          (owner.entity.key = .assigned → ∃ changed,
            after.backing resource.entity = some changed ∧
            (table.Reached owner.entity → changed.Reached owner.entity) ∧
            operation.Effect table changed))) := by
  have numbered := reached.numbered assigned
  constructor
  · intro router request response after built done
    rcases Rest.router_followed built done with unchanged | followed
    · exact ⟨fun _ => unchanged, fun differs => absurd (unchanged ▸ present) differs⟩
    · obtain ⟨operation, offered, answer, asks, served⟩ := followed
      rcases Rest.served_eq_done served with unchanged | ⟨value, left, performed, stored⟩
      · exact ⟨fun _ => unchanged, fun differs => absurd (unchanged ▸ present) differs⟩
      · subst stored
        refine ⟨fun method => performed_find (asks.finds method) performed, ?_⟩
        intro differs
        obtain ⟨_, authorized, effect⟩ := performed_change performed present differs
        obtain ⟨changed, same, kept, shape⟩ := effect assigned numbered
        exact ⟨operation, changed, asks, authorized, same, kept reached, shape⟩
  · intro resources schema request credential status response after built registered done
    have holds := Schema.holds_empty.register_all built
    rcases holds.execute_followed done with unchanged | followed
    · exact ⟨fun _ => unchanged, fun differs => absurd (unchanged ▸ present) differs⟩
    · obtain ⟨owner, member, operation, offered, asks, answered⟩ := followed
      rcases Graph.concluded_eq_done answered with unchanged | ⟨value, left, performed, stored⟩
      · exact ⟨fun _ => unchanged, fun differs => absurd (unchanged ▸ present) differs⟩
      · subst stored
        constructor
        · intro query
          obtain ⟨field, own, sameType, _, reads⟩ := asks
          have finds := Resource.query_field_finds own (sameType.trans query)
          exact performed_find (reads.action_eq.trans finds) performed
        · intro differs
          obtain ⟨sameTable, authorized, effect⟩ := performed_change performed present differs
          exact ⟨owner, member, operation, sameTable, asks, authorized,
            fun assigned => effect assigned numbered⟩

/-- A question that is posted to an open resource is a change that the theorem speaks of. -/
theorem posted_question_mediated :
    let resource : Resource :=
      ⟨Entity.faqs, { ResourceOptions.named "faqs" with policy := ⟨Action.all, []⟩ }⟩
    let verifier : Verifier := fun _ => .failed .missingCredential
    let request : Request := ⟨"POST", "/faqs", none, [("content-type", "application/json")],
      "\x7b\"question\": \"Why?\"\x7d"⟩
    let database := Database.ofEntities [Entity.faqs]
    ∃ router response after, (Rest.router ⟨resource, verifier⟩).outcome = .done router ∧
      (router.handle request database).outcome = .done (response, after) ∧
      after.backing Entity.faqs ≠ some Table.empty ∧
      ∃ operation changed, Rest.Asks "faqs" request operation ∧
        Authorized resource verifier none operation.action ∧
        after.backing Entity.faqs = some changed ∧ changed.Reached Entity.faqs ∧
        operation.Effect Table.empty changed := by
  intro resource verifier request database
  let record : Record := [("id", .integer 1), ("question", .text "Why?"), ("answer", .text ""),
    ("status", .text "draft")]
  have handled : ((Rest.router ⟨resource, verifier⟩).outcome >>= fun router =>
      (router.handle request database).outcome) =
        .done (Response.ofJson 201 record.toJson, ⟨[("faqs", ⟨[record], 2⟩)]⟩) := by
    decide +kernel
  obtain ⟨router, built, done⟩ := Outcome.bind_eq_done.mp handled
  have differs : Database.backing ⟨[("faqs", ⟨[record], 2⟩)]⟩ Entity.faqs ≠ some Table.empty := by
    decide +kernel
  have present : database.backing Entity.faqs = some Table.empty := by
    decide +kernel
  exact ⟨router, _, _, built, done, differs,
    ((writes_mediated rfl .empty present).1 router request _ _ built done).2 differs⟩

end GatedResources
