import GatedResources.Proofs.Admission
import GatedResources.Proofs.Identity

/-!
# Operations and their effects

An operation is what a request asks of a resource, whichever way the request came. Performing it
identifies the caller and then does what the handle does; every way of serving requests is later
shown to do exactly this. A performed operation that changes the table was authorized, and the
change has the shape of its action.
-/

namespace GatedResources

inductive Operation where
  | findOne (identifier : Int)
  | findAll (request : ListRequest)
  | create (input : List (String × Json))
  | update (identifier : Int) (patch : List (String × Json))
  | remove (identifier : Int)
  | removeMany (request : FilterRequest)

namespace Operation

def action : Operation -> Action
  | .findOne _ => .find
  | .findAll _ => .find
  | .create _ => .create
  | .update _ _ => .update
  | .remove _ => .delete
  | .removeMany _ => .delete

def Effect (before after : Table) : Operation -> Prop
  | .findOne _ => after = before
  | .findAll _ => after = before
  | .create _ => ∃ record identifier, after.records = before.records ++ [record] ∧
      record.identifier? = some identifier ∧
      ∀ other ∈ before.records, ∀ held, other.identifier? = some held → held < identifier
  | .update identifier _ => ∃ front record changed back,
      before.records = front ++ record :: back ∧ record.identifier? = some identifier ∧
      (∀ other ∈ front ++ back, other.identifier? ≠ some identifier) ∧
      after.records = front ++ changed :: back ∧ changed.identifier? = some identifier ∧
      after.nextIdentifier = before.nextIdentifier
  | .remove _ => after.records.Sublist before.records ∧
      after.nextIdentifier = before.nextIdentifier
  | .removeMany _ => after.records.Sublist before.records ∧
      after.nextIdentifier = before.nextIdentifier

/-- What a principal gets from an operation, and the backing it leaves. -/
def conduct (resource : Resource) (principal : Principal) (backing : Backing) :
    (operation : Operation) -> resource.options.isHidden operation.action = false ->
      Outcome ResourceError (Json × Backing)
  | .findOne identifier, offered => do
      let record ← (Handle.findOne ⟨resource, offered⟩ principal backing identifier).outcome
      return (record.toJson, backing)
  | .findAll request, offered => do
      let page ← (Handle.findAll ⟨resource, offered⟩ principal backing request).outcome
      return (page.toJson Record.toJson, backing)
  | .create input, offered => do
      let (record, backing) ← (Handle.createOne ⟨resource, offered⟩ principal backing input).outcome
      return (record.toJson, backing)
  | .update identifier patch, offered => do
      let (record, backing) ←
        (Handle.updateOne ⟨resource, offered⟩ principal backing identifier patch).outcome
      return (record.toJson, backing)
  | .remove identifier, offered => do
      let (removed, backing) ←
        (Handle.remove ⟨resource, offered⟩ principal backing identifier).outcome
      return (.bool removed, backing)
  | .removeMany request, offered => do
      let (removed, backing) ←
        (Handle.removeMany ⟨resource, offered⟩ principal backing request).outcome
      return (.bool removed, backing)

/-- What a request with a credential gets from an operation, and the backing it leaves. -/
def perform (resource : Resource) (verifier : Verifier) (credential : Option String)
    (backing : Backing) (operation : Operation)
    (offered : resource.options.isHidden operation.action = false) :
    Outcome ResourceError (Json × Backing) := do
  let principal ←
    (Gate.identify operation.action resource.policy credential verifier).outcome.mapError
      ResourceError.ofAccessError
  conduct resource principal backing operation offered

end Operation

def Resource.filterPredicates (resource : Resource) (filter : Option Encoded) : List Predicate :=
  (Query.compilePredicates resource.entity.table resource.options.transforms filter).value

/-- A list request selects by the predicates of its filter, and without a sort in no order. -/
theorem Resource.query_value (resource : Resource) (request : ListRequest) :
    ∃ order, (resource.query request).value = ⟨resource.entity.table,
      resource.filterPredicates request.filter, order, request.offset, request.limit⟩ ∧
      (request.sort = none → order = none) := by
  refine ⟨(Query.compileOrder request.sort).value, rfl, ?_⟩
  intro unsorted
  rw [unsorted]
  rfl

namespace Handle

variable {principal : Principal} {backing after : Backing}

theorem find_one_eq_done {handle : Handle .find} {identifier : Int} {record : Record}
    (found : (handle.findOne principal backing identifier).outcome = .done record) :
    (handle.resource.gate .find principal).outcome = .done () := by
  unfold findOne at found
  rw [Attempt.outcome_bind] at found
  obtain ⟨_, passed, _⟩ := Outcome.bind_eq_done.mp found
  exact passed

theorem find_all_eq_done {handle : Handle .find} {request : ListRequest} {page : Page Record}
    (found : (handle.findAll principal backing request).outcome = .done page) :
    (handle.resource.gate .find principal).outcome = .done () := by
  unfold findAll at found
  rw [Attempt.outcome_bind] at found
  obtain ⟨_, passed, _⟩ := Outcome.bind_eq_done.mp found
  exact passed

theorem find_all_admitted {handle : Handle .find}
    (admitted : (handle.resource.gate .find principal).outcome = .done ()) (backing : Backing)
    (request : ListRequest) :
    (handle.findAll principal backing request).outcome =
      (Store.findPage handle.resource.entity backing
        (handle.resource.query request).value).outcome.mapError fun error =>
          (ResourceError.ofStoreError error).value := by
  unfold findAll storing
  rw [Attempt.outcome_bind, admitted, Outcome.done_bind, Attempt.outcome_bind,
    Attempt.outcome_of_traced, Outcome.done_bind, Attempt.outcome_convert_error]

theorem find_many_admitted {handle : Handle .find}
    (admitted : (handle.resource.gate .find principal).outcome = .done ()) (backing : Backing)
    (request : ListRequest) :
    (handle.findMany principal backing request).outcome =
      (Store.findMany handle.resource.entity backing
        (handle.resource.query request).value).outcome.mapError fun error =>
          (ResourceError.ofStoreError error).value := by
  unfold findMany storing
  rw [Attempt.outcome_bind, admitted, Outcome.done_bind, Attempt.outcome_bind,
    Attempt.outcome_of_traced, Outcome.done_bind, Attempt.outcome_convert_error]

section Outcomes

variable (principal : Principal) (backing : Backing)

theorem create_one_outcome (handle : Handle .create) (input : List (String × Json)) :
    (handle.createOne principal backing input).outcome =
      (handle.resource.gate .create principal).outcome >>= fun _ =>
        (Store.insert handle.resource.entity backing input).outcome.mapError fun error =>
          (ResourceError.ofStoreError error).value := by
  unfold createOne creating
  rw [Steps.run_doing, Attempt.outcome_bind]
  apply congrArg (_ >>= ·)
  funext _
  rw [Steps.run_calling, Attempt.outcome_bind, Attempt.outcome_convert_error]
  exact Outcome.bind_done _

theorem update_one_outcome (handle : Handle .update) (identifier : Int)
    (patch : List (String × Json)) :
    (handle.updateOne principal backing identifier patch).outcome =
      (handle.resource.gate .update principal).outcome >>= fun _ =>
        ((Store.update handle.resource.entity backing identifier patch).outcome.mapError
          fun error => (ResourceError.ofStoreError error).value) >>= fun stored =>
            match stored.1 with
            | some record => .done (record, stored.2)
            | none => .failed (.notFound handle.resource.options.name identifier) := by
  unfold updateOne updating
  rw [Steps.run_doing, Attempt.outcome_bind]
  apply congrArg (_ >>= ·)
  funext _
  rw [Steps.run_calling, Attempt.outcome_bind, Attempt.outcome_convert_error]
  apply congrArg (_ >>= ·)
  funext stored
  cases stored.1 <;> rfl

theorem remove_outcome (handle : Handle .delete) (identifier : Int) :
    (handle.remove principal backing identifier).outcome =
      (handle.resource.gate .delete principal).outcome >>= fun _ =>
        ((Store.deleteById handle.resource.entity backing identifier).outcome.mapError
          fun error => (ResourceError.ofStoreError error).value) >>= fun deleted =>
            .done (decide (0 < deleted.1), deleted.2) := by
  unfold remove removing
  rw [Steps.run_doing, Attempt.outcome_bind]
  apply congrArg (_ >>= ·)
  funext _
  rw [Steps.run_calling, Attempt.outcome_bind, Attempt.outcome_convert_error]
  rfl

theorem remove_many_where_outcome (handle : Handle .delete) (request : FilterRequest)
    (extra : List Predicate) :
    (handle.removeManyWhere principal backing request extra).outcome =
      (handle.resource.gate .delete principal).outcome >>= fun _ =>
        if handle.resource.filterPredicates request.filter = [] then .done (false, backing)
        else ((Store.deleteWhere handle.resource.entity backing
          (handle.resource.filterPredicates request.filter ++ extra)).outcome.mapError
            fun error => (ResourceError.ofStoreError error).value) >>= fun deleted =>
              .done (decide (0 < deleted.1), deleted.2) := by
  unfold removeManyWhere removingManyWhere
  rw [Steps.run_doing, Attempt.outcome_bind]
  apply congrArg (_ >>= ·)
  funext _
  rw [Steps.run_doing, Attempt.outcome_bind, Attempt.outcome_of_traced, Outcome.done_bind,
    ← Resource.filterPredicates]
  simp only [List.isEmpty_iff]
  split
  · rfl
  · rw [Steps.run_calling, Attempt.outcome_bind, Attempt.outcome_convert_error]
    rfl

end Outcomes

theorem create_one_eq_done {handle : Handle .create} {input : List (String × Json)}
    {record : Record}
    (created : (handle.createOne principal backing input).outcome = .done (record, after)) :
    (handle.resource.gate .create principal).outcome = .done () ∧
      (Store.insert handle.resource.entity backing input).outcome = .done (record, after) := by
  rw [create_one_outcome] at created
  obtain ⟨_, passed, inserted⟩ := Outcome.bind_eq_done.mp created
  exact ⟨passed, Outcome.map_error_eq_done.mp inserted⟩

theorem update_one_eq_done {handle : Handle .update} {identifier : Int}
    {patch : List (String × Json)} {record : Record}
    (updated : (handle.updateOne principal backing identifier patch).outcome =
      .done (record, after)) :
    (handle.resource.gate .update principal).outcome = .done () ∧
      (Store.update handle.resource.entity backing identifier patch).outcome =
        .done (some record, after) := by
  rw [update_one_outcome] at updated
  obtain ⟨_, passed, updated⟩ := Outcome.bind_eq_done.mp updated
  obtain ⟨⟨found, held⟩, stored, finished⟩ := Outcome.bind_eq_done.mp updated
  rw [Outcome.map_error_eq_done] at stored
  cases found with
  | none => cases finished
  | some changed =>
      cases finished
      exact ⟨passed, stored⟩

theorem remove_eq_done {handle : Handle .delete} {identifier : Int} {removed : Bool}
    (done : (handle.remove principal backing identifier).outcome = .done (removed, after)) :
    (handle.resource.gate .delete principal).outcome = .done () ∧
      ∃ affected, (Store.deleteById handle.resource.entity backing identifier).outcome =
        .done (affected, after) ∧ removed = decide (0 < affected) := by
  rw [remove_outcome] at done
  obtain ⟨_, passed, done⟩ := Outcome.bind_eq_done.mp done
  obtain ⟨⟨affected, left⟩, deleted, finished⟩ := Outcome.bind_eq_done.mp done
  rw [Outcome.map_error_eq_done] at deleted
  cases finished
  exact ⟨passed, affected, deleted, rfl⟩

theorem remove_many_where_eq_done {handle : Handle .delete} {request : FilterRequest}
    {extra : List Predicate} {removed : Bool}
    (done : (handle.removeManyWhere principal backing request extra).outcome =
      .done (removed, after)) :
    (handle.resource.gate .delete principal).outcome = .done () ∧
      ((handle.resource.filterPredicates request.filter = [] ∧ removed = false ∧ after = backing) ∨
        ∃ affected, (Store.deleteWhere handle.resource.entity backing
            (handle.resource.filterPredicates request.filter ++ extra)).outcome =
              .done (affected, after) ∧
          removed = decide (0 < affected)) := by
  rw [remove_many_where_outcome] at done
  obtain ⟨_, passed, done⟩ := Outcome.bind_eq_done.mp done
  refine ⟨passed, ?_⟩
  split at done
  · next nothing =>
      cases done
      exact .inl ⟨nothing, rfl, rfl⟩
  · obtain ⟨⟨affected, left⟩, deleted, finished⟩ := Outcome.bind_eq_done.mp done
    rw [Outcome.map_error_eq_done] at deleted
    cases finished
    exact .inr ⟨affected, deleted, rfl⟩

/-- A bulk removal that found nothing to remove has left everything. -/
theorem removed_nothing {handle : Handle .delete} {request : FilterRequest}
    {extra : List Predicate}
    (done : (handle.removeManyWhere principal backing request extra).outcome =
      .done (false, after)) : after = backing := by
  obtain ⟨_, ⟨_, _, same⟩ | ⟨affected, deleted, none⟩⟩ := remove_many_where_eq_done done
  · exact same
  · rcases Store.delete_where_eq_done deleted with ⟨_, _, same⟩ | removed
    · exact same
    · obtain ⟨table, _, holds, present, _, _, counted, same⟩ := removed
      have empty : table.records.filter holds = [] := by
        apply List.length_eq_zero_iff.mp
        rw [← counted]
        simpa using none.symm
      rw [present, same, Table.without_none empty]

end Handle

namespace Operation

variable {resource : Resource} {principal : Principal} {table : Table} {after : Backing}
  {value : Json}

/-- A creation on a numbered table appends one record, under an identifier above all others. -/
theorem creation_effect {input : List (String × Json)} {record : Record}
    (assigned : resource.entity.key = .assigned) (numbered : table.Numbered)
    (inserted : (Store.insert resource.entity (some table) input).outcome =
      .done (record, after)) :
    ∃ changed, after = some changed ∧
      (table.Reached resource.entity → changed.Reached resource.entity) ∧
      (Operation.create input).Effect table changed := by
  obtain ⟨_, given, grown, present, _, taken, same⟩ := Store.insert_eq_done inserted
  cases present
  obtain ⟨body, _, shape, appended⟩ := Store.insert_into_assigned assigned taken
  refine ⟨grown, same, ?_, record, table.nextIdentifier, ?_, ?_, ?_⟩
  · intro reached
    rw [same] at inserted
    exact .insert reached inserted
  · rw [appended]
  · rw [shape]
    simp [Record.identifier?]
  · intro other member held named
    obtain ⟨identifier, own, below⟩ := numbered.bounded other member
    rw [named] at own
    cases own
    exact below

/-- An update that changes a numbered table overwrites the one record that it names. -/
theorem update_effect {identifier : Int} {patch : List (String × Json)} {found : Option Record}
    (numbered : table.Numbered)
    (stored : (Store.update resource.entity (some table) identifier patch).outcome =
      .done (found, after)) (differs : after ≠ some table) :
    ∃ changed, after = some changed ∧
      (table.Reached resource.entity → changed.Reached resource.entity) ∧
      (Operation.update identifier patch).Effect table changed := by
  rcases Store.update_eq_done stored with ⟨_, _, same⟩ | ⟨_, _, unchanged | changed⟩
  · exact absurd same differs
  · exact absurd unchanged.2.2 differs
  · obtain ⟨given, _, read, _, same⟩ := changed
    have absent := Store.read_input_without_identifier read
    have moved : Store.replaceById identifier given table ≠ table := by
      intro unmoved
      apply differs
      rw [same, Option.map_some, unmoved]
    obtain ⟨front, old, back, split, named, placed⟩ := numbered.replace_one moved
    refine ⟨Store.replaceById identifier given table, same, ?_, front, old,
      Store.overwrite given old, back, split, named, numbered.other_identifiers split named,
      placed, ?_, rfl⟩
    · intro reached
      rw [same] at stored
      exact .update reached stored
    · rw [Store.overwrite_identifier absent, named]

/-- A deletion that changes a table takes records away and does nothing else. -/
theorem deletion_effect {predicates : List Predicate} {affected : Nat}
    (deleted : (Store.deleteWhere resource.entity (some table) predicates).outcome =
      .done (affected, after)) (differs : after ≠ some table) :
    ∃ changed, after = some changed ∧
      (table.Reached resource.entity → changed.Reached resource.entity) ∧
      changed.records.Sublist table.records ∧ changed.nextIdentifier = table.nextIdentifier := by
  rcases Store.delete_where_eq_done deleted with ⟨_, _, same⟩ | removed
  · exact absurd same differs
  · obtain ⟨held, _, holds, present, _, _, _, same⟩ := removed
    cases present
    refine ⟨table.without holds, same, ?_, List.filter_sublist, rfl⟩
    intro reached
    rw [same] at deleted
    exact .delete reached deleted

/-- Nothing is answered without passing the gate for the action of the operation. -/
theorem conduct_passes {backing : Backing} (operation : Operation)
    (offered : resource.options.isHidden operation.action = false)
    (done : conduct resource principal backing operation offered = .done (value, after)) :
    (resource.gate operation.action principal).outcome = .done () := by
  cases operation with
  | findOne identifier =>
      obtain ⟨_, found, _⟩ := Outcome.bind_eq_done.mp done
      exact Handle.find_one_eq_done found
  | findAll request =>
      obtain ⟨_, found, _⟩ := Outcome.bind_eq_done.mp done
      exact Handle.find_all_eq_done found
  | create input =>
      obtain ⟨_, created, _⟩ := Outcome.bind_eq_done.mp done
      exact (Handle.create_one_eq_done created).1
  | update identifier patch =>
      obtain ⟨_, updated, _⟩ := Outcome.bind_eq_done.mp done
      exact (Handle.update_one_eq_done updated).1
  | remove identifier =>
      obtain ⟨_, removed, _⟩ := Outcome.bind_eq_done.mp done
      exact (Handle.remove_eq_done removed).1
  | removeMany request =>
      obtain ⟨_, removed, _⟩ := Outcome.bind_eq_done.mp done
      exact (Handle.remove_many_where_eq_done removed).1

/-- What changes on a numbered table has the shape of the operation. -/
theorem conduct_effect (operation : Operation)
    (offered : resource.options.isHidden operation.action = false)
    (assigned : resource.entity.key = .assigned) (numbered : table.Numbered)
    (done : conduct resource principal (some table) operation offered = .done (value, after))
    (differs : after ≠ some table) :
    ∃ changed, after = some changed ∧
      (table.Reached resource.entity → changed.Reached resource.entity) ∧
      operation.Effect table changed := by
  cases operation with
  | findOne identifier =>
      obtain ⟨_, _, finished⟩ := Outcome.bind_eq_done.mp done
      cases finished
      exact absurd rfl differs
  | findAll request =>
      obtain ⟨_, _, finished⟩ := Outcome.bind_eq_done.mp done
      cases finished
      exact absurd rfl differs
  | create input =>
      obtain ⟨⟨record, left⟩, created, finished⟩ := Outcome.bind_eq_done.mp done
      cases finished
      obtain ⟨_, inserted⟩ := Handle.create_one_eq_done created
      exact creation_effect assigned numbered inserted
  | update identifier patch =>
      obtain ⟨⟨record, left⟩, updated, finished⟩ := Outcome.bind_eq_done.mp done
      cases finished
      obtain ⟨_, stored⟩ := Handle.update_one_eq_done updated
      exact update_effect numbered stored differs
  | remove identifier =>
      obtain ⟨⟨removed, left⟩, taken, finished⟩ := Outcome.bind_eq_done.mp done
      cases finished
      obtain ⟨_, affected, deleted, _⟩ := Handle.remove_eq_done taken
      exact deletion_effect deleted differs
  | removeMany request =>
      obtain ⟨⟨removed, left⟩, taken, finished⟩ := Outcome.bind_eq_done.mp done
      cases finished
      obtain ⟨_, nothing | ⟨affected, deleted, _⟩⟩ := Handle.remove_many_where_eq_done taken
      · exact absurd nothing.2.2 differs
      · exact deletion_effect deleted differs

section Perform

variable {verifier : Verifier} {credential : Option String} {operation : Operation}
  {offered : resource.options.isHidden operation.action = false}

theorem perform_authorized {backing : Backing}
    (done : perform resource verifier credential backing operation offered =
      .done (value, after)) :
    Authorized resource verifier credential operation.action := by
  obtain ⟨principal, identified, conducted⟩ := Outcome.bind_eq_done.mp done
  rw [Outcome.map_error_eq_done] at identified
  exact resource.authorized_of_gate offered identified (conduct_passes operation offered conducted)

theorem perform_effect (assigned : resource.entity.key = .assigned) (numbered : table.Numbered)
    (done : perform resource verifier credential (some table) operation offered =
      .done (value, after)) (differs : after ≠ some table) :
    ∃ changed, after = some changed ∧
      (table.Reached resource.entity → changed.Reached resource.entity) ∧
      operation.Effect table changed := by
  obtain ⟨principal, _, conducted⟩ := Outcome.bind_eq_done.mp done
  exact conduct_effect operation offered assigned numbered conducted differs

theorem perform_find {backing : Backing} (finds : operation.action = .find)
    (done : perform resource verifier credential backing operation offered =
      .done (value, after)) : after = backing := by
  obtain ⟨principal, _, conducted⟩ := Outcome.bind_eq_done.mp done
  cases operation with
  | findOne identifier =>
      obtain ⟨_, _, finished⟩ := Outcome.bind_eq_done.mp conducted
      cases finished
      rfl
  | findAll request =>
      obtain ⟨_, _, finished⟩ := Outcome.bind_eq_done.mp conducted
      cases finished
      rfl
  | create input => cases finds
  | update identifier patch => cases finds
  | remove identifier => cases finds
  | removeMany request => cases finds

end Perform

end Operation
end GatedResources
