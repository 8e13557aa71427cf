import GatedResources.Proofs.GraphService
import GatedResources.Server.Faq

/-!
# Registering resources

A schema is built from the root fields of its resources in their order. It can be built exactly
when no two of them have the same type and name, and is refused for the first field that repeats an
earlier one. What is built offers these fields and nothing else.
-/

namespace GatedResources

namespace SchemaEntry

def key (entry : SchemaEntry) : RootType × String :=
  (entry.field.type, entry.field.name)

end SchemaEntry

/-- The first key of a list that repeats an earlier one. -/
def FirstRepeat {α : Type} (keys : List α) (key : α) : Prop :=
  ∃ before after, keys = before ++ key :: after ∧ before.Nodup ∧ key ∈ before

theorem FirstRepeat.append {α : Type} {keys : List α} {key : α} (repeats : FirstRepeat keys key)
    (more : List α) : FirstRepeat (keys ++ more) key := by
  obtain ⟨before, after, parts, distinct, earlier⟩ := repeats
  refine ⟨before, after ++ more, ?_, distinct, earlier⟩
  rw [parts, List.append_assoc, List.cons_append]

theorem FirstRepeat.not_nodup {α : Type} {keys : List α} {key : α}
    (repeats : FirstRepeat keys key) : ¬ keys.Nodup := by
  obtain ⟨before, after, parts, -, earlier⟩ := repeats
  intro distinct
  rw [parts, List.nodup_append] at distinct
  exact distinct.2.2 key earlier key List.mem_cons_self rfl

namespace Schema

variable {resource : Resource} {resources : List Resource} {schema : Schema}

def keys (schema : Schema) : List (RootType × String) :=
  schema.entries.map SchemaEntry.key

def contribution (resource : Resource) : List SchemaEntry :=
  resource.rootFields.map fun field => ⟨field, resource⟩

def contributions (resources : List Resource) : List SchemaEntry :=
  resources.flatMap contribution

theorem find_eq_none {type : RootType} {name : String} :
    schema.find? type name = none ↔ (type, name) ∉ schema.keys := by
  simp [find?, keys, SchemaEntry.key, List.find?_eq_none]

theorem mem_keys_of_find {type : RootType} {name : String} {entry : SchemaEntry}
    (found : schema.find? type name = some entry) : (type, name) ∈ schema.keys := by
  by_cases present : (type, name) ∈ schema.keys
  · exact present
  · rw [find_eq_none.mpr present] at found
    cases found

/-- How adding entries to a schema ends: with all of them, or at the first that repeats a key. -/
inductive Registered (schema : Schema) (added : List SchemaEntry) :
    Outcome DuplicateField Schema -> Prop where
  | done (distinct : (Schema.keys ⟨schema.entries ++ added⟩).Nodup) :
      Registered schema added (.done ⟨schema.entries ++ added⟩)
  | failed {type : RootType} {name : String}
      (repeats : FirstRepeat (Schema.keys ⟨schema.entries ++ added⟩) (type, name)) :
      Registered schema added (.failed ⟨type, name⟩)

theorem keys_append (schema : Schema) (added : List SchemaEntry) :
    Schema.keys ⟨schema.entries ++ added⟩ = schema.keys ++ added.map SchemaEntry.key :=
  List.map_append

theorem registered_none (distinct : schema.keys.Nodup) : Registered schema [] (.done schema) := by
  have same : (⟨schema.entries ++ []⟩ : Schema) = schema := by rw [List.append_nil]
  have added : Registered schema [] (.done ⟨schema.entries ++ []⟩) :=
    .done (by rw [same]; exact distinct)
  rw [same] at added
  exact added

theorem Registered.after {added later : List SchemaEntry} {ended : Outcome DuplicateField Schema}
    (registered : Registered ⟨schema.entries ++ added⟩ later ended) :
    Registered schema (added ++ later) ended := by
  have parts : schema.entries ++ added ++ later = schema.entries ++ (added ++ later) :=
    List.append_assoc _ _ _
  cases registered with
  | done distinct =>
      dsimp only at distinct ⊢
      rw [parts] at distinct ⊢
      exact .done distinct
  | failed repeats =>
      dsimp only at repeats
      rw [parts] at repeats
      exact .failed repeats

theorem add_fields_registered (fields : List RootField) (distinct : schema.keys.Nodup) :
    Registered schema (fields.map fun field => ⟨field, resource⟩)
      (addFields resource fields schema).outcome := by
  induction fields generalizing schema with
  | nil => exact registered_none distinct
  | cons field rest claim =>
      rw [List.map_cons, addFields]
      cases sought : schema.find? field.type field.name with
      | some entry =>
          apply Registered.failed
          rw [keys_append]
          exact ⟨schema.keys, _, rfl, distinct, mem_keys_of_find sought⟩
      | none =>
          have fresh := find_eq_none.mp sought
          have extended : (Schema.keys ⟨schema.entries ++ [⟨field, resource⟩]⟩).Nodup := by
            rw [keys_append, List.nodup_append]
            refine ⟨distinct, by simp, ?_⟩
            intro key earlier new member same
            rw [List.map_cons, List.map_nil, List.mem_singleton] at member
            rw [same, member] at earlier
            exact fresh earlier
          rw [Attempt.outcome_bind]
          exact (claim extended).after

theorem register_all_registered (resources : List Resource) (distinct : schema.keys.Nodup) :
    Registered schema (contributions resources) (registerAll resources schema).outcome := by
  induction resources generalizing schema with
  | nil => exact registered_none distinct
  | cons resource rest claim =>
      have first : Registered schema (contribution resource) (schema.register resource).outcome :=
        add_fields_registered resource.rootFields distinct
      have parts : contributions (resource :: rest) = contribution resource ++ contributions rest :=
        List.flatMap_cons
      rw [registerAll, Attempt.outcome_bind, parts]
      revert first
      cases (schema.register resource).outcome with
      | done built =>
          intro first
          cases first with
          | done extended => exact (claim extended).after
      | failed duplicate =>
          intro first
          cases first with
          | failed repeats =>
              apply Registered.failed
              rw [keys_append] at repeats ⊢
              rw [List.map_append, ← List.append_assoc]
              exact repeats.append _
      | crashed =>
          intro first
          cases first

def contributedNames (resources : List Resource) (type : RootType) : List String :=
  ((contributions resources).filter fun entry => entry.field.type == type).map
    fun entry => entry.field.name

theorem mem_contributions {entry : SchemaEntry} :
    entry ∈ contributions resources ↔
      entry.resource ∈ resources ∧ entry.field ∈ entry.resource.rootFields := by
  unfold contributions contribution
  constructor
  · intro member
    obtain ⟨resource, registered, own⟩ := List.mem_flatMap.mp member
    obtain ⟨field, offered, same⟩ := List.mem_map.mp own
    subst same
    exact ⟨registered, offered⟩
  · intro member
    exact List.mem_flatMap.mpr
      ⟨entry.resource, member.1, List.mem_map.mpr ⟨entry.field, member.2, rfl⟩⟩

/-- Registering ends with all fields, or at the first that repeats an earlier one. -/
theorem register_all_ends (resources : List Resource) :
    (((contributions resources).map SchemaEntry.key).Nodup ∧
      (registerAll resources empty).outcome = .done ⟨contributions resources⟩) ∨
    ∃ duplicate, (registerAll resources empty).outcome = .failed duplicate ∧
      FirstRepeat ((contributions resources).map SchemaEntry.key)
        (duplicate.type, duplicate.field) := by
  have ended : Registered empty (contributions resources) (registerAll resources empty).outcome :=
    register_all_registered resources List.nodup_nil
  generalize (registerAll resources empty).outcome = outcome at ended ⊢
  cases ended with
  | done distinct => exact .inl ⟨distinct, rfl⟩
  | failed repeats => exact .inr ⟨_, rfl, repeats⟩

/-- What is built has the contributed fields and no others. -/
theorem built_entries (done : (registerAll resources empty).outcome = .done schema) :
    schema.entries = contributions resources ∧ schema.keys.Nodup := by
  rcases register_all_ends resources with ⟨distinct, built⟩ | ⟨duplicate, refused, -⟩
  · rw [built] at done
    cases done
    exact ⟨rfl, distinct⟩
  · rw [refused] at done
    cases done

theorem field_names_perm (type : RootType) :
    (schema.fieldNames type).Perm
      ((schema.entries.filter fun entry => entry.field.type == type).map
        fun entry => entry.field.name) :=
  List.mergeSort_perm _ _

theorem field_names_distinct (distinct : schema.keys.Nodup) (type : RootType) :
    (schema.fieldNames type).Nodup := by
  have kept : ((schema.entries.filter fun entry => entry.field.type == type).map
      SchemaEntry.key).Nodup := distinct.sublist (List.filter_sublist.map _)
  have paired : (schema.entries.filter fun entry => entry.field.type == type).map
      SchemaEntry.key = ((schema.entries.filter fun entry => entry.field.type == type).map
        fun entry => entry.field.name).map fun name => (type, name) := by
    rw [List.map_map]
    apply List.map_congr_left
    intro entry member
    have typed := (List.mem_filter.mp member).2
    rw [beq_iff_eq] at typed
    show (entry.field.type, entry.field.name) = (type, entry.field.name)
    rw [typed]
  rw [paired] at kept
  have names := List.Pairwise.of_map (fun name => (type, name))
    (fun first second apart same => apart (congrArg (Prod.mk type) same)) kept
  exact (field_names_perm type).nodup_iff.mpr names

theorem field_names_ascending (distinct : schema.keys.Nodup) (type : RootType) :
    (schema.fieldNames type).Pairwise (· < ·) := by
  have ordered : (schema.fieldNames type).Pairwise fun first second =>
      decide (first ≤ second) = true := by
    apply List.pairwise_mergeSort
    · intro first second third below above
      rw [decide_eq_true_eq] at below above ⊢
      exact String.le_trans below above
    · intro first second
      rw [Bool.or_eq_true, decide_eq_true_eq, decide_eq_true_eq]
      exact String.le_total first second
  have both := ordered.and (field_names_distinct distinct type)
  apply both.imp
  intro first second held
  have below := of_decide_eq_true held.1
  rcases Classical.em (first < second) with less | not
  · exact less
  · exact absurd (String.le_antisymm below (String.not_lt.mp not)) held.2

theorem execute_unknown {type : RootType} {name : String} (unknown : (type, name) ∉ schema.keys)
    (arguments : Json) (verifier : Verifier) (credential : Option String) (database : Database) :
    schema.execute verifier database ⟨type, name, arguments⟩ credential =
      ⟨.done (400, .failure (GraphError.unknownField type name), database),
        [⟨.debug, "unknown root field", []⟩]⟩ := by
  unfold execute
  rw [find_eq_none.mpr unknown]
  rfl

theorem Holds.execute_field (holds : Holds resources schema) (registered : resource ∈ resources)
    {field : RootField} (own : field ∈ resource.rootFields) (arguments : Json)
    (verifier : Verifier) (credential : Option String) (database : Database) :
    (schema.execute verifier database ⟨field.type, field.name, arguments⟩ credential).outcome =
      Graph.concluded resource.entity database field.name
        (Graph.resolve resource field.operation arguments credential verifier
          (database.backing resource.entity)).outcome := by
  let request : GraphRequest := ⟨field.type, field.name, arguments⟩
  have sought : schema.find? request.type request.field = some ⟨field, resource⟩ :=
    holds.found resource registered field own
  exact execute_entry sought

/-- A request that reaches a resource leaves the tables of all other names. -/
theorem concluded_elsewhere {entity other : Entity} {database after : Database} {field : String}
    {performed : Outcome ResourceError (Json × Backing)} {status : Nat} {response : GraphResponse}
    (done : Graph.concluded entity database field performed = .done (status, response, after))
    (elsewhere : other.table ≠ entity.table) : after.backing other = database.backing other := by
  rcases Graph.concluded_eq_done done with same | ⟨value, backing, -, stored⟩
  · rw [same]
  · rw [stored, Database.backing_store_other elsewhere]

/-- A schema of resources can be built exactly when the types and names of all their fields are
pairwise distinct; otherwise the first repetition is reported. A schema that is built lists the
contributed names in order, resolves each contributed field with its own resource, touching no
table but that resource's, and refuses everything else before anyone is identified. -/
theorem registration (resources : List Resource) :
    ((∃ schema, (registerAll resources empty).outcome = .done schema) ↔
      ((contributions resources).map SchemaEntry.key).Nodup) ∧
    (¬ ((contributions resources).map SchemaEntry.key).Nodup →
      ∃ duplicate, (registerAll resources empty).outcome = .failed duplicate ∧
        FirstRepeat ((contributions resources).map SchemaEntry.key)
          (duplicate.type, duplicate.field)) ∧
    ∀ schema, (registerAll resources empty).outcome = .done schema →
      (∀ type, (schema.fieldNames type).Perm (contributedNames resources type) ∧
        (schema.fieldNames type).Pairwise (· < ·)) ∧
      (∀ entry ∈ contributions resources, ∀ arguments verifier credential database,
        let answered := (schema.execute verifier database
          ⟨entry.field.type, entry.field.name, arguments⟩ credential).outcome
        answered = Graph.concluded entry.resource.entity database entry.field.name
          (Graph.resolve entry.resource entry.field.operation arguments credential verifier
            (database.backing entry.resource.entity)).outcome ∧
        ∀ status response after, answered = .done (status, response, after) →
          ∀ other : Entity, other.table ≠ entry.resource.entity.table →
            after.backing other = database.backing other) ∧
      ∀ type name, (type, name) ∉ (contributions resources).map SchemaEntry.key →
        ∃ message events, ∀ arguments verifier credential database,
          schema.execute verifier database ⟨type, name, arguments⟩ credential =
            ⟨.done (400, .failure ⟨"GRAPHQL_VALIDATION_FAILED", message⟩, database), events⟩ := by
  have ends := register_all_ends resources
  refine ⟨⟨?_, ?_⟩, ?_, ?_⟩
  · rintro ⟨schema, done⟩
    obtain ⟨entries, distinct⟩ := built_entries done
    rw [keys, entries] at distinct
    exact distinct
  · intro distinct
    rcases ends with ⟨-, built⟩ | ⟨duplicate, -, repeats⟩
    · exact ⟨_, built⟩
    · exact absurd distinct repeats.not_nodup
  · intro repeated
    rcases ends with ⟨distinct, -⟩ | refused
    · exact absurd distinct repeated
    · exact refused
  · intro schema done
    obtain ⟨entries, distinct⟩ := built_entries done
    have holds := holds_empty.register_all done
    refine ⟨?_, ?_, ?_⟩
    · intro type
      have listed : (schema.fieldNames type).Perm _ := field_names_perm type
      rw [entries] at listed
      exact ⟨listed, field_names_ascending distinct type⟩
    · intro entry member arguments verifier credential database
      obtain ⟨registered, own⟩ := mem_contributions.mp member
      have answered := holds.execute_field registered own arguments verifier credential database
      refine ⟨answered, ?_⟩
      intro status response after finished other elsewhere
      rw [answered] at finished
      exact concluded_elsewhere finished elsewhere
    · intro type name unknown
      rw [← entries] at unknown
      exact ⟨_, _, execute_unknown unknown⟩

/-- Questions and answers register; a resource whose name is its own singular contributes one query
field twice. -/
theorem registration_of_singular :
    let faqs : Resource := ⟨Entity.faqs, Faq.options⟩
    let sheep : Resource :=
      ⟨Entity.faqs, { ResourceOptions.named "sheep" with singular := some "sheep" }⟩
    ((contributions [faqs]).map SchemaEntry.key).Nodup ∧
    ((.query, "sheep") ∉ (contributions [faqs]).map SchemaEntry.key) ∧
    (∃ schema, (registerAll [faqs] empty).outcome = .done schema ∧
      ∃ message events, ∀ arguments verifier credential database,
        schema.execute verifier database ⟨.query, "sheep", arguments⟩ credential =
          ⟨.done (400, .failure ⟨"GRAPHQL_VALIDATION_FAILED", message⟩, database), events⟩) ∧
    ¬ ((contributions [faqs, sheep]).map SchemaEntry.key).Nodup ∧
    ∃ duplicate, (registerAll [faqs, sheep] empty).outcome = .failed duplicate ∧
      FirstRepeat ((contributions [faqs, sheep]).map SchemaEntry.key)
        (duplicate.type, duplicate.field) := by
  intro faqs sheep
  have distinct : ((contributions [faqs]).map SchemaEntry.key).Nodup := by decide
  have unknown : (.query, "sheep") ∉ (contributions [faqs]).map SchemaEntry.key := by decide
  have repeated : ¬ ((contributions [faqs, sheep]).map SchemaEntry.key).Nodup := by decide
  obtain ⟨schema, built⟩ := (registration [faqs]).1.mpr distinct
  have refuses := ((registration [faqs]).2.2 schema built).2.2 .query "sheep" unknown
  exact ⟨distinct, unknown, ⟨schema, built, refuses⟩, repeated,
    (registration [faqs, sheep]).2.1 repeated⟩

end Schema
end GatedResources
