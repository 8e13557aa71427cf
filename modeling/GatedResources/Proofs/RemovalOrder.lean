import GatedResources.Proofs.BulkRemoval
import GatedResources.Proofs.NarrowedRemovals

/-!
# The order of removals

Whether a removal fails is settled by what it asks for, before the store looks at the table, and
which records it takes away is settled record by record. So removals can be put to a resource in any
order: the same ones fail, and what is left is what none of the others selects. One with a pattern
that is too long takes nothing away in any order, but whether the database refuses it depends on the
records that are there.
-/

namespace GatedResources

/-- A removal of a record, or of the records of a filter, or of those that meet further
predicates too. -/
inductive Removal where
  | one (identifier : Int)
  | many (request : FilterRequest)
  | manyWhere (request : FilterRequest) (extra : List Predicate)

namespace Removal

def steps (handle : Handle .delete) (principal : Principal) :
    Removal -> Autocommit ResourceError Bool
  | .one identifier => Autocommit.remove handle principal identifier
  | .many request => Autocommit.removeMany handle principal request
  | .manyWhere request extra => Autocommit.removeManyWhere handle principal request extra

def runAll (handle : Handle .delete) (principal : Principal) :
    Backing -> List Removal -> List (Outcome ResourceError Bool) × Backing
  | backing, [] => ([], backing)
  | backing, removal :: rest =>
      let (ended, left) := (removal.steps handle principal).run backing
      let (others, last) := runAll handle principal left rest
      (ended :: others, last)

/-- The predicates that the store is asked with. A filter without any stops the further ones. -/
def asked (resource : Resource) : Removal -> List Predicate
  | .one identifier => [.equals identifierField (.integer identifier)]
  | .many request => resource.filterPredicates request.filter
  | .manyWhere request extra =>
      if (resource.filterPredicates request.filter).isEmpty then []
      else resource.filterPredicates request.filter ++ extra

/-- Whether a record is what a removal asks for. Without predicates none is. -/
def selects (resource : Resource) (removal : Removal) (record : Record) : Bool :=
  !(removal.asked resource).isEmpty &&
    Predicate.allHold resource.entity (removal.asked resource) record

/-- A removal that asks with nothing in the language of the store, and with whole numbers that the
store can take. -/
def IsProper (resource : Resource) (removal : Removal) : Prop :=
  ∀ predicate ∈ removal.asked resource, predicate.IsPlain ∧ predicate.IsWithin

instance (resource : Resource) (removal : Removal) : Decidable (removal.IsProper resource) :=
  List.decidableBAll _ (removal.asked resource)

/-- The fault of what a removal asks with, if it has one: it makes no sense or is too much for one
statement. -/
def fault? (resource : Resource) (removal : Removal) : Option ResourceError :=
  match Condition.ofPredicates resource.entity (removal.asked resource) with
  | .ok conditions =>
      (Sql.excess? resource.entity conditions (Sql.parameters
        (Sql.deleteWhere resource.entity resource.entity.table conditions))).map
          ResourceError.ofRefusal
  | .error error => some (ResourceError.ofStoreError error).value

def isOverlong (resource : Resource) (removal : Removal) : Bool :=
  (removal.asked resource).any fun predicate => Sql.greatestPattern < predicate.patternSize

def takes (resource : Resource) (removal : Removal) (record : Record) : Bool :=
  (removal.fault? resource).isNone && !removal.isOverlong resource &&
    removal.selects resource record

/-- How a removal ends that has a fault or none. With a pattern that is too long it may be refused
without a fault, and otherwise finds nothing. -/
def Ends (fault : Option ResourceError) (overlong : Bool) (ended : Outcome ResourceError Bool) :
    Prop :=
  match fault, overlong with
  | some error, _ => ended = .failed error
  | none, false => ∃ removed, ended = .done removed
  | none, true => ended = .done false ∨ ∃ reason, ended = .failed (.ofRefusal reason)

end Removal

theorem Store.delete_where_proper {entity : Entity} (table : Table) {predicates : List Predicate}
    (plain : ∀ predicate ∈ predicates, predicate.IsPlain)
    (within : ∀ predicate ∈ predicates, predicate.IsWithin) (nonempty : predicates ≠ []) :
    (∃ error, Condition.ofPredicates entity predicates = .error error ∧
      (deleteWhere entity (some table) predicates).outcome = .failed error) ∨
    ∃ conditions, Condition.ofPredicates entity predicates = .ok conditions ∧
      Condition.testAll entity conditions = .ok (Predicate.allHold entity predicates) ∧
      (deleteWhere entity (some table) predicates).outcome =
        (deletionRefusal? entity conditions table.records).elim
          (.done ((table.records.filter (Predicate.allHold entity predicates)).length,
            some (table.without (Predicate.allHold entity predicates))))
          fun reason => .failed (.database reason) := by
  by_cases sound : ∀ predicate ∈ predicates, predicate.isSound entity = true
  · obtain ⟨conditions, made, storable, tested⟩ := Condition.of_predicates_sound sound
    exact .inr ⟨conditions, made, tested,
      delete_where_formed (storable within) tested nonempty made⟩
  · obtain ⟨error, _, _, failed, _⟩ := of_predicates_failed plain sound
    refine .inl ⟨error, failed, ?_⟩
    rw [delete_where_outcome nonempty, failed, Outcome.of_except_error, Outcome.failed_bind]

namespace Removal

variable {handle : Handle .delete} {principal : Principal} {removal : Removal}

/-! ## Single removals -/

/-- A removal without a fault makes sense. One that makes sense has no fault if it fits a statement,
and no other fault than that it is refused for its size. -/
theorem IsProper.faultless {resource : Resource} (proper : removal.IsProper resource) :
    let sound := ∀ predicate ∈ removal.asked resource, predicate.isSound resource.entity = true
    (removal.fault? resource = none → sound) ∧
    (sound → Predicate.FitStatement (removal.asked resource) 0 →
      removal.fault? resource = none) ∧
    (sound → ∀ error, removal.fault? resource = some error →
      ∃ reason, error = .ofRefusal reason) := by
  intro sound
  by_cases isSound : sound
  · obtain ⟨conditions, made, _⟩ := Condition.of_predicates_sound isSound
    rw [fault?, made]
    dsimp only
    refine ⟨fun _ => isSound, ?_, ?_⟩
    · intro _ fit
      have fits := Condition.of_predicates_fitting made (Predicate.plain_of_sound isSound) fit
      have small : Sql.excess? resource.entity conditions (Sql.parameters
          (Sql.deleteWhere resource.entity resource.entity.table conditions)) = none := by
        rw [Backing.excess_none_iff, Store.delete_count]
        exact ⟨fits.values, fits.depth⟩
      rw [small]
      rfl
    · intro _ error own
      obtain ⟨reason, _, same⟩ := Option.map_eq_some_iff.mp own
      exact ⟨reason, same.symm⟩
  · obtain ⟨error, _, _, failed, _⟩ :=
      Store.of_predicates_failed (fun predicate member => (proper predicate member).1) isSound
    rw [fault?, failed]
    exact ⟨nofun, fun impossible => absurd impossible isSound,
      fun impossible => absurd impossible isSound⟩

/-- A removal with a fault takes nothing away. -/
theorem takes_none_of_fault {resource : Resource} {error : ResourceError}
    (fault : removal.fault? resource = some error) : removal.takes resource = fun _ => false := by
  funext record
  rw [takes, fault]
  rfl

theorem takes_none_of_unasked {resource : Resource} (nothing : removal.asked resource = []) :
    removal.takes resource = fun _ => false := by
  funext record
  rw [takes, selects, nothing]
  exact Bool.and_false _

theorem takes_asked {resource : Resource} (something : removal.asked resource ≠ [])
    (faultless : removal.fault? resource = none) (short : removal.isOverlong resource = false) :
    removal.takes resource = Predicate.allHold resource.entity (removal.asked resource) := by
  funext record
  rw [takes, faultless, short, selects, List.isEmpty_eq_false_iff.mpr something]
  rfl

theorem takes_none_of_long {resource : Resource} (long : removal.isOverlong resource = true) :
    removal.takes resource = fun _ => false := by
  funext record
  rw [takes, long, Bool.not_true, Bool.and_false, Bool.false_and]

section Formed

variable {resource : Resource} {conditions : List Condition}
  (made : Condition.ofPredicates resource.entity (removal.asked resource) = .ok conditions)

include made

/-- What makes sense has a fault only for its size. -/
theorem fault_formed :
    removal.fault? resource = (Sql.excess? resource.entity conditions (Sql.parameters
      (Sql.deleteWhere resource.entity resource.entity.table conditions))).map
        ResourceError.ofRefusal := by
  rw [fault?, made]

theorem overlong_formed : removal.isOverlong resource = true ↔
    ∃ condition ∈ conditions, condition.isOverlong = true := by
  rw [Condition.overlong_iff (Condition.of_predicates_sized made), isOverlong, List.any_eq_true]
  simp only [decide_eq_true_eq]

/-- A deletion ends as the fault of the removal says, and leaves what the removal does not take. -/
theorem deletion_ends (something : removal.asked resource ≠ [])
    (tested : Condition.testAll resource.entity conditions =
      .ok (Predicate.allHold resource.entity (removal.asked resource))) (table : Table)
    {deletion : Outcome StoreError (Nat × Backing)}
    (done : deletion = (Store.deletionRefusal? resource.entity conditions table.records).elim
      (.done ((table.records.filter
          (Predicate.allHold resource.entity (removal.asked resource))).length,
        some (table.without (Predicate.allHold resource.entity (removal.asked resource)))))
      fun reason => .failed (.database reason)) :
    ∃ ended, Autocommit.ending (some table) ((deletion.mapError fun error =>
        (ResourceError.ofStoreError error).value) >>= fun deleted =>
          .done (decide (0 < deleted.1), deleted.2)) =
        (ended, some (table.without (removal.takes resource))) ∧
      Ends (removal.fault? resource) (removal.isOverlong resource) ended := by
  have fault := fault_formed made
  rw [done]
  cases small : Sql.excess? resource.entity conditions (Sql.parameters
      (Sql.deleteWhere resource.entity resource.entity.table conditions)) with
  | some reason =>
      rw [small] at fault
      rw [fault, takes_none_of_fault fault, Table.without_false, Store.deletionRefusal?,
        Backing.refusal?, small]
      exact ⟨_, rfl, rfl⟩
  | none =>
      rw [small] at fault
      cases long : removal.isOverlong resource with
      | false =>
          have short : ∀ condition ∈ conditions, condition.isOverlong = false := by
            simpa [long] using overlong_formed made
          rw [takes_asked something fault long, fault, Store.deletionRefusal?,
            Backing.refusal_short short, small]
          exact ⟨_, rfl, _, rfl⟩
      | true =>
          rw [fault, takes_none_of_long long, Table.without_false]
          cases refused : Store.deletionRefusal? resource.entity conditions table.records with
          | some reason => exact ⟨_, rfl, .inr ⟨reason, rfl⟩⟩
          | none =>
              have unselected := Condition.interruption_none_selects
                (Option.or_eq_none_iff.mp refused).2 ((overlong_formed made).mp long) tested
              rw [Option.elim_none, unselected, Table.without_none unselected]
              exact ⟨_, rfl, .inl rfl⟩

end Formed

section Steps

variable (admitted : (handle.resource.gate .delete principal).outcome = .done ())

include admitted

/-- A removal that asks with nothing is done without the store. -/
theorem steps_unasked (nothing : removal.asked handle.resource = []) (backing : Backing) :
    (removal.steps handle principal).run backing = (.done false, backing) := by
  cases removal with
  | one identifier => cases nothing
  | many request =>
      rw [steps, Autocommit.remove_many_whole]
      unfold Handle.removeMany
      rw [Handle.remove_many_where_unfiltered admitted nothing]
      rfl
  | manyWhere request extra =>
      have unusable : handle.resource.filterPredicates request.filter = [] := by
        by_contra usable
        rw [asked, if_neg (by simpa using usable)] at nothing
        exact usable (List.append_eq_nil_iff.mp nothing).1
      rw [steps, Autocommit.remove_many_where_whole,
        Handle.remove_many_where_unfiltered admitted unusable]
      rfl

/-- Any other removal is done as the store does it. -/
theorem steps_asked (something : removal.asked handle.resource ≠ []) (backing : Backing) :
    (removal.steps handle principal).run backing = Autocommit.ending backing
      (((Store.deleteWhere handle.resource.entity backing
        (removal.asked handle.resource)).outcome.mapError fun error =>
          (ResourceError.ofStoreError error).value) >>= fun deleted =>
            .done (decide (0 < deleted.1), deleted.2)) := by
  cases removal with
  | one identifier =>
      rw [steps, Autocommit.remove_whole, Handle.remove_outcome, admitted, Outcome.done_bind]
      rfl
  | many request =>
      rw [steps, Autocommit.remove_many_whole]
      unfold Handle.removeMany
      rw [Handle.remove_many_where_filtered admitted something, List.append_nil]
      rfl
  | manyWhere request extra =>
      have usable : handle.resource.filterPredicates request.filter ≠ [] := by
        intro unusable
        rw [asked, unusable] at something
        exact something rfl
      rw [steps, Autocommit.remove_many_where_whole,
        Handle.remove_many_where_filtered admitted usable, asked, if_neg (by simpa using usable)]

/-- A removal ends as its fault says, and leaves what it does not take. -/
theorem steps_end (proper : removal.IsProper handle.resource) (table : Table) :
    ∃ ended, (removal.steps handle principal).run (some table) =
        (ended, some (table.without (removal.takes handle.resource))) ∧
      Ends (removal.fault? handle.resource) (removal.isOverlong handle.resource) ended := by
  by_cases nothing : removal.asked handle.resource = []
  · have faultless : removal.fault? handle.resource = none := by
      rw [fault?, nothing]
      rfl
    have short : removal.isOverlong handle.resource = false := by
      rw [isOverlong, nothing]
      rfl
    rw [steps_unasked admitted nothing, faultless, short, takes_none_of_unasked nothing,
      Table.without_false]
    exact ⟨_, rfl, _, rfl⟩
  · rw [steps_asked admitted nothing]
    rcases Store.delete_where_proper table
        (fun predicate member => (proper predicate member).1)
        (fun predicate member => (proper predicate member).2) nothing
      with ⟨error, failed, deletion⟩ | ⟨conditions, made, tested, deletion⟩
    · have fault : removal.fault? handle.resource =
          some (ResourceError.ofStoreError error).value := by
        rw [fault?, failed]
      rw [deletion, fault, takes_none_of_fault fault, Table.without_false]
      exact ⟨_, rfl, rfl⟩
    · exact deletion_ends made nothing tested table deletion

/-! ## Runs of removals -/

theorem run_ends (removals : List Removal)
    (proper : ∀ removal ∈ removals, removal.IsProper handle.resource) (table : Table) :
    ∃ endings, runAll handle principal (some table) removals =
        (endings, some (table.without fun record =>
          removals.any fun removal => removal.takes handle.resource record)) ∧
      List.Forall₂ (fun removal => Ends (removal.fault? handle.resource)
        (removal.isOverlong handle.resource)) removals endings := by
  induction removals generalizing table with
  | nil =>
      refine ⟨[], ?_, .nil⟩
      simp only [List.any_nil, Table.without_false]
      rfl
  | cons removal rest claim =>
      obtain ⟨ended, step, ends⟩ :=
        steps_end admitted (proper removal List.mem_cons_self) table
      obtain ⟨endings, run, others⟩ :=
        claim (fun later member => proper later (List.mem_cons_of_mem _ member))
          (table.without (removal.takes handle.resource))
      refine ⟨ended :: endings, ?_, .cons ends others⟩
      rw [runAll, step]
      dsimp only
      rw [run, Table.without_without]
      rfl

end Steps

theorem run_pair {first second : Removal} {backing middle last : Backing}
    {ended endedToo : Outcome ResourceError Bool}
    (isFirst : (first.steps handle principal).run backing = (ended, middle))
    (isSecond : (second.steps handle principal).run middle = (endedToo, last)) :
    runAll handle principal backing [first, second] = ([ended, endedToo], last) := by
  rw [runAll, isFirst]
  dsimp only
  rw [runAll, isSecond]
  rfl

/-- Removals can be put in any order. Each of them fails or not by what it asks for alone, which
makes sense or does not and is too much for a statement or is not, and a record is left when none
that does not fail selects it. Only a removal with a pattern that is too long may find the database
refuse it in one order and not in another, and it takes nothing away in either. -/
theorem removals_commute {handle : Handle .delete} {principal : Principal}
    (admitted : (handle.resource.gate .delete principal).outcome = .done ()) :
    ∃ fault : Removal -> Option ResourceError,
      (∀ removal : Removal, removal.IsProper handle.resource →
        let sound := ∀ predicate ∈ removal.asked handle.resource,
          predicate.isSound handle.resource.entity = true
        (fault removal = none → sound) ∧
        (sound → Predicate.FitStatement (removal.asked handle.resource) 0 →
          fault removal = none) ∧
        (sound → ∀ error, fault removal = some error → ∃ reason, error = .ofRefusal reason)) ∧
      ∀ removals : List Removal, (∀ removal ∈ removals, removal.IsProper handle.resource) →
      ∀ table : Table,
      ∃ left : Table, left.nextIdentifier = table.nextIdentifier ∧
        left.records = (table.records.filter fun record => removals.all fun removal =>
          (fault removal).isSome || removal.isOverlong handle.resource ||
            !removal.selects handle.resource record) ∧
        ∀ order : List Removal, order.Perm removals →
          ∃ endings, runAll handle principal (some table) order = (endings, some left) ∧
            List.Forall₂ (fun removal =>
              Ends (fault removal) (removal.isOverlong handle.resource)) order endings := by
  refine ⟨fault? handle.resource, fun removal => IsProper.faultless, ?_⟩
  intro removals proper table
  let taken := fun record => removals.any fun removal => removal.takes handle.resource record
  refine ⟨table.without taken, rfl, ?_, ?_⟩
  · apply List.filter_congr
    intro record _
    rw [List.not_any_eq_all_not]
    congr 1
    funext removal
    rw [takes, Bool.not_and, Bool.not_and, Option.not_isNone, Bool.not_not]
  · intro order reordered
    have same : (fun record => order.any fun removal => removal.takes handle.resource record) =
        taken := by
      funext record
      exact reordered.any_eq
    obtain ⟨endings, run, ends⟩ :=
      run_ends admitted order (fun removal member => proper removal (reordered.mem_iff.mp member))
        table
    rw [same] at run
    exact ⟨endings, run, ends⟩

/-- Two drafts and a live question, of which one draft and the live one go, whichever removal comes
first. A removal that asks for an unknown field fails in either order. -/
theorem removals_of_questions_commute :
    let resource : Resource :=
      ⟨Entity.faqs, { ResourceOptions.named "faqs" with policy := ⟨Action.all, []⟩ }⟩
    let handle : Handle .delete := ⟨resource, rfl⟩
    let question := fun (number : Int) (text status : String) =>
      ([("id", .integer number), ("question", .text text), ("answer", .text ""),
        ("status", .text status)] : Record)
    let table : Table :=
      ⟨[question 1 "Why?" "draft", question 2 "How?" "draft", question 3 "Who?" "live"], 4⟩
    let drafts : FilterRequest := ⟨some (.structured (.object [("status", .string "draft")]))⟩
    let why : Removal := .manyWhere drafts [.equals "question" (.string "Why?")]
    let unknown : Removal := .manyWhere drafts [.equals "author" (.string "me")]
    let removals := [why, unknown, .one 3, .many ⟨none⟩]
    let refused : Outcome ResourceError Bool := .failed (.validation "author" "unknown field")
    (resource.gate .delete .anonymous).outcome = .done () ∧
    (∀ removal ∈ removals, removal.IsProper resource) ∧
    runAll handle .anonymous (some table) removals =
      ([.done true, refused, .done true, .done false],
        some ⟨[question 2 "How?" "draft"], 4⟩) ∧
    ∃ endings, runAll handle .anonymous (some table) removals.reverse =
        (endings, some ⟨[question 2 "How?" "draft"], 4⟩) ∧
      endings[2]? = some refused := by
  intro resource handle question table drafts why unknown removals refused
  have admitted : (handle.resource.gate .delete .anonymous).outcome = .done () := rfl
  have proper : ∀ removal ∈ removals, removal.IsProper resource := by
    unfold removals
    simp only [List.forall_mem_cons]
    decide +kernel
  have computed : runAll handle .anonymous (some table) removals =
      ([.done true, refused, .done true, .done false],
        some ⟨[question 2 "How?" "draft"], 4⟩) := by
    decide +kernel
  obtain ⟨fault, _, commute⟩ := removals_commute admitted
  obtain ⟨left, _, _, runs⟩ := commute removals proper table
  obtain ⟨endings, run, ends⟩ := runs removals (.refl _)
  obtain ⟨endingsToo, runToo, endsToo⟩ := runs removals.reverse (List.reverse_perm _)
  cases computed.symm.trans run
  refine ⟨admitted, proper, computed, endingsToo, runToo, ?_⟩
  change List.Forall₂ _ [why, unknown, .one 3, .many ⟨none⟩] [_, refused, _, _] at ends
  change List.Forall₂ _ [.many ⟨none⟩, .one 3, unknown, why] endingsToo at endsToo
  obtain _ | ⟨_, _ | ⟨own, _⟩⟩ := ends
  obtain _ | ⟨_, _ | ⟨_, _ | ⟨ownToo, _⟩⟩⟩ := endsToo
  have short : unknown.isOverlong resource = false := by decide +kernel
  cases faulty : fault unknown with
  | none =>
      rw [faulty, short] at own
      obtain ⟨_, impossible⟩ := own
      exact absurd impossible (by simp [refused])
  | some error =>
      rw [faulty] at own ownToo
      exact congrArg some (ownToo.trans own.symm)

/-- A removal by a text of sixty thousand letters fails before the only question is removed, and not
after it. -/
theorem removals_of_long_text_ordered :
    let resource : Resource :=
      ⟨Entity.faqs, { ResourceOptions.named "faqs" with policy := ⟨Action.all, []⟩ }⟩
    let handle : Handle .delete := ⟨resource, rfl⟩
    let words := String.ofList (List.replicate 60000 'x')
    let long : Removal := .many ⟨some (.structured (.object [("question", .string words)]))⟩
    let table : Table := ⟨[[("id", .integer 1), ("question", .text "a"), ("answer", .text ""),
      ("status", .text "draft")]], 2⟩
    long.IsProper resource ∧
    (∃ error, runAll handle .anonymous (some table) [long, .one 1] =
      ([.failed error, .done true], some ⟨[], 2⟩)) ∧
    runAll handle .anonymous (some table) [.one 1, long] =
      ([.done true, .done false], some ⟨[], 2⟩) := by
  intro resource handle words long table
  have admitted : (handle.resource.gate .delete .anonymous).outcome = .done () := rfl
  have asked : long.asked handle.resource = [.like "question" ("%" ++ words ++ "%")] := rfl
  have asks : long.asked handle.resource ≠ [] := by
    rw [asked]
    exact List.cons_ne_nil _ _
  have isColumn : handle.resource.entity.hasColumn "question" = true := by decide
  have isLong : Sql.greatestPattern < ("%" ++ words ++ "%").utf8ByteSize :=
    overlong_repeated (show 50000 < 60000 by decide)
  have removed : ((Removal.one 1).steps handle .anonymous).run (some table) =
      (.done true, some ⟨[], 2⟩) := by
    decide +kernel
  refine ⟨?_, ?_, ?_⟩
  · intro predicate member
    change predicate ∈ long.asked handle.resource at member
    rw [asked] at member
    cases List.mem_singleton.mp member
    exact ⟨trivial, fun _ impossible => by cases impossible⟩
  · have filled : table.records ≠ [] := List.cons_ne_nil _ _
    have failed : ∃ error, (long.steps handle .anonymous).run (some table) =
        (.failed error, some table) := by
      rw [steps_asked admitted asks, asked, Store.delete_where_overlong isColumn isLong filled]
      exact ⟨_, rfl⟩
    obtain ⟨error, failed⟩ := failed
    exact ⟨error, run_pair failed removed⟩
  · have vacant : (long.steps handle .anonymous).run (some ⟨[], 2⟩) =
        (.done false, some ⟨[], 2⟩) := by
      rw [steps_asked admitted asks, asked, Store.delete_where_unread isColumn rfl]
      rfl
    exact run_pair removed vacant

end Removal

end GatedResources
