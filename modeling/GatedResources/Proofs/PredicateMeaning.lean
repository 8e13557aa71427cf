import GatedResources.Proofs.Statements
import GatedResources.Resource.Error

/-!
# What predicates mean

A predicate says something of a record on its own account, without a statement to the store. A
sound predicate names a column and carries scalars only. Sound predicates become conditions
whose test is what they say; the first unsound one is the fault that is told. How much of a
statement predicates take up can be told from the predicates alone.
-/

namespace GatedResources

/-- The value that the store compares for a text, a number or a truth value. A double beyond the
finite range is the value of no JSON text and has none. -/
def Json.scalar? : Json -> Option Scalar
  | .string text => some (.text text)
  | .bool state => some (.integer (if state then 1 else 0))
  | .number (.integer value) => some (.integer value)
  | .number (.float value) => some (.real value)
  | .number .signedZero => some (.integer 0)
  | .number (.infinite _) | .null | .array _ | .object _ => none

def Json.IsWithin : Json -> Prop
  | .number (.integer value) => value ≤ Bound.greatest
  | _ => True

instance (value : Json) : Decidable value.IsWithin :=
  match value with
  | .number (.integer value) => inferInstanceAs (Decidable (value ≤ Bound.greatest))
  | .number (.float _) | .number .signedZero | .number (.infinite _) => .isTrue trivial
  | .null | .bool _ | .string _ | .array _ | .object _ => .isTrue trivial

def ResourceError.ofRefusal (reason : String) : ResourceError :=
  .store (.database reason)

theorem Outcome.Yields.of_store {α : Type} {fits : Prop} {outcome : Outcome StoreError α}
    {value : α} (yields : outcome.Yields .database fits value) :
    (outcome.mapError fun error => (ResourceError.ofStoreError error).value).Yields
      ResourceError.ofRefusal fits value :=
  yields.map_error fun error => (ResourceError.ofStoreError error).value

/-- A text of one letter that is repeated has that many bytes. -/
theorem utf8_size_repeated (count : Nat) :
    (String.ofList (List.replicate count 'x')).utf8ByteSize = count := by
  induction count with
  | zero => rfl
  | succ count claim =>
      rw [List.replicate_succ, String.ofList_cons, String.utf8ByteSize_append, claim]
      exact Nat.add_comm 1 count

/-- A text may be too long for the database to look for. -/
theorem overlong_repeated {count : Nat} (many : Sql.greatestPattern < count) :
    Sql.greatestPattern <
      ("%" ++ String.ofList (List.replicate count 'x') ++ "%").utf8ByteSize := by
  rw [String.utf8ByteSize_append, String.utf8ByteSize_append, utf8_size_repeated]
  exact Nat.lt_of_lt_of_le many (Nat.le_trans (Nat.le_add_left _ _) (Nat.le_add_right _ _))

namespace Record

def equalsValue (entity : Entity) (field : String) (record : Record) (value : Json) : Bool :=
  match value.scalar? with
  | some scalar => (Scalar.ofCell (record.cell field)).equal
      (Scalar.adapted (Condition.affinityOf entity field) scalar)
  | none => false

end Record

namespace Predicate

def carried : Predicate -> List Json
  | .equals _ value => [value]
  | .like _ _ => []
  | .oneOf _ values => values
  | .raw _ values => values

def IsPlain : Predicate -> Prop
  | .raw _ _ => False
  | _ => True

instance (predicate : Predicate) : Decidable predicate.IsPlain :=
  match predicate with
  | .equals _ _ | .like _ _ | .oneOf _ _ => .isTrue trivial
  | .raw _ _ => .isFalse id

def IsWithin (predicate : Predicate) : Prop :=
  ∀ value ∈ predicate.carried, value.IsWithin

instance (predicate : Predicate) : Decidable predicate.IsWithin :=
  List.decidableBAll _ predicate.carried

/-- A predicate names a column, and all its values are scalars. -/
def isSound (entity : Entity) (predicate : Predicate) : Bool :=
  match predicate.field? with
  | some field => entity.hasColumn field &&
      predicate.carried.all fun value => value.scalar?.isSome
  | none => false

def holds (entity : Entity) (record : Record) : Predicate -> Bool
  | .equals field value => record.equalsValue entity field value
  | .like field pattern => Condition.isLike field pattern record
  | .oneOf field values => values.any fun value => record.equalsValue entity field value
  | .raw _ _ => false

def allHold (entity : Entity) (predicates : List Predicate) (record : Record) : Bool :=
  predicates.all fun predicate => predicate.holds entity record

/-- How many values the predicate has in a statement; a choice of none is written with two. -/
def valueCount : Predicate -> Nat
  | .equals _ _ => 1
  | .like _ _ => 1
  | .oneOf _ [] => 2
  | .oneOf _ values => values.length
  | .raw _ values => values.length

def patternSize : Predicate -> Nat
  | .like _ pattern => pattern.utf8ByteSize
  | .equals _ _ | .oneOf _ _ | .raw _ _ => 0

/-- Predicates that the store takes in one statement, beside a number of further values: no
pattern is too long, and neither the values nor the predicates are too many. -/
structure FitStatement (predicates : List Predicate) (besides : Nat) : Prop where
  patterns : ∀ predicate ∈ predicates, predicate.patternSize ≤ Sql.greatestPattern
  values : (predicates.map valueCount).sum + besides ≤ Sql.greatestValues
  number : predicates.length + 2 ≤ Sql.greatestDepth

/-- The pattern for a text has two bytes more than the text. -/
theorem contains_size (field text : String) :
    (contains field text).patternSize = text.utf8ByteSize + 2 := by
  show ("%" ++ text ++ "%").utf8ByteSize = _
  rw [String.utf8ByteSize_append, String.utf8ByteSize_append]
  show 1 + text.utf8ByteSize + 1 = _
  omega

theorem contains_fits {field text : String}
    (short : text.utf8ByteSize + 2 ≤ Sql.greatestPattern) :
    FitStatement [contains field text] 0 := by
  refine ⟨?_, show 1 ≤ 32766 by decide, show 3 ≤ 1000 by decide⟩
  intro predicate member
  cases List.mem_singleton.mp member
  rw [contains_size]
  exact short

theorem plain_of_sound {entity : Entity} {predicates : List Predicate}
    (sound : ∀ predicate ∈ predicates, predicate.isSound entity = true) :
    ∀ predicate ∈ predicates, predicate.IsPlain := by
  intro predicate member
  have own := sound predicate member
  cases predicate with
  | equals | like | oneOf => trivial
  | raw sql values => cases own

theorem exists_first_unsound {entity : Entity} {predicates : List Predicate}
    (unsound : ∃ predicate ∈ predicates, predicate.isSound entity = false) :
    ∃ before predicate after, predicates = before ++ predicate :: after ∧
      (∀ held ∈ before, held.isSound entity = true) ∧ predicate.isSound entity = false := by
  induction predicates with
  | nil =>
      obtain ⟨predicate, member, _⟩ := unsound
      cases member
  | cons first rest claim =>
      cases own : first.isSound entity with
      | false =>
          refine ⟨[], first, rest, rfl, ?_, own⟩
          intro held member
          cases member
      | true =>
          obtain ⟨predicate, member, isNot⟩ := unsound
          have later : predicate ∈ rest := by
            rcases List.mem_cons.mp member with same | later
            · rw [same, own] at isNot
              cases isNot
            · exact later
          obtain ⟨before, found, after, split, sound, isNot⟩ := claim ⟨predicate, later, isNot⟩
          refine ⟨first :: before, found, after, by rw [split]; rfl, ?_, isNot⟩
          intro held inside
          rcases List.mem_cons.mp inside with same | inBefore
          · rw [same, own]
          · exact sound held inBefore

end Predicate

namespace Bound

theorem of_json_scalar {value : Json} {scalar : Scalar} (isScalar : value.scalar? = some scalar)
    (field : String) :
    ∃ bound, ofJson field value = .ok bound ∧ bound.scalar = scalar ∧
      (value.IsWithin → bound.isStorable = true) := by
  cases value with
  | null | array _ | object _ => cases isScalar
  | bool state =>
      cases isScalar
      exact ⟨.flag state, rfl, rfl, fun _ => rfl⟩
  | string text =>
      cases isScalar
      exact ⟨.text text, rfl, rfl, fun _ => rfl⟩
  | number value =>
      cases value with
      | integer number =>
          cases isScalar
          by_cases small : number ≤ greatest
          · exact ⟨.signed number, if_pos small, rfl, fun _ => rfl⟩
          · refine ⟨.unsigned number.toNat, if_neg small, ?_, fun within => absurd within small⟩
            have whole : (number.toNat : Int) = number := by omega
            exact congrArg Scalar.integer whole
      | float number =>
          cases isScalar
          exact ⟨.float number, rfl, rfl, fun _ => rfl⟩
      | signedZero =>
          cases isScalar
          exact ⟨.signed 0, rfl, rfl, fun _ => rfl⟩
      | infinite negative => cases isScalar

theorem of_json_other {value : Json} (other : value.scalar? = none) (field : String) :
    ofJson field value = .error (.unbindable field value.compact) := by
  cases value with
  | null | array _ | object _ => rfl
  | bool state => cases other
  | string text => cases other
  | number value =>
      cases value with
      | integer number | float number | signedZero => cases other
      | infinite negative => rfl

theorem of_json_all {values : List Json}
    (scalars : ∀ value ∈ values, value.scalar?.isSome = true) (field : String) :
    ∃ bounds, values.mapM (ofJson field) = .ok bounds ∧
      List.Forall₂ (fun value bound => value.scalar? = some bound.scalar) values bounds ∧
      ((∀ value ∈ values, value.IsWithin) → ∀ bound ∈ bounds, bound.isStorable = true) := by
  induction values with
  | nil =>
      refine ⟨[], rfl, .nil, ?_⟩
      intro _ bound member
      cases member
  | cons value rest claim =>
      obtain ⟨scalar, isScalar⟩ := Option.isSome_iff_exists.mp (scalars value List.mem_cons_self)
      obtain ⟨bound, taken, same, storable⟩ := of_json_scalar isScalar field
      obtain ⟨bounds, others, related, allStorable⟩ :=
        claim fun held member => scalars held (List.mem_cons_of_mem _ member)
      refine ⟨bound :: bounds, ?_, ?_, ?_⟩
      · rw [List.mapM_cons, taken, others]
        rfl
      · exact .cons (by rw [isScalar, same]) related
      · intro within held member
        rcases List.mem_cons.mp member with first | later
        · exact first ▸ storable (within value List.mem_cons_self)
        · exact allStorable (fun other inside => within other (List.mem_cons_of_mem _ inside)) held
            later

/-- A value that is no scalar ends the taking over, with the field that it was meant for. -/
theorem of_json_all_other {values : List Json}
    (other : ∃ value ∈ values, value.scalar? = none) (field : String) :
    ∃ text, values.mapM (ofJson field) = .error (.unbindable field text) := by
  induction values with
  | nil =>
      obtain ⟨value, member, _⟩ := other
      cases member
  | cons value rest claim =>
      rw [List.mapM_cons]
      cases isScalar : value.scalar? with
      | none =>
          rw [of_json_other isScalar]
          exact ⟨value.compact, rfl⟩
      | some scalar =>
          obtain ⟨bound, taken, _, _⟩ := of_json_scalar isScalar field
          obtain ⟨held, member, none⟩ := other
          have later : held ∈ rest := by
            rcases List.mem_cons.mp member with same | later
            · rw [same, isScalar] at none
              cases none
            · exact later
          obtain ⟨text, failed⟩ := claim ⟨held, later, none⟩
          rw [taken, failed]
          exact ⟨text, rfl⟩

end Bound

namespace Condition

variable {entity : Entity}

theorem column_known {field : String} (isColumn : entity.hasColumn field = true) :
    column entity field = .ok field :=
  if_pos isColumn

theorem column_unknown {field : String} (isColumn : ¬entity.hasColumn field = true) :
    column entity field = .error (.unknownField entity.table field) :=
  if_neg isColumn

theorem has_value_scalar {column : String} {value : Json} {bound : Bound}
    (same : value.scalar? = some bound.scalar) (record : Record) :
    hasValue entity column bound record = record.equalsValue entity column value := by
  unfold Record.equalsValue
  rw [same]
  rfl

theorem any_has_value {column : String} {values : List Json} {bounds : List Bound}
    (same : List.Forall₂ (fun value bound => value.scalar? = some bound.scalar) values bounds)
    (record : Record) :
    (bounds.any fun bound => hasValue entity column bound record) =
      values.any fun value => record.equalsValue entity column value := by
  induction same with
  | nil => rfl
  | cons first _ claim => rw [List.any_cons, List.any_cons, claim, has_value_scalar first]

theorem of_predicate_sound {predicate : Predicate} (sound : predicate.isSound entity = true) :
    ∃ condition, ofPredicate entity predicate = .ok condition ∧
      (predicate.IsWithin → condition.IsStorable) ∧
      test entity condition = .ok fun record => predicate.holds entity record := by
  cases predicate with
  | equals field value =>
      obtain ⟨isColumn, scalars⟩ := Bool.and_eq_true_iff.mp sound
      have isSome := List.all_eq_true.mp scalars value List.mem_cons_self
      obtain ⟨scalar, isScalar⟩ := Option.isSome_iff_exists.mp isSome
      obtain ⟨bound, taken, same, storable⟩ := Bound.of_json_scalar isScalar field
      refine ⟨.equals field bound, ?_, fun within => storable (within value List.mem_cons_self), ?_⟩
      · simp only [ofPredicate, column_known isColumn, taken]
        rfl
      · apply congrArg Except.ok
        funext record
        exact has_value_scalar (by rw [isScalar, same]) record
  | like field pattern =>
      obtain ⟨isColumn, _⟩ := Bool.and_eq_true_iff.mp sound
      refine ⟨.like field pattern, ?_, fun _ => trivial, rfl⟩
      simp only [ofPredicate, column_known isColumn]
      rfl
  | oneOf field values =>
      obtain ⟨isColumn, allScalars⟩ := Bool.and_eq_true_iff.mp sound
      have scalars : ∀ value ∈ values, value.scalar?.isSome = true :=
        List.all_eq_true.mp allScalars
      obtain ⟨bounds, taken, related, storable⟩ := Bound.of_json_all scalars field
      refine ⟨.oneOf field bounds, ?_, storable, ?_⟩
      · simp only [ofPredicate, column_known isColumn, taken]
        rfl
      · apply congrArg Except.ok
        funext record
        exact any_has_value related record
  | raw sql values => cases sound

/-- A plain predicate that is not sound has no condition, and the fault names its field. -/
theorem of_predicate_unsound {predicate : Predicate} (plain : predicate.IsPlain)
    (unsound : predicate.isSound entity = false) :
    ∃ error field reason, ofPredicate entity predicate = .error error ∧
      predicate.field? = some field ∧
      (ResourceError.ofStoreError error).value = .validation field reason := by
  cases predicate with
  | equals field value =>
      by_cases isColumn : entity.hasColumn field = true
      · have other : value.scalar? = none := by
          simpa [Predicate.isSound, Predicate.field?, Predicate.carried, isColumn] using unsound
        refine ⟨.unbindable field value.compact, field, _, ?_, rfl, rfl⟩
        simp only [ofPredicate, column_known isColumn, Bound.of_json_other other]
        rfl
      · refine ⟨.unknownField entity.table field, field, _, ?_, rfl, rfl⟩
        simp only [ofPredicate, column_unknown isColumn]
        rfl
  | like field pattern =>
      have isColumn : ¬entity.hasColumn field = true := by
        simpa [Predicate.isSound, Predicate.field?, Predicate.carried] using unsound
      refine ⟨.unknownField entity.table field, field, _, ?_, rfl, rfl⟩
      simp only [ofPredicate, column_unknown isColumn]
      rfl
  | oneOf field values =>
      by_cases scalars : ∀ value ∈ values, value.scalar?.isSome = true
      · obtain ⟨bounds, taken, _, _⟩ := Bound.of_json_all scalars field
        have isColumn : ¬entity.hasColumn field = true := by
          intro isColumn
          have sound : Predicate.isSound entity (.oneOf field values) = true :=
            Bool.and_eq_true_iff.mpr ⟨isColumn, List.all_eq_true.mpr scalars⟩
          rw [sound] at unsound
          cases unsound
        refine ⟨.unknownField entity.table field, field, _, ?_, rfl, rfl⟩
        simp only [ofPredicate, taken, column_unknown isColumn]
        rfl
      · have other : ∃ value ∈ values, value.scalar? = none := by
          simpa using scalars
        obtain ⟨text, failed⟩ := Bound.of_json_all_other other field
        refine ⟨.unbindable field text, field, _, ?_, rfl, rfl⟩
        simp only [ofPredicate, failed]
        rfl
  | raw sql values => cases plain

theorem of_predicates_sound {predicates : List Predicate}
    (sound : ∀ predicate ∈ predicates, predicate.isSound entity = true) :
    ∃ conditions, ofPredicates entity predicates = .ok conditions ∧
      ((∀ predicate ∈ predicates, predicate.IsWithin) →
        ∀ condition ∈ conditions, condition.IsStorable) ∧
      testAll entity conditions = .ok (Predicate.allHold entity predicates) := by
  have tests : ∃ conditions, ofPredicates entity predicates = .ok conditions ∧
      ((∀ predicate ∈ predicates, predicate.IsWithin) →
        ∀ condition ∈ conditions, condition.IsStorable) ∧
      conditions.mapM (test entity) =
        .ok (predicates.map fun predicate record => predicate.holds entity record) := by
    induction predicates with
    | nil =>
        refine ⟨[], rfl, ?_, rfl⟩
        intro _ condition member
        cases member
    | cons predicate rest claim =>
        obtain ⟨condition, made, storable, tested⟩ :=
          of_predicate_sound (sound predicate List.mem_cons_self)
        obtain ⟨conditions, others, allStorable, allTested⟩ :=
          claim fun held member => sound held (List.mem_cons_of_mem _ member)
        refine ⟨condition :: conditions, ?_, ?_, ?_⟩
        · unfold ofPredicates at others ⊢
          rw [List.mapM_cons, made, others]
          rfl
        · intro within held member
          rcases List.mem_cons.mp member with first | later
          · exact first ▸ storable (within predicate List.mem_cons_self)
          · exact allStorable (fun other inside => within other (List.mem_cons_of_mem _ inside))
              held later
        · rw [List.mapM_cons, tested, allTested]
          rfl
  obtain ⟨conditions, made, storable, tested⟩ := tests
  refine ⟨conditions, made, storable, ?_⟩
  unfold testAll
  rw [tested]
  apply congrArg Except.ok
  funext record
  unfold Predicate.allHold
  rw [List.all_map]
  rfl

/-- What a condition takes up of a statement is what its predicate takes up. -/
structure SizedAs (entity : Entity) (predicate : Predicate) (condition : Condition) : Prop where
  values : condition.valueCount = predicate.valueCount
  pattern : condition.isOverlong = true ↔ Sql.greatestPattern < predicate.patternSize
  depth : predicate.IsPlain → condition.depth entity ≤ 3

theorem of_predicate_sized {predicate : Predicate} {condition : Condition}
    (made : ofPredicate entity predicate = .ok condition) :
    SizedAs entity predicate condition := by
  cases predicate with
  | equals field value =>
      obtain ⟨_, _, made⟩ := except_bind_eq_ok.mp made
      obtain ⟨_, _, made⟩ := except_bind_eq_ok.mp made
      cases made
      exact ⟨rfl, by simp [isOverlong, Predicate.patternSize], fun _ => Nat.le_refl 3⟩
  | like field pattern =>
      obtain ⟨_, _, made⟩ := except_bind_eq_ok.mp made
      cases made
      exact ⟨rfl, decide_eq_true_iff, fun _ => Nat.le_refl 3⟩
  | oneOf field values =>
      obtain ⟨bounds, taken, made⟩ := except_bind_eq_ok.mp made
      obtain ⟨_, _, made⟩ := except_bind_eq_ok.mp made
      cases made
      have related := except_map_related taken
      cases related with
      | nil =>
          refine ⟨rfl, ?_, fun _ => show 2 ≤ 3 by decide⟩
          simp [isOverlong, Predicate.patternSize]
      | cons _ rest =>
          refine ⟨congrArg (· + 1) rest.length_eq.symm, ?_, fun _ => Nat.le_refl 3⟩
          simp [isOverlong, Predicate.patternSize]
  | raw sql values =>
      obtain ⟨bounds, taken, made⟩ := except_bind_eq_ok.mp made
      cases made
      refine ⟨(except_map_related taken).length_eq.symm, ?_, fun impossible => impossible.elim⟩
      simp [isOverlong, Predicate.patternSize]

theorem of_predicates_sized {predicates : List Predicate} {conditions : List Condition}
    (made : ofPredicates entity predicates = .ok conditions) :
    List.Forall₂ (SizedAs entity) predicates conditions :=
  (except_map_related made).imp fun _ _ => of_predicate_sized

theorem sized_value_count {predicates : List Predicate} {conditions : List Condition}
    (sized : List.Forall₂ (SizedAs entity) predicates conditions) :
    conditions.map valueCount = predicates.map Predicate.valueCount := by
  induction sized with
  | nil => rfl
  | cons first _ claim => rw [List.map_cons, List.map_cons, first.values, claim]

theorem exists_sized {predicates : List Predicate} {conditions : List Condition}
    (sized : List.Forall₂ (SizedAs entity) predicates conditions) {condition : Condition}
    (inside : condition ∈ conditions) :
    ∃ predicate ∈ predicates, SizedAs entity predicate condition := by
  induction sized with
  | nil => cases inside
  | cons first _ claim =>
      rcases List.mem_cons.mp inside with same | later
      · subst same
        exact ⟨_, List.mem_cons_self, first⟩
      · obtain ⟨predicate, member, own⟩ := claim later
        exact ⟨predicate, List.mem_cons_of_mem _ member, own⟩

theorem overlong_iff {predicates : List Predicate} {conditions : List Condition}
    (sized : List.Forall₂ (SizedAs entity) predicates conditions) :
    (∃ condition ∈ conditions, condition.isOverlong = true) ↔
      ∃ predicate ∈ predicates, Sql.greatestPattern < predicate.patternSize := by
  induction sized with
  | nil => simp
  | cons first _ claim =>
      rw [List.exists_mem_cons_iff, List.exists_mem_cons_iff, claim, first.pattern]

/-- Some of the predicates have some of the conditions, in the same order. -/
theorem of_predicates_sublist {fewer more : List Predicate} {conditions : List Condition}
    (among : fewer.Sublist more) (made : ofPredicates entity more = .ok conditions) :
    ∃ some, ofPredicates entity fewer = .ok some ∧ some.Sublist conditions := by
  unfold ofPredicates at made ⊢
  induction among generalizing conditions with
  | slnil =>
      cases made
      exact ⟨[], rfl, .slnil⟩
  | cons predicate _ claim =>
      rw [List.mapM_cons] at made
      obtain ⟨own, _, made⟩ := except_bind_eq_ok.mp made
      obtain ⟨others, mapped, finished⟩ := except_bind_eq_ok.mp made
      cases finished
      obtain ⟨some, taken, inside⟩ := claim mapped
      exact ⟨some, taken, inside.cons own⟩
  | cons_cons predicate _ claim =>
      rw [List.mapM_cons] at made
      obtain ⟨own, changed, made⟩ := except_bind_eq_ok.mp made
      obtain ⟨others, mapped, finished⟩ := except_bind_eq_ok.mp made
      cases finished
      obtain ⟨some, taken, inside⟩ := claim mapped
      refine ⟨own :: some, ?_, inside.cons_cons own⟩
      rw [List.mapM_cons, changed, taken]
      rfl

/-- Predicates that fit a statement have conditions that do. -/
theorem of_predicates_fitting {predicates : List Predicate} {conditions : List Condition}
    {besides : Nat} (made : ofPredicates entity predicates = .ok conditions)
    (plain : ∀ predicate ∈ predicates, predicate.IsPlain)
    (fit : Predicate.FitStatement predicates besides) :
    FitStatement entity conditions besides := by
  have sized := of_predicates_sized made
  refine ⟨?_, ?_, ?_⟩
  · intro condition inside
    obtain ⟨predicate, member, own⟩ := exists_sized sized inside
    rw [← Bool.not_eq_true, own.pattern, Nat.not_lt]
    exact fit.patterns predicate member
  · rw [sized_value_count sized]
    exact fit.values
  · refine Nat.le_trans (joined_depth_le ?_) (sized.length_eq ▸ fit.number)
    intro condition inside
    obtain ⟨predicate, member, own⟩ := exists_sized sized inside
    exact own.depth (plain predicate member)

/-- The first unsound predicate is the one that is told. -/
theorem of_predicates_unsound {before after : List Predicate} {predicate : Predicate}
    (sound : ∀ held ∈ before, held.isSound entity = true) (plain : predicate.IsPlain)
    (unsound : predicate.isSound entity = false) :
    ∃ error field reason, ofPredicates entity (before ++ predicate :: after) = .error error ∧
      predicate.field? = some field ∧
      (ResourceError.ofStoreError error).value = .validation field reason := by
  obtain ⟨error, field, reason, failed, named, told⟩ := of_predicate_unsound plain unsound
  obtain ⟨conditions, made, _, _⟩ := of_predicates_sound sound
  refine ⟨error, field, reason, ?_, named, told⟩
  unfold ofPredicates at made ⊢
  rw [List.mapM_append, made, List.mapM_cons, failed]
  rfl

end Condition
end GatedResources
