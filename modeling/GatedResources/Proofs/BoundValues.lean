import GatedResources.Proofs.StatementText

/-!
# Values stay out of statement text

The text of a selection depends on the form of the predicates only, so no value that a caller gives
can change it. Read back, the text has one placeholder for each value, and no names but those of
the entity and of the source.
-/

namespace GatedResources

inductive PredicateForm where
  | equals (field : String)
  | like (field : String)
  | oneOf (field : String) (count : Nat)
  | raw
deriving DecidableEq, Repr

namespace PredicateForm

def HasChoice : PredicateForm -> Prop
  | .oneOf _ count => count ≠ 0
  | _ => True

def IsKnown (known : String -> Prop) : PredicateForm -> Prop
  | .equals field => known field
  | .like field => known field
  | .oneOf field _ => known field
  | .raw => False

end PredicateForm

namespace Predicate

def form : Predicate -> PredicateForm
  | .equals field _ => .equals field
  | .like field _ => .like field
  | .oneOf field values => .oneOf field values.length
  | .raw _ _ => .raw

def given : Predicate -> List Json
  | .equals _ value => [value]
  | .like _ pattern => [.string pattern]
  | .oneOf _ values => values
  | .raw _ values => values

end Predicate

inductive Bound.Carries : Json -> Bound -> Prop where
  | text (content : String) : Bound.Carries (.string content) (.text content)
  | flag (state : Bool) : Bound.Carries (.bool state) (.flag state)
  | signed (number : Int) (within : number ≤ Bound.greatest) :
      Bound.Carries (.number (.integer number)) (.signed number)
  | unsigned (number : Nat) (beyond : Bound.greatest < number) :
      Bound.Carries (.number (.integer number)) (.unsigned number)
  | float (number : Binary64) : Bound.Carries (.number (.float number)) (.float number)
  | zero : Bound.Carries (.number .signedZero) (.signed 0)

theorem Bound.of_json_carries {field : String} {value : Json} {bound : Bound}
    (taken : Bound.ofJson field value = .ok bound) : Bound.Carries value bound := by
  cases value with
  | string content =>
      cases taken
      exact .text content
  | bool state =>
      cases taken
      exact .flag state
  | number held =>
      cases held with
      | integer number =>
          rw [Bound.ofJson] at taken
          split at taken
          case isTrue within =>
              cases taken
              exact .signed number within
          case isFalse beyond =>
              cases taken
              obtain ⟨whole, rfl⟩ := Int.eq_ofNat_of_zero_le (a := number) (by omega)
              exact .unsigned whole (by omega)
      | float number =>
          cases taken
          exact .float number
      | signedZero =>
          cases taken
          exact .zero
      | infinite => cases taken
  | null => cases taken
  | array => cases taken
  | object => cases taken

namespace Condition

def form : Condition -> PredicateForm
  | .equals column _ => .equals column
  | .like column _ => .like column
  | .oneOf column values => .oneOf column values.length
  | .raw _ _ => .raw

def given : Condition -> List Bound
  | .equals _ value => [value]
  | .like _ pattern => [.text pattern]
  | .oneOf _ values => values
  | .raw _ values => values

/-- What a condition has of its predicate: its form, a column, and the values in order. -/
structure Stems (entity : Entity) (predicate : Predicate) (condition : Condition) : Prop where
  form : condition.form = predicate.form
  known : ∀ field, predicate.field? = some field → entity.hasColumn field = true
  values : List.Forall₂ Bound.Carries predicate.given condition.given

variable {entity : Entity}

theorem column_eq_ok {field column : String} (found : Condition.column entity field = .ok column) :
    column = field ∧ entity.hasColumn field = true := by
  unfold Condition.column at found
  split at found
  case isTrue known =>
      cases found
      exact ⟨rfl, known⟩
  case isFalse => cases found

theorem of_values_carried {field : String} {values : List Json} {bound : List Bound}
    (taken : values.mapM (Bound.ofJson field) = .ok bound) :
    List.Forall₂ Bound.Carries values bound :=
  (except_map_related taken).imp fun _ _ => Bound.of_json_carries

theorem of_predicate_stems {predicate : Predicate} {condition : Condition}
    (made : ofPredicate entity predicate = .ok condition) : Stems entity predicate condition := by
  cases predicate with
  | equals field value =>
      obtain ⟨column, found, rest⟩ := except_bind_eq_ok.mp made
      obtain ⟨bound, taken, finished⟩ := except_bind_eq_ok.mp rest
      obtain ⟨rfl, known⟩ := column_eq_ok found
      cases finished
      refine ⟨rfl, ?_, .cons (Bound.of_json_carries taken) .nil⟩
      rintro _ ⟨rfl⟩
      exact known
  | like field pattern =>
      obtain ⟨column, found, finished⟩ := except_bind_eq_ok.mp made
      obtain ⟨rfl, known⟩ := column_eq_ok found
      cases finished
      refine ⟨rfl, ?_, .cons (.text pattern) .nil⟩
      rintro _ ⟨rfl⟩
      exact known
  | oneOf field values =>
      obtain ⟨bound, taken, rest⟩ := except_bind_eq_ok.mp made
      obtain ⟨column, found, finished⟩ := except_bind_eq_ok.mp rest
      obtain ⟨rfl, known⟩ := column_eq_ok found
      cases finished
      have carried := of_values_carried taken
      refine ⟨congrArg (PredicateForm.oneOf column) carried.length_eq.symm, ?_, carried⟩
      rintro _ ⟨rfl⟩
      exact known
  | raw sql values =>
      obtain ⟨bound, taken, finished⟩ := except_bind_eq_ok.mp made
      cases finished
      refine ⟨rfl, ?_, of_values_carried taken⟩
      intro field named
      cases named

theorem of_predicates_stem {predicates : List Predicate} {conditions : List Condition}
    (made : ofPredicates entity predicates = .ok conditions) :
    List.Forall₂ (Stems entity) predicates conditions :=
  (except_map_related made).imp fun _ _ => of_predicate_stems

theorem exists_stem {predicates : List Predicate} {conditions : List Condition}
    (stem : List.Forall₂ (Stems entity) predicates conditions) {condition : Condition}
    (member : condition ∈ conditions) :
    ∃ predicate ∈ predicates, Stems entity predicate condition := by
  induction stem with
  | nil => cases member
  | @cons predicate _ _ _ own _ claim =>
      rcases List.mem_cons.mp member with same | later
      · exact ⟨predicate, List.mem_cons_self, same ▸ own⟩
      · obtain ⟨other, among, found⟩ := claim later
        exact ⟨other, List.mem_cons_of_mem _ among, found⟩

theorem forms_of_stems {predicates : List Predicate} {conditions : List Condition}
    (stem : List.Forall₂ (Stems entity) predicates conditions) :
    conditions.map form = predicates.map Predicate.form := by
  induction stem with
  | nil => rfl
  | cons own _ claim => rw [List.map_cons, List.map_cons, own.form, claim]

theorem values_of_stems {predicates : List Predicate} {conditions : List Condition}
    (stem : List.Forall₂ (Stems entity) predicates conditions) :
    List.Forall₂ Bound.Carries (predicates.flatMap Predicate.given) (conditions.flatMap given) := by
  induction stem with
  | nil => exact .nil
  | cons own _ claim => exact List.rel_append own.values claim

end Condition

namespace Sql

section Conditions

variable {known : String -> Prop} {source : String}

/-- Code that begins with a column. -/
theorem column_code_legible {column text : String} (sourceKnown : known source)
    (columnKnown : known column) (blank : text.toList.head? = some ' ')
    (plain : IsPlainText text.toList) :
    Reads known '?' 0 (columnName source column ++ text).toList ∧
      Reads known '$' 0 (columnName source column ++ text).toList := by
  have reads : Reads known '?' 0 text.toList ∧ Reads known '$' 0 text.toList :=
    code_legible plain
  obtain ⟨rest, written⟩ := List.head?_eq_some_iff.mp blank
  rw [written] at reads
  rw [String.toList_append, written]
  exact ⟨reads_column (.inl rfl) sourceKnown columnKnown (by decide) reads.1,
    reads_column (.inr rfl) sourceKnown columnKnown (by decide) reads.2⟩

theorem condition_legible {condition : Condition} (sourceKnown : known source)
    (isKnown : condition.form.IsKnown known) (alone : Bool) :
    IsLegible known (conditionPieces source alone condition) := by
  cases condition with
  | equals column value =>
      refine List.forall_mem_cons.mpr ⟨?_, List.forall_mem_singleton.mpr trivial⟩
      exact column_code_legible sourceKnown isKnown rfl (by decide)
  | like column pattern =>
      refine List.forall_mem_cons.mpr ⟨?_, List.forall_mem_singleton.mpr trivial⟩
      exact column_code_legible sourceKnown isKnown rfl (by decide)
  | oneOf column values =>
      cases values with
      | nil =>
          refine List.forall_mem_cons.mpr ⟨trivial, List.forall_mem_cons.mpr ⟨?_, ?_⟩⟩
          · exact code_legible (by decide)
          · exact List.forall_mem_singleton.mpr trivial
      | cons value rest =>
          refine List.forall_mem_cons.mpr ⟨?_, is_legible_append ?_ ?_⟩
          · exact column_code_legible sourceKnown isKnown rfl (by decide)
          · refine is_legible_separated (by decide) ?_
            intro statement member
            obtain ⟨_, _, rfl⟩ := List.mem_map.mp member
            exact List.forall_mem_singleton.mpr trivial
          · exact List.forall_mem_singleton.mpr (code_legible (by decide))
  | raw sql values => exact isKnown.elim

theorem values_outline {left right : List Bound} (same : left.length = right.length) :
    outline (separated ", " (left.map fun value => [.parameter value])) =
      outline (separated ", " (right.map fun value => [.parameter value])) := by
  have gaps : ∀ values : List Bound, (values.map fun value => [.parameter value]).map outline =
      List.replicate values.length [none] := by
    intro values
    rw [List.map_map]
    exact List.map_const' (b := [none])
  apply outline_separated
  rw [gaps, gaps, same]

/-- The code of a condition is that of its form. -/
theorem condition_outline {left right : Condition} (same : left.form = right.form)
    (isKnown : left.form.IsKnown known) (alone other : Bool) :
    outline (conditionPieces source alone left) = outline (conditionPieces source other right) := by
  cases left with
  | equals column value =>
      cases right <;> cases same
      rfl
  | like column pattern =>
      cases right <;> cases same
      rfl
  | oneOf column values =>
      cases right with
      | oneOf columnOther valuesOther =>
          obtain ⟨rfl, count⟩ := PredicateForm.oneOf.inj same
          cases values with
          | nil =>
              rw [List.eq_nil_of_length_eq_zero count.symm]
              rfl
          | cons value rest =>
              obtain ⟨valueOther, restOther, rfl⟩ :=
                List.exists_cons_of_length_eq_add_one count.symm
              rw [Condition.choice_pieces, Condition.choice_pieces, outline_append, outline_append,
                outline_append, outline_append, values_outline count]
      | equals => cases same
      | like => cases same
      | raw => cases same
  | raw sql values => exact isKnown.elim

theorem condition_parameters {condition : Condition} (chooses : condition.form.HasChoice)
    (alone : Bool) : parameters (conditionPieces source alone condition) = condition.given := by
  cases condition with
  | equals column value => rfl
  | like column pattern => rfl
  | oneOf column values =>
      cases values with
      | nil => exact absurd rfl chooses
      | cons value rest =>
          rw [Condition.choice_pieces, parameters_append, parameters_append, parameters_separated,
            Condition.choice_parameters]
          exact List.append_nil _
  | raw sql values =>
      cases alone with
      | true => exact List.append_nil values
      | false => exact List.append_nil values

/-! ## The clauses of a selection -/

theorem where_legible {conditions : List Condition} (sourceKnown : known source)
    (isKnown : ∀ condition ∈ conditions, condition.form.IsKnown known) :
    IsLegible known (whereClause source conditions) := by
  cases conditions with
  | nil =>
      intro piece member
      cases member
  | cons condition rest =>
      refine List.forall_mem_cons.mpr ⟨code_legible (by decide), ?_⟩
      refine is_legible_separated (by decide) ?_
      intro statement member
      obtain ⟨held, among, rfl⟩ := List.mem_map.mp member
      exact condition_legible sourceKnown (isKnown held among) _

theorem pieces_outline {left right : List Condition}
    (same : left.map Condition.form = right.map Condition.form)
    (isKnown : ∀ condition ∈ left, condition.form.IsKnown known) (alone other : Bool) :
    (left.map (conditionPieces source alone)).map outline =
      (right.map (conditionPieces source other)).map outline := by
  induction left generalizing right with
  | nil =>
      rw [List.map_nil] at same
      rw [List.map_eq_nil_iff.mp same.symm]
      rfl
  | cons first rest claim =>
      obtain ⟨second, others, rfl, own, later⟩ := List.map_eq_cons_iff.mp same.symm
      have tails := claim later.symm fun held among => isKnown held (List.mem_cons_of_mem _ among)
      have heads : outline (conditionPieces source alone first) =
          outline (conditionPieces source other second) :=
        condition_outline own.symm (isKnown first List.mem_cons_self) alone other
      rw [List.map_cons, List.map_cons, List.map_cons, List.map_cons, heads, tails]

theorem where_outline {left right : List Condition}
    (same : left.map Condition.form = right.map Condition.form)
    (isKnown : ∀ condition ∈ left, condition.form.IsKnown known) :
    outline (whereClause source left) = outline (whereClause source right) := by
  cases left with
  | nil =>
      rw [List.map_nil] at same
      rw [List.map_eq_nil_iff.mp same.symm]
  | cons condition rest =>
      cases right with
      | nil => cases same
      | cons other others =>
          have joined : outline (conjunction source (condition :: rest)) =
              outline (conjunction source (other :: others)) :=
            outline_separated (pieces_outline same isKnown _ _)
          exact congrArg (some " WHERE " :: ·) joined

theorem where_parameters {conditions : List Condition}
    (choose : ∀ condition ∈ conditions, condition.form.HasChoice) :
    parameters (whereClause source conditions) = conditions.flatMap Condition.given := by
  cases conditions with
  | nil => rfl
  | cons condition rest =>
      change parameters (conjunction source (condition :: rest)) = _
      unfold conjunction
      rw [parameters_separated, List.flatMap_map]
      exact List.flatMap_congr fun held among => condition_parameters (choose held among) _

end Conditions

def orderClause (entity : Entity) : Option SortOrder -> Statement
  | none => []
  | some order =>
      [.code (" ORDER BY " ++ columnName entity.table order.field ++ " " ++
        order.direction.keyword)]

def boundClause (keyword : String) : Option Nat -> Statement
  | none => []
  | some bound => [.code keyword, .parameter (.unsigned bound)]

def clauses (entity : Entity) (selection : Selection) : Statement :=
  whereClause selection.source selection.conditions ++ orderClause entity selection.order ++
    boundClause " LIMIT " selection.limit ++ boundClause " OFFSET " selection.offset

theorem select_clauses (entity : Entity) (selection : Selection) :
    select entity selection = selectAll entity ++ clauses entity selection := by
  have parted : select entity selection = selectAll entity ++
      whereClause selection.source selection.conditions ++ orderClause entity selection.order ++
        boundClause " LIMIT " selection.limit ++ boundClause " OFFSET " selection.offset := by
    unfold select
    cases selection.order <;> cases selection.limit <;> cases selection.offset <;> rfl
  rw [parted, clauses]
  simp only [List.append_assoc]

def IsNameOf (entity : Entity) (source name : String) : Prop :=
  name = entity.table ∨ name = source ∨ entity.hasColumn name = true

/-- Text that can be read, with so many placeholders and without names of anything else. -/
def Spells (entity : Entity) (source : String) (mark : Char) (count : Nat) (text : List Char) :
    Prop :=
  ∃ parts, lexemes text = some parts ∧
    (∀ name, .name name ∈ parts → IsNameOf entity source name) ∧
    parts.count (.symbol mark) = count

section Selections

variable {entity : Entity} {selection : Selection}

/-- What is known of a selection that was made of a query without conditions in SQL. -/
structure HasKnownNames (entity : Entity) (selection : Selection) : Prop where
  conditions : ∀ condition ∈ selection.conditions,
    condition.form.IsKnown (IsNameOf entity selection.source)
  order : ∀ order, selection.order = some order → entity.hasColumn order.field = true

theorem order_legible (known : HasKnownNames entity selection) :
    IsLegible (IsNameOf entity selection.source) (orderClause entity selection.order) := by
  cases own : selection.order with
  | none =>
      intro piece member
      cases member
  | some order =>
      have keyword : IsPlainText (" " ++ order.direction.keyword).toList := by
        cases order.direction <;> decide
      have begun : (" " ++ order.direction.keyword).toList.head? = some ' ' := by
        cases order.direction <;> rfl
      have words : (" ORDER BY " ++ columnName entity.table order.field ++ " " ++
          order.direction.keyword).toList = " ORDER BY ".toList ++
            (columnName entity.table order.field ++ (" " ++ order.direction.keyword)).toList := by
        simp only [String.toList_append, List.append_assoc]
      have opening : Reads (IsNameOf entity selection.source) '?' 0 " ORDER BY ".toList ∧
          Reads (IsNameOf entity selection.source) '$' 0 " ORDER BY ".toList :=
        code_legible (by decide)
      have isColumn : IsNameOf entity selection.source order.field :=
        .inr (.inr (known.order order own))
      have column := column_code_legible (.inl rfl) isColumn begun keyword
      refine List.forall_mem_singleton.mpr ?_
      dsimp only
      rw [words]
      exact ⟨reads_append opening.1 column.1, reads_append opening.2 column.2⟩

theorem bound_legible {known : String -> Prop} {keyword : String}
    (plain : IsPlainText keyword.toList) (bound : Option Nat) :
    IsLegible known (boundClause keyword bound) := by
  cases bound with
  | none =>
      intro piece member
      cases member
  | some bound =>
      exact List.forall_mem_cons.mpr ⟨code_legible plain, List.forall_mem_singleton.mpr trivial⟩

theorem clauses_legible (known : HasKnownNames entity selection) :
    IsLegible (IsNameOf entity selection.source) (clauses entity selection) := by
  unfold clauses
  refine is_legible_append (is_legible_append (is_legible_append ?_ ?_) ?_) ?_
  · exact where_legible (.inr (.inl rfl)) known.conditions
  · exact order_legible known
  · exact bound_legible (by decide) selection.limit
  · exact bound_legible (by decide) selection.offset

def BeginsBlank (statement : Statement) : Prop :=
  ∀ piece, statement.head? = some piece →
    ∃ text, piece = .code text ∧ text.toList.head? = some ' '

theorem begins_blank_append {first second : Statement} (firstBegins : BeginsBlank first)
    (secondBegins : BeginsBlank second) : BeginsBlank (first ++ second) := by
  intro piece begun
  cases first with
  | nil => exact secondBegins piece begun
  | cons own rest => exact firstBegins piece begun

theorem bound_begins_blank {keyword : String} (blank : keyword.toList.head? = some ' ')
    (bound : Option Nat) : BeginsBlank (boundClause keyword bound) := by
  cases bound with
  | none =>
      rintro piece ⟨⟩
  | some bound =>
      rintro piece ⟨rfl⟩
      exact ⟨keyword, rfl, blank⟩

theorem clauses_begin_blank : BeginsBlank (clauses entity selection) := by
  unfold clauses
  refine begins_blank_append (begins_blank_append (begins_blank_append ?_ ?_) ?_) ?_
  · cases selection.conditions with
    | nil =>
        rintro piece ⟨⟩
    | cons condition rest =>
        rintro piece ⟨rfl⟩
        exact ⟨_, rfl, rfl⟩
  · cases selection.order with
    | none =>
        rintro piece ⟨⟩
    | some order =>
        rintro piece ⟨rfl⟩
        refine ⟨_, rfl, ?_⟩
        simp
  · exact bound_begins_blank rfl selection.limit
  · exact bound_begins_blank rfl selection.offset

theorem fill_begins {statement : Statement} (begins : BeginsBlank statement)
    (placeholder : Nat -> List Char) (count : Nat) :
    (fill placeholder count (outline statement)).head? ≠ some '"' := by
  cases statement with
  | nil =>
      rintro ⟨⟩
  | cons piece rest =>
      obtain ⟨text, rfl, blank⟩ := begins piece rfl
      obtain ⟨later, written⟩ := List.head?_eq_some_iff.mp blank
      change (text.toList ++ _).head? ≠ _
      rw [written]
      rintro ⟨⟩

theorem select_spells {mark : Char} (isMark : mark = '?' ∨ mark = '$')
    {placeholder : Nat -> List Char} (reads : Reads (IsNameOf entity selection.source) mark
      (parameters (clauses entity selection)).length
      (fill placeholder 0 (outline (clauses entity selection)))) :
    Spells entity selection.source mark (parameters (select entity selection)).length
      (fill placeholder 0 (outline (select entity selection))) := by
  have columns : ∀ column ∈ entity.columnNames, IsNameOf entity selection.source column :=
    fun column member => .inr (.inr (List.contains_iff_mem.mpr member))
  have table : IsNameOf entity selection.source entity.table := .inl rfl
  have selecting : Reads (IsNameOf entity selection.source) mark 0 "SELECT ".toList :=
    reads_plain isMark (by decide)
  have leaving : Reads (IsNameOf entity selection.source) mark 0 " FROM ".toList :=
    reads_plain isMark (by decide)
  have listed := reads_columns isMark table columns (by decide) leaving
  have written : fill placeholder 0 (outline (select entity selection)) =
      ("SELECT ".toList ++
        ((", ".intercalate (entity.columnNames.map (columnName entity.table))).toList ++
          " FROM ".toList)) ++ (quoteName entity.table).toList ++
      fill placeholder 0 (outline (clauses entity selection)) := by
    rw [select_clauses, outline_append]
    change (_ : String).toList ++ fill placeholder 0 (outline (clauses entity selection)) = _
    rw [String.toList_append, String.toList_append, String.toList_append]
    simp only [List.append_assoc]
  have counted : parameters (select entity selection) = parameters (clauses entity selection) := by
    rw [select_clauses, parameters_append]
    rfl
  rw [written, counted]
  exact lexemes_around_name (reads_append selecting listed) (.inl rfl) reads
    (fill_begins clauses_begin_blank placeholder 0)

theorem select_no_raw (known : HasKnownNames entity selection) :
    HasNoRaw (select entity selection) := by
  intro sql values member
  rw [select_clauses] at member
  rcases List.mem_append.mp member with inFirst | inClauses
  · cases List.mem_singleton.mp inFirst
  · exact clauses_legible known _ inClauses

/-- Selections that differ in values only. -/
structure SameForm (left right : Selection) : Prop where
  source : left.source = right.source
  conditions : left.conditions.map Condition.form = right.conditions.map Condition.form
  order : left.order = right.order
  limit : left.limit.isSome = right.limit.isSome
  offset : left.offset.isSome = right.offset.isSome

theorem bound_outline {keyword : String} {left right : Option Nat}
    (same : left.isSome = right.isSome) :
    outline (boundClause keyword left) = outline (boundClause keyword right) := by
  cases left with
  | none =>
      cases right with
      | none => rfl
      | some bound => cases same
  | some bound =>
      cases right with
      | none => cases same
      | some other => rfl

theorem select_outline {other : Selection} (known : HasKnownNames entity selection)
    (same : SameForm selection other) :
    outline (select entity selection) = outline (select entity other) := by
  rw [select_clauses, select_clauses]
  unfold clauses
  simp only [outline_append]
  rw [where_outline same.conditions known.conditions, same.source, same.order,
    bound_outline same.limit, bound_outline same.offset]

theorem select_parameters
    (choose : ∀ condition ∈ selection.conditions, condition.form.HasChoice) :
    parameters (select entity selection) = selection.conditions.flatMap Condition.given ++
      (selection.limit.map Bound.unsigned).toList ++
      (selection.offset.map Bound.unsigned).toList := by
  have bounds : ∀ keyword bound, parameters (boundClause keyword bound) =
      (bound.map Bound.unsigned).toList := by
    intro keyword bound
    cases bound <;> rfl
  have ordered : parameters (orderClause entity selection.order) = [] := by
    cases selection.order <;> rfl
  rw [select_clauses]
  unfold clauses
  simp only [parameters_append]
  rw [where_parameters choose, ordered, bounds, bounds, List.append_nil]
  rfl

end Selections

end Sql

namespace Query

/-- Queries that agree in all but the values of the predicates and the sizes of the bounds. -/
structure Alike (first second : Query) : Prop where
  source : first.source = second.source
  forms : first.predicates.map Predicate.form = second.predicates.map Predicate.form
  order : first.order = second.order
  offset : first.offset.isSome = second.offset.isSome
  limit : first.limit.isSome = second.limit.isSome

def counted (query : Query) : Query :=
  ⟨query.source, query.predicates, none, none, none⟩

/-- How the texts of a query's statement, with question marks and with numbered placeholders,
hold its values. -/
structure Placed (entity : Entity) (query : Query) (marked numbered : List Char)
    (values : List Bound) : Prop where
  marked : Sql.Spells entity query.source '?' values.length marked
  numbered : Sql.Spells entity query.source '$' values.length numbered
  values : (∀ predicate ∈ query.predicates, predicate.form.HasChoice) →
    ∃ given, List.Forall₂ Bound.Carries (query.predicates.flatMap Predicate.given) given ∧
      values = given ++ ((Selection.limitOf query).map Bound.unsigned).toList ++
        (query.offset.map Bound.unsigned).toList

/-- The statements of two selections have one text, in which the values of each query have
placeholders. -/
def ShareText (entity : Entity) (first second : Query) (left right : Selection) : Prop :=
  ∃ marked numbered values others,
    Sql.render (Sql.select entity left) = some ⟨marked, values⟩ ∧
    Sql.render (Sql.select entity right) = some ⟨marked, others⟩ ∧
    Sql.renderNumbered 0 (Sql.select entity left) = some numbered ∧
    Sql.renderNumbered 0 (Sql.select entity right) = some numbered ∧
    Placed entity first marked numbered values ∧ Placed entity second marked numbered others

section

variable {entity : Entity} {query : Query} {selection : Selection}

theorem of_query_parts (made : (Selection.ofQuery entity query).outcome = .done selection) :
    ∃ conditions, Condition.ofPredicates entity query.predicates = .ok conditions ∧
      selection = ⟨query.source, conditions, (Selection.knownOrder entity query.order).value,
        query.offset, Selection.limitOf query⟩ := by
  cases own : Condition.ofPredicates entity query.predicates with
  | error error =>
      unfold Selection.ofQuery at made
      rw [Attempt.outcome_bind, own] at made
      cases made
  | ok conditions =>
      rw [Selection.of_query_made own] at made
      cases made
      exact ⟨conditions, rfl, rfl⟩

theorem of_query_counted (made : Selection.filterOnly entity query = .ok selection) :
    (Selection.ofQuery entity query.counted).outcome = .done selection := by
  obtain ⟨conditions, held, finished⟩ := except_bind_eq_ok.mp made
  cases finished
  have same : Condition.ofPredicates entity query.counted.predicates = .ok conditions := held
  exact Selection.of_query_made same

theorem Alike.counted {first second : Query} (alike : first.Alike second) :
    first.counted.Alike second.counted :=
  ⟨alike.source, alike.forms, rfl, rfl, rfl⟩

theorem known_order_column (order : Option SortOrder) {known : SortOrder}
    (kept : (Selection.knownOrder entity order).value = some known) :
    entity.hasColumn known.field = true := by
  cases order with
  | none => cases kept
  | some order =>
      rw [Selection.knownOrder] at kept
      split at kept
      case isTrue column =>
          cases kept
          exact column
      case isFalse => cases kept

theorem selection_known (plain : ∀ predicate ∈ query.predicates, predicate.IsPlain)
    (made : (Selection.ofQuery entity query).outcome = .done selection) :
    Sql.HasKnownNames entity selection := by
  obtain ⟨conditions, held, rfl⟩ := of_query_parts made
  have stem := Condition.of_predicates_stem held
  refine ⟨?_, fun order => known_order_column query.order⟩
  intro condition member
  obtain ⟨predicate, among, own⟩ := Condition.exists_stem stem member
  have isPlain := plain predicate among
  rw [own.form]
  cases predicate with
  | equals field value => exact .inr (.inr (own.known field rfl))
  | like field pattern => exact .inr (.inr (own.known field rfl))
  | oneOf field values => exact .inr (.inr (own.known field rfl))
  | raw sql values => exact isPlain

theorem selection_placed (plain : ∀ predicate ∈ query.predicates, predicate.IsPlain)
    (made : (Selection.ofQuery entity query).outcome = .done selection) :
    ∃ marked numbered values,
      Sql.render (Sql.select entity selection) = some ⟨marked, values⟩ ∧
      Sql.renderNumbered 0 (Sql.select entity selection) = some numbered ∧
      marked = Sql.fill (fun _ => ['?']) 0 (Sql.outline (Sql.select entity selection)) ∧
      numbered = Sql.fill Sql.numberedMark 0 (Sql.outline (Sql.select entity selection)) ∧
      Placed entity query marked numbered values := by
  have known := selection_known plain made
  obtain ⟨rendered, renderedNumbered⟩ := Sql.render_filled (Sql.select_no_raw known) 0
  obtain ⟨marks, numbers⟩ := (Sql.clauses_legible known).reads_marks 0
  refine ⟨_, _, _, rendered, renderedNumbered, rfl, rfl, ?_⟩
  obtain ⟨conditions, held, rfl⟩ := of_query_parts made
  have stem := Condition.of_predicates_stem held
  refine ⟨Sql.select_spells (.inl rfl) marks, Sql.select_spells (.inr rfl) numbers, ?_⟩
  intro choose
  refine ⟨conditions.flatMap Condition.given, Condition.values_of_stems stem, ?_⟩
  apply Sql.select_parameters
  intro condition member
  obtain ⟨predicate, among, own⟩ := Condition.exists_stem stem member
  rw [own.form]
  exact choose predicate among

theorem selections_same_form {first second : Query} {left right : Selection}
    (alike : first.Alike second) (made : (Selection.ofQuery entity first).outcome = .done left)
    (madeOther : (Selection.ofQuery entity second).outcome = .done right) :
    Sql.SameForm left right := by
  obtain ⟨conditions, held, rfl⟩ := of_query_parts made
  obtain ⟨others, heldOther, rfl⟩ := of_query_parts madeOther
  have offset := alike.offset
  have limit := alike.limit
  refine ⟨alike.source, ?_, congrArg (fun order => (Selection.knownOrder entity order).value)
    alike.order, ?_, offset⟩
  · rw [Condition.forms_of_stems (Condition.of_predicates_stem held),
      Condition.forms_of_stems (Condition.of_predicates_stem heldOther), alike.forms]
  · unfold Selection.limitOf
    cases ownLimit : first.limit <;> cases ownOther : second.limit <;>
      cases ownOffset : first.offset <;> cases ownOtherOffset : second.offset <;> simp_all

theorem alike_share_text {first second : Query} {left right : Selection}
    (alike : first.Alike second) (plain : ∀ predicate ∈ first.predicates, predicate.IsPlain)
    (plainOther : ∀ predicate ∈ second.predicates, predicate.IsPlain)
    (made : (Selection.ofQuery entity first).outcome = .done left)
    (madeOther : (Selection.ofQuery entity second).outcome = .done right) :
    ShareText entity first second left right := by
  obtain ⟨marked, numbered, values, rendered, counted, ownMarked, ownNumbered, placed⟩ :=
    selection_placed plain made
  obtain ⟨markedOther, numberedOther, others, renderedOther, countedOther, otherMarked,
    otherNumbered, placedOther⟩ := selection_placed plainOther madeOther
  have outlines := Sql.select_outline (selection_known plain made)
    (selections_same_form alike made madeOther)
  have sameMarked : markedOther = marked := by rw [otherMarked, ownMarked, outlines]
  have sameNumbered : numberedOther = numbered := by rw [otherNumbered, ownNumbered, outlines]
  subst sameMarked sameNumbered
  exact ⟨_, _, values, others, rendered, renderedOther, counted, countedOther, placed, placedOther⟩

end

/-- No value reaches the text of a statement: two queries of one form have one text, for listing
and for counting, with a placeholder for each value and with names of the entity only. -/
theorem values_kept_from_text {entity : Entity} {first second : Query} {left right : Selection}
    (alike : first.Alike second) (plain : ∀ predicate ∈ first.predicates, predicate.IsPlain)
    (plainOther : ∀ predicate ∈ second.predicates, predicate.IsPlain)
    (made : (Selection.ofQuery entity first).outcome = .done left)
    (madeOther : (Selection.ofQuery entity second).outcome = .done right) :
    ShareText entity first second left right ∧
      ∃ counting countingOther,
        Selection.filterOnly entity first = .ok counting ∧
        Selection.filterOnly entity second = .ok countingOther ∧
        ShareText entity first.counted second.counted counting countingOther := by
  refine ⟨alike_share_text alike plain plainOther made madeOther, ?_⟩
  obtain ⟨conditions, held, _⟩ := of_query_parts made
  obtain ⟨others, heldOther, _⟩ := of_query_parts madeOther
  have counting : Selection.filterOnly entity first =
      .ok ⟨first.source, conditions, none, none, none⟩ := by
    unfold Selection.filterOnly
    rw [held]
    rfl
  have countingOther : Selection.filterOnly entity second =
      .ok ⟨second.source, others, none, none, none⟩ := by
    unfold Selection.filterOnly
    rw [heldOther]
    rfl
  exact ⟨_, _, counting, countingOther, alike_share_text alike.counted plain plainOther
    (of_query_counted counting) (of_query_counted countingOther)⟩

def asking (words : String) (identifiers : List Json) (offset limit : Nat) : Query :=
  ⟨"faqs", [.like "question" words, .oneOf "id" identifiers], some ⟨"question", .ascending⟩,
    some offset, some limit⟩

/-- Quotes and placeholders among the values leave the text as it is. -/
theorem quotes_kept_from_text :
    ∃ left right,
      (Selection.ofQuery Entity.faqs
        (asking "%\"' OR ? = $1 --%" [.integer 1, .integer 2] 0 5)).outcome = .done left ∧
      (Selection.ofQuery Entity.faqs
        (asking "%return%" [.string "7", .bool true] 20 10)).outcome = .done right ∧
      ShareText Entity.faqs (asking "%\"' OR ? = $1 --%" [.integer 1, .integer 2] 0 5)
        (asking "%return%" [.string "7", .bool true] 20 10) left right := by
  have plain : ∀ words identifiers offset limit,
      ∀ predicate ∈ (asking words identifiers offset limit).predicates, predicate.IsPlain := by
    intro words identifiers offset limit
    exact List.forall_mem_cons.mpr ⟨trivial, List.forall_mem_singleton.mpr trivial⟩
  have alike : (asking "%\"' OR ? = $1 --%" [.integer 1, .integer 2] 0 5).Alike
      (asking "%return%" [.string "7", .bool true] 20 10) :=
    ⟨rfl, rfl, rfl, rfl, rfl⟩
  have made : (Selection.ofQuery Entity.faqs
      (asking "%\"' OR ? = $1 --%" [.integer 1, .integer 2] 0 5)).outcome =
        .done ⟨"faqs", [.like "question" "%\"' OR ? = $1 --%", .oneOf "id" [.signed 1, .signed 2]],
          some ⟨"question", .ascending⟩, some 0, some 5⟩ := by
    rfl
  have madeOther : (Selection.ofQuery Entity.faqs
      (asking "%return%" [.string "7", .bool true] 20 10)).outcome =
        .done ⟨"faqs", [.like "question" "%return%", .oneOf "id" [.text "7", .flag true]],
          some ⟨"question", .ascending⟩, some 20, some 10⟩ := by
    rfl
  exact ⟨_, _, made, madeOther, (values_kept_from_text alike (plain _ _ _ _) (plain _ _ _ _) made
    madeOther).1⟩

end Query
end GatedResources
