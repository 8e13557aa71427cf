import GatedResources.Proofs.Outcome
import GatedResources.Store.Table
import Mathlib.Algebra.GroupWithZero.Nat

/-!
# How statements end

A statement without a condition in SQL, whose values can be handed over, is answered from the
table or refused by the database for its size. It is answered whenever it fits: its values are
few enough, its conditions do not nest too deep, and no pattern is too long. A refusal for the
number of values or for the depth does not depend on the records. With a pattern that is too long
a statement that is answered all the same selects no record.
-/

namespace GatedResources

namespace Sql

/-! ## Values of statements -/

def Piece.IsStorable : Piece -> Prop
  | .code _ => True
  | .parameter value => value.isStorable = true
  | .raw _ _ => False

def IsStorable (statement : Statement) : Prop :=
  ∀ piece ∈ statement, piece.IsStorable

def Piece.values : Piece -> List Bound
  | .code _ => []
  | .parameter value => [value]
  | .raw _ values => values

def parameters (statement : Statement) : List Bound :=
  statement.flatMap Piece.values

theorem parameters_append (first second : Statement) :
    parameters (first ++ second) = parameters first ++ parameters second :=
  List.flatMap_append

theorem of_mem_separated {separator : String} {statements : List Statement} {piece : Piece}
    (member : piece ∈ separated separator statements) :
    piece = .code separator ∨ ∃ statement ∈ statements, piece ∈ statement := by
  induction statements with
  | nil => cases member
  | cons first rest claim =>
      cases rest with
      | nil => exact .inr ⟨first, List.mem_cons_self, member⟩
      | cons next later =>
          rcases List.mem_append.mp member with inFirst | others
          · exact .inr ⟨first, List.mem_cons_self, inFirst⟩
          · rcases List.mem_cons.mp others with same | inLater
            · exact .inl same
            · rcases claim inLater with same | ⟨statement, among, inside⟩
              · exact .inl same
              · exact .inr ⟨statement, List.mem_cons_of_mem _ among, inside⟩

theorem parameters_separated (separator : String) (statements : List Statement) :
    parameters (separated separator statements) = statements.flatMap parameters := by
  induction statements with
  | nil => rfl
  | cons first rest claim =>
      rw [List.flatMap_cons, ← claim]
      cases rest with
      | nil => exact (List.append_nil _).symm
      | cons next later => exact parameters_append first _

theorem is_storable_append {first second : Statement} (firstIs : IsStorable first)
    (secondIs : IsStorable second) : IsStorable (first ++ second) := by
  intro piece member
  rcases List.mem_append.mp member with inFirst | inSecond
  · exact firstIs piece inFirst
  · exact secondIs piece inSecond

theorem is_storable_cons {piece : Piece} {rest : Statement} (first : piece.IsStorable)
    (restIs : IsStorable rest) : IsStorable (piece :: rest) := by
  intro held member
  rcases List.mem_cons.mp member with same | later
  · exact same ▸ first
  · exact restIs held later

theorem is_storable_nil : IsStorable [] := by
  intro piece member
  cases member

theorem is_storable_separated {separator : String} {statements : List Statement}
    (all : ∀ statement ∈ statements, IsStorable statement) :
    IsStorable (separated separator statements) := by
  intro piece member
  rcases of_mem_separated member with same | ⟨statement, among, inside⟩
  · subst same
    trivial
  · exact all statement among piece inside

/-- Such a statement can be rendered, and the store takes all its values. -/
theorem render_storable {statement : Statement} (storable : IsStorable statement) :
    ∃ text, render statement = some ⟨text, parameters statement⟩ ∧
      (parameters statement).all Bound.isStorable = true := by
  induction statement with
  | nil => exact ⟨[], rfl, rfl⟩
  | cons piece rest claim =>
      have first := storable piece List.mem_cons_self
      obtain ⟨text, read, values⟩ :=
        claim fun held member => storable held (List.mem_cons_of_mem _ member)
      cases piece with
      | code own =>
          refine ⟨own.toList ++ text, ?_, values⟩
          rw [render, read]
          rfl
      | parameter value =>
          refine ⟨'?' :: text, ?_, ?_⟩
          · rw [render, read]
            rfl
          · show (value :: parameters rest).all Bound.isStorable = true
            rw [List.all_cons, values, Bool.and_true]
            exact first
      | raw sql values => cases first

end Sql

namespace Condition

def IsStorable : Condition -> Prop
  | .equals _ value => value.isStorable = true
  | .like _ _ => True
  | .oneOf _ values => ∀ value ∈ values, value.isStorable = true
  | .raw _ _ => False

def valueCount : Condition -> Nat
  | .equals _ _ => 1
  | .like _ _ => 1
  | .oneOf _ [] => 2
  | .oneOf _ values => values.length
  | .raw _ values => values.length

theorem choice_pieces (source : String) (alone : Bool) (column : String) (value : Bound)
    (rest : List Bound) :
    Sql.conditionPieces source alone (.oneOf column (value :: rest)) =
      [.code (Sql.columnName source column ++ " IN (")] ++
        Sql.separated ", " ((value :: rest).map fun value => [.parameter value]) ++ [.code ")"] :=
  rfl

theorem choice_parameters (values : List Bound) :
    (values.map fun value => [Sql.Piece.parameter value]).flatMap Sql.parameters = values := by
  rw [List.flatMap_map]
  exact List.flatMap_singleton' values

theorem pieces_storable {condition : Condition} (storable : condition.IsStorable)
    (source : String) (alone : Bool) :
    Sql.IsStorable (Sql.conditionPieces source alone condition) := by
  cases condition with
  | equals column value =>
      exact Sql.is_storable_cons trivial (Sql.is_storable_cons storable Sql.is_storable_nil)
  | like column pattern =>
      exact Sql.is_storable_cons trivial (Sql.is_storable_cons rfl Sql.is_storable_nil)
  | oneOf column values =>
      cases values with
      | nil =>
          exact Sql.is_storable_cons rfl (Sql.is_storable_cons trivial
            (Sql.is_storable_cons rfl Sql.is_storable_nil))
      | cons value values =>
          rw [choice_pieces]
          refine Sql.is_storable_append (Sql.is_storable_cons ?_ ?_) ?_
          · trivial
          · apply Sql.is_storable_separated
            intro statement member
            obtain ⟨held, inside, same⟩ := List.mem_map.mp member
            subst same
            exact Sql.is_storable_cons (storable held inside) Sql.is_storable_nil
          · exact Sql.is_storable_cons trivial Sql.is_storable_nil
  | raw sql values => cases storable

theorem pieces_count (condition : Condition) (source : String) (alone : Bool) :
    (Sql.parameters (Sql.conditionPieces source alone condition)).length =
      condition.valueCount := by
  cases condition with
  | equals column value => rfl
  | like column pattern => rfl
  | oneOf column values =>
      cases values with
      | nil => rfl
      | cons value values =>
          rw [choice_pieces, Sql.parameters_append, Sql.parameters_append,
            Sql.parameters_separated, choice_parameters]
          exact congrArg List.length (List.append_nil _)
  | raw sql values => cases alone <;> exact congrArg List.length (List.append_nil values)

theorem where_clause_storable {conditions : List Condition}
    (storable : ∀ condition ∈ conditions, condition.IsStorable) (source : String) :
    Sql.IsStorable (Sql.whereClause source conditions) := by
  cases conditions with
  | nil => exact Sql.is_storable_nil
  | cons condition rest =>
      refine Sql.is_storable_cons ?_ (Sql.is_storable_separated ?_)
      · trivial
      · intro statement member
        obtain ⟨held, inside, same⟩ := List.mem_map.mp member
        subst same
        exact pieces_storable (storable held inside) source _

theorem where_clause_count (source : String) (conditions : List Condition) :
    (Sql.parameters (Sql.whereClause source conditions)).length =
      (conditions.map valueCount).sum := by
  cases conditions with
  | nil => rfl
  | cons condition rest =>
      show (Sql.parameters (Sql.conjunction source (condition :: rest))).length = _
      rw [Sql.conjunction, Sql.parameters_separated, List.flatMap_map, List.length_flatMap]
      refine congrArg List.sum (List.map_congr_left ?_)
      intro held _
      exact pieces_count held source _

/-! ## The size of conditions -/

/-- Conditions that the store takes in one statement, beside a number of further values. -/
structure FitStatement (entity : Entity) (conditions : List Condition) (besides : Nat) :
    Prop where
  patterns : ∀ condition ∈ conditions, condition.isOverlong = false
  values : (conditions.map valueCount).sum + besides ≤ Sql.greatestValues
  depth : joinedDepth entity conditions ≤ Sql.greatestDepth

theorem FitStatement.beside {entity : Entity} {conditions : List Condition} {more fewer : Nat}
    (fit : FitStatement entity conditions more) (less : fewer ≤ more) :
    FitStatement entity conditions fewer :=
  ⟨fit.patterns, Nat.le_trans (Nat.add_le_add_left less _) fit.values, fit.depth⟩

theorem joined_depth_le {entity : Entity} {conditions : List Condition}
    (shallow : ∀ condition ∈ conditions, condition.depth entity ≤ 3) :
    joinedDepth entity conditions ≤ conditions.length + 2 := by
  have joins : ∀ (rest : List Condition) (depth bound : Nat), 3 ≤ bound → depth ≤ bound →
      (∀ condition ∈ rest, condition.depth entity ≤ 3) →
      rest.foldl (fun depth condition => max depth (condition.depth entity) + 1) depth ≤
        rest.length + bound := by
    intro rest
    induction rest with
    | nil =>
        intro depth bound _ within _
        simpa using within
    | cons condition rest claim =>
        intro depth bound least within all
        have own := all condition List.mem_cons_self
        rw [List.foldl_cons, List.length_cons]
        have later := claim (max depth (condition.depth entity) + 1) (bound + 1) (by omega)
          (by omega) fun held inside => all held (List.mem_cons_of_mem _ inside)
        omega
  cases conditions with
  | nil => exact Nat.zero_le _
  | cons first rest =>
      have own := shallow first List.mem_cons_self
      have all := joins rest (first.depth entity) 3 (Nat.le_refl 3) own
        fun held inside => shallow held (List.mem_cons_of_mem _ inside)
      rw [List.length_cons]
      exact Nat.le_trans all (by omega)

/-- One more condition makes the expression deeper. -/
theorem join_mono (entity : Entity) {fewer more : List Condition} (among : fewer.Sublist more)
    {depth deeper : Nat} (less : depth ≤ deeper) :
    fewer.foldl (fun depth condition => max depth (condition.depth entity) + 1) depth ≤
      more.foldl (fun depth condition => max depth (condition.depth entity) + 1) deeper := by
  induction among generalizing depth deeper with
  | slnil => exact less
  | cons condition _ claim =>
      rw [List.foldl_cons]
      exact claim (by omega)
  | cons_cons condition _ claim =>
      rw [List.foldl_cons, List.foldl_cons]
      exact claim (by omega)

theorem joined_depth_mono (entity : Entity) {fewer more : List Condition}
    (among : fewer.Sublist more) : joinedDepth entity fewer ≤ joinedDepth entity more := by
  cases among with
  | slnil => exact Nat.le_refl 0
  | cons_cons first rest => exact join_mono entity rest (Nat.le_refl _)
  | @cons _ more first later =>
      cases fewer with
      | nil => exact Nat.zero_le _
      | cons condition fewer =>
          have entered := join_mono entity later (Nat.le_refl (first.depth entity))
          rw [List.foldl_cons] at entered
          exact Nat.le_trans (join_mono entity (List.Sublist.refl fewer) (by omega)) entered

variable {entity : Entity} {conditions : List Condition} {records : List Record}

theorem mem_in_turn {condition : Condition} :
    condition ∈ inTurn entity conditions ↔ condition ∈ conditions := by
  unfold inTurn
  rw [List.mem_append, List.mem_filter, List.mem_filter]
  by_cases early : (condition.isVacant || condition.isLookup entity) = true <;> simp [early]

theorem test_all_met {holds : Record -> Bool} (tested : testAll entity conditions = .ok holds)
    (record : Record) :
    holds record = conditions.all fun condition => condition.isMet entity record := by
  obtain ⟨tests, made, finished⟩ := except_bind_eq_ok.mp tested
  cases finished
  show (tests.all fun test => test record) = _
  have related := except_map_related made
  clear made tested
  induction related with
  | nil => rfl
  | cons first _ claim =>
      rw [List.all_cons, List.all_cons, claim]
      unfold isMet
      rw [first]

theorem comes_to_none {turns : List Condition}
    (short : ∀ condition ∈ turns, condition.isOverlong = false) (record : Record) :
    comesToOverlong entity record turns = false := by
  induction turns with
  | nil => rfl
  | cons condition rest claim =>
      rw [comesToOverlong, short condition List.mem_cons_self,
        claim fun held inside => short held (List.mem_cons_of_mem _ inside), Bool.and_false]
      rfl

/-- A record that meets all conditions is tested against each of them. -/
theorem comes_to_overlong {turns : List Condition} {record : Record}
    (all : ∀ condition ∈ turns, condition.isMet entity record = true)
    (long : ∃ condition ∈ turns, condition.isOverlong = true) :
    comesToOverlong entity record turns = true := by
  induction turns with
  | nil =>
      obtain ⟨_, impossible, _⟩ := long
      cases impossible
  | cons condition rest claim =>
      rw [comesToOverlong]
      obtain ⟨held, inside, isLong⟩ := long
      rcases List.mem_cons.mp inside with same | later
      · subst same
        rw [isLong]
        rfl
      · rw [all condition List.mem_cons_self,
          claim (fun held inside => all held (List.mem_cons_of_mem _ inside))
            ⟨held, later, isLong⟩]
        exact Bool.or_true _

theorem interruption_none_iff :
    interruption? entity conditions records = none ↔
      ∀ record ∈ records, comesToOverlong entity record (inTurn entity conditions) = false := by
  unfold interruption?
  rw [ite_eq_right_iff]
  simp [List.any_eq_true]

/-- Short patterns are matched with all records. -/
theorem interruption_short (short : ∀ condition ∈ conditions, condition.isOverlong = false) :
    interruption? entity conditions records = none :=
  interruption_none_iff.mpr fun record _ =>
    comes_to_none (fun held inside => short held (mem_in_turn.mp inside)) record

/-- A pattern that is too long and stands alone is refused as soon as there is a record. -/
theorem interruption_overlong {condition : Condition} (long : condition.isOverlong = true)
    (filled : records ≠ []) :
    interruption? entity [condition] records = some "LIKE or GLOB pattern too complex" := by
  have only : inTurn entity [condition] = [condition] := by
    unfold inTurn
    cases own : condition.isVacant || condition.isLookup entity <;>
      simp only [List.filter_cons, List.filter_nil, own] <;> rfl
  obtain ⟨record, member⟩ := List.exists_mem_of_ne_nil records filled
  unfold interruption?
  rw [if_pos]
  refine List.any_eq_true.mpr ⟨record, member, ?_⟩
  rw [only, comesToOverlong, long]
  rfl

/-- Where a pattern is too long and no record comes to it, none of them meets all conditions. -/
theorem interruption_none_selects {holds : Record -> Bool}
    (passed : interruption? entity conditions records = none)
    (long : ∃ condition ∈ conditions, condition.isOverlong = true)
    (tested : testAll entity conditions = .ok holds) : records.filter holds = [] := by
  rw [List.filter_eq_nil_iff]
  intro record member held
  rw [test_all_met tested, List.all_eq_true] at held
  obtain ⟨condition, inside, isLong⟩ := long
  have come : comesToOverlong entity record (inTurn entity conditions) = true :=
    comes_to_overlong (fun own within => held own (mem_in_turn.mp within))
      ⟨condition, mem_in_turn.mpr inside, isLong⟩
  rw [interruption_none_iff.mp passed record member] at come
  cases come

end Condition

/-- The outcome of statements: a value, unless the database refuses a statement for its size. It
refuses none where all of them fit. -/
structure Outcome.Yields {ε α : Type} (refused : String -> ε) (fits : Prop)
    (outcome : Outcome ε α) (value : α) : Prop where
  fitting : fits → outcome = .done value
  otherwise : outcome = .done value ∨ ∃ reason, outcome = .failed (refused reason)

namespace Outcome.Yields

variable {ε δ α β : Type} {refused : String -> ε} {fits : Prop} {outcome : Outcome ε α} {value : α}

theorem of_done (done : outcome = .done value) : outcome.Yields refused fits value :=
  ⟨fun _ => done, .inl done⟩

theorem mono {other : Prop} (yields : outcome.Yields refused fits value) (implied : other → fits) :
    outcome.Yields refused other value :=
  ⟨fun fit => yields.fitting (implied fit), yields.otherwise⟩

theorem eq_of_done (yields : outcome.Yields refused fits value) {other : α}
    (done : outcome = .done other) : other = value := by
  rcases yields.otherwise with same | ⟨reason, failed⟩
  · rw [same] at done
    cases done
    rfl
  · rw [failed] at done
    cases done

theorem bind {next : α -> Outcome ε β} {result : β} (yields : outcome.Yields refused fits value)
    (goesOn : (next value).Yields refused fits result) :
    (outcome >>= next).Yields refused fits result := by
  constructor
  · intro fit
    rw [yields.fitting fit]
    exact goesOn.fitting fit
  · rcases yields.otherwise with done | ⟨reason, failed⟩
    · rw [done]
      exact goesOn.otherwise
    · rw [failed]
      exact .inr ⟨reason, rfl⟩

theorem map_error (yields : outcome.Yields refused fits value) (convert : ε -> δ) :
    (outcome.mapError convert).Yields (fun reason => convert (refused reason)) fits value := by
  constructor
  · intro fit
    rw [yields.fitting fit]
    rfl
  · rcases yields.otherwise with done | ⟨reason, failed⟩
    · exact .inl (by rw [done]; rfl)
    · exact .inr ⟨reason, by rw [failed]; rfl⟩

end Outcome.Yields

namespace Backing

variable {α : Type} {entity : Entity} {statement : Sql.Statement} {conditions : List Condition}
  {read : Table -> List Record} {answer : Table -> (Record -> Bool) -> α}

/-- A statement has an answer exactly when it has a text, its values can be handed over, it is not
too large, the table exists, every condition is valid and no record that is read comes to a pattern
that is too long. -/
theorem execute_eq_done {backing : Backing} {result : α} :
    backing.execute entity statement conditions read answer = .done result ↔
      ∃ rendered table holds, Sql.render statement = some rendered ∧
        rendered.values.all Bound.isStorable = true ∧
        Sql.excess? entity conditions rendered.values = none ∧ backing = some table ∧
        Condition.testAll entity conditions = .ok holds ∧
        Condition.interruption? entity conditions (read table) = none ∧
        result = answer table holds := by
  constructor
  · intro answered
    unfold execute at answered
    split at answered
    · cases answered
    · next rendered written =>
        split at answered
        · next storable =>
            split at answered
            · cases answered
            · next small =>
                split at answered
                · cases answered
                · next table =>
                    split at answered
                    · cases answered
                    · next holds valid =>
                        split at answered
                        · cases answered
                        · next passed =>
                            cases answered
                            exact ⟨rendered, table, holds, written, storable, small, rfl, valid,
                              passed, rfl⟩
        · cases answered
  · rintro ⟨rendered, table, holds, written, storable, small, present, valid, passed, same⟩
    unfold execute
    rw [written, present, same]
    simp only [storable, small, valid, passed, if_true]

/-- Why the database refuses a statement with valid conditions, if it does. -/
def refusal? (entity : Entity) (conditions : List Condition) (values : List Bound)
    (records : List Record) : Option String :=
  (Sql.excess? entity conditions values).or (Condition.interruption? entity conditions records)

/-- A storable statement with valid conditions is answered from the table, unless it is refused. -/
theorem execute_storable {table : Table} {holds : Record -> Bool}
    (storable : Sql.IsStorable statement)
    (tested : Condition.testAll entity conditions = .ok holds) :
    execute entity (some table) statement conditions read answer =
      (refusal? entity conditions (Sql.parameters statement) (read table)).elim
        (.done (answer table holds)) fun reason => .failed (.database reason) := by
  obtain ⟨text, written, values⟩ := Sql.render_storable storable
  unfold execute refusal?
  rw [written]
  dsimp only
  rw [if_pos values, tested]
  cases Sql.excess? entity conditions (Sql.parameters statement) with
  | some reason => rfl
  | none =>
      rw [Option.none_or]
      cases Condition.interruption? entity conditions (read table) <;> rfl

theorem excess_none_iff {values : List Bound} :
    Sql.excess? entity conditions values = none ↔ values.length ≤ Sql.greatestValues ∧
      Condition.joinedDepth entity conditions ≤ Sql.greatestDepth := by
  unfold Sql.excess?
  split
  · next many => simp [Nat.not_le.mpr many]
  · next few =>
      split
      · next deep => simp [Nat.not_le.mpr deep]
      · next flat => simp [Nat.not_lt.mp few, Nat.not_lt.mp flat]

/-- Without a pattern that is too long the records do not matter. -/
theorem refusal_short {values : List Bound} {records : List Record}
    (short : ∀ condition ∈ conditions, condition.isOverlong = false) :
    refusal? entity conditions values records = Sql.excess? entity conditions values := by
  unfold refusal?
  rw [Condition.interruption_short short, Option.or_none]

/-- Fewer records do not make a statement refused. -/
theorem refusal_fewer {values : List Bound} {records others : List Record}
    (answered : refusal? entity conditions values records = none)
    (fewer : ∀ record ∈ others, record ∈ records) :
    refusal? entity conditions values others = none := by
  unfold refusal? at answered ⊢
  obtain ⟨small, passed⟩ := Option.or_eq_none_iff.mp answered
  rw [Option.or_eq_none_iff]
  refine ⟨small, Condition.interruption_none_iff.mpr fun record member => ?_⟩
  exact Condition.interruption_none_iff.mp passed record (fewer record member)

/-- A statement that fits is not refused. -/
theorem refusal_fitting {values : List Bound} {records : List Record} {besides : Nat}
    (fit : Condition.FitStatement entity conditions besides)
    (count : values.length ≤ (conditions.map Condition.valueCount).sum + besides) :
    refusal? entity conditions values records = none := by
  unfold refusal?
  rw [excess_none_iff.mpr ⟨Nat.le_trans count fit.values, fit.depth⟩,
    Condition.interruption_short fit.patterns]
  rfl

/-- A storable statement with valid conditions yields the answer from the table. -/
theorem execute_yields {table : Table} {holds : Record -> Bool} {besides : Nat}
    (storable : Sql.IsStorable statement)
    (tested : Condition.testAll entity conditions = .ok holds)
    (count : (Sql.parameters statement).length ≤
      (conditions.map Condition.valueCount).sum + besides) :
    (execute entity (some table) statement conditions read answer).Yields .database
      (Condition.FitStatement entity conditions besides) (answer table holds) := by
  rw [execute_storable storable tested]
  constructor
  · intro fit
    rw [refusal_fitting fit count]
    rfl
  · cases refusal? entity conditions (Sql.parameters statement) (read table) with
    | none => exact .inl rfl
    | some reason => exact .inr ⟨reason, rfl⟩

/-- A statement with too many values is refused on every table. -/
theorem execute_crowded {backing : Backing} (storable : Sql.IsStorable statement)
    (crowded : Sql.greatestValues < (Sql.parameters statement).length) :
    execute entity backing statement conditions read answer =
      .failed (.database "too many SQL variables") := by
  obtain ⟨text, written, values⟩ := Sql.render_storable storable
  unfold execute
  rw [written]
  dsimp only
  rw [if_pos values, Sql.excess?, if_pos crowded]

/-- With nothing but a pattern that is too long, a statement is refused on every table of which a
record is read. -/
theorem execute_overlong {table : Table} {field pattern : String}
    {statement : Sql.Statement} (storable : Sql.IsStorable statement)
    (count : (Sql.parameters statement).length ≤ Sql.greatestValues)
    (long : Sql.greatestPattern < pattern.utf8ByteSize) (filled : read table ≠ []) :
    execute entity (some table) statement [.like field pattern] read answer =
      .failed (.database "LIKE or GLOB pattern too complex") := by
  have flat : Condition.joinedDepth entity [.like field pattern] ≤ Sql.greatestDepth :=
    show 3 ≤ 1000 by decide
  have overlong : (Condition.like field pattern).isOverlong = true := decide_eq_true long
  have tested : Condition.testAll entity [.like field pattern] =
      .ok fun record => Condition.isLike field pattern record && true := rfl
  rw [execute_storable storable tested, refusal?, excess_none_iff.mpr ⟨count, flat⟩,
    Option.none_or, Condition.interruption_overlong overlong filled]
  rfl

end Backing
end GatedResources
