import GatedResources.Proofs.Containment
import GatedResources.Proofs.DecimalDigits
import GatedResources.Proofs.NarrowedRemovals
import GatedResources.Proofs.StoredRecords
import Mathlib.Data.Fintype.Pigeonhole

/-!
# Filters that cover every record

A bulk removal is refused when its filter asks for nothing, so that it never takes away all
records. But a filter may ask for something that every record has: a text of `%` alone, or of
nothing at all, is part of every text, and `_` is part of every number. Such entries pass the
check, and a filter that has no other ones takes away everything. With any other entry there is
a question that is spared.
-/

namespace GatedResources

namespace Like

/-- A text that asks for nothing but a number of characters. -/
structure AsksOnly (length : Nat) (part : List Char) : Prop where
  wildcards : ∀ mark ∈ cut part, mark = '%' ∨ mark = '_'
  short : (cut part).count '_' ≤ length

theorem asks_only_nil : AsksOnly 0 [] := by
  refine ⟨?_, Nat.le_refl 0⟩
  intro mark impossible
  cases impossible

theorem spells_wildcards {pattern text : List Char}
    (wildcards : ∀ mark ∈ pattern, mark = '%' ∨ mark = '_')
    (length : text.length = pattern.count '_') : Spells pattern text := by
  induction pattern generalizing text with
  | nil =>
      rw [List.count_nil, List.length_eq_zero_iff] at length
      rw [length]
      exact .nothing
  | cons mark pattern claim =>
      have others : ∀ later ∈ pattern, later = '%' ∨ later = '_' :=
        fun later member => wildcards later (List.mem_cons_of_mem _ member)
      rcases wildcards mark List.mem_cons_self with rfl | rfl
      · rw [List.count_cons_of_ne (by decide)] at length
        exact .anything [] (claim others length)
      · rw [List.count_cons_self] at length
        obtain ⟨symbol, rest, rfl⟩ := List.exists_cons_of_length_eq_add_one length
        exact .symbol (by decide) (.inl rfl) (claim others (Nat.succ.inj length))

theorem spells_length {pattern text : List Char} (spelled : Spells pattern text) :
    pattern.count '_' ≤ text.length := by
  induction spelled with
  | nothing => exact Nat.le_refl 0
  | anything taken _ claim =>
      rw [List.count_cons_of_ne (by decide), List.length_append]
      omega
  | symbol _ _ _ claim =>
      rw [List.count_cons, List.length_cons]
      split <;> omega

theorem spells_character {pattern text : List Char} (spelled : Spells pattern text) {mark : Char}
    (member : mark ∈ pattern) :
    mark = '%' ∨ mark = '_' ∨ ∃ symbol ∈ text, SameLetter mark symbol := by
  induction spelled with
  | nothing => cases member
  | anything taken _ claim =>
      rcases List.mem_cons.mp member with wild | later
      · exact .inl wild
      · rcases claim later with wild | any | ⟨symbol, inside, same⟩
        · exact .inl wild
        · exact .inr (.inl any)
        · exact .inr (.inr ⟨symbol, List.mem_append_right _ inside, same⟩)
  | symbol _ fits _ claim =>
      rcases List.mem_cons.mp member with rfl | later
      · rcases fits with any | same
        · exact .inr (.inl any)
        · exact .inr (.inr ⟨_, List.mem_cons_self, same⟩)
      · rcases claim later with wild | any | ⟨symbol, inside, same⟩
        · exact .inl wild
        · exact .inr (.inl any)
        · exact .inr (.inr ⟨symbol, List.mem_cons_of_mem _ inside, same⟩)

/-- Every text that is long enough has such a part at its end. -/
theorem AsksOnly.is_match {length : Nat} {part text : List Char} (asks : AsksOnly length part)
    (long : length ≤ (cut text).length) : isMatch ('%' :: (part ++ ['%'])) text = true := by
  have room : (cut part).count '_' ≤ (cut text).length := asks.short.trans long
  rw [is_match_part]
  refine ⟨(cut text).take ((cut text).length - (cut part).count '_'),
    (cut text).drop ((cut text).length - (cut part).count '_'), [], ?_, ?_, fun _ => rfl⟩
  · rw [List.append_nil, List.take_append_drop]
  · apply spells_wildcards asks.wildcards
    rw [List.length_drop]
    omega

/-- What a text must have to be found. -/
theorem is_match_needs {part text : List Char}
    (matched : isMatch ('%' :: (part ++ ['%'])) text = true) :
    (cut part).count '_' ≤ (cut text).length ∧ ∀ mark ∈ cut part,
      mark = '%' ∨ mark = '_' ∨ ∃ symbol ∈ cut text, SameLetter mark symbol := by
  obtain ⟨before, middle, after, split, spelled, _⟩ := is_match_part.mp matched
  constructor
  · have length := spells_length spelled
    rw [split, List.length_append, List.length_append]
    omega
  · intro mark member
    rcases spells_character spelled member with wild | any | ⟨symbol, inside, same⟩
    · exact .inl wild
    · exact .inr (.inl any)
    · exact .inr (.inr ⟨symbol, by simp [split, inside], same⟩)

theorem is_match_empty {part : List Char} :
    isMatch ('%' :: (part ++ ['%'])) [] = true ↔ AsksOnly 0 part := by
  constructor
  · intro matched
    obtain ⟨short, needs⟩ := is_match_needs matched
    refine ⟨?_, short⟩
    intro mark member
    rcases needs mark member with wild | any | ⟨symbol, impossible, _⟩
    · exact .inl wild
    · exact .inr any
    · cases impossible
  · intro asks
    exact asks.is_match (Nat.zero_le _)

/-- A text that is part of both digits asks for one character. -/
theorem is_match_digits {part : List Char} :
    isMatch ('%' :: (part ++ ['%'])) ['1'] = true ∧
      isMatch ('%' :: (part ++ ['%'])) ['2'] = true ↔ AsksOnly 1 part := by
  constructor
  · rintro ⟨first, second⟩
    obtain ⟨short, needs⟩ := is_match_needs first
    refine ⟨?_, short⟩
    intro mark member
    rcases needs mark member with wild | any | ⟨symbol, inside, same⟩
    · exact .inl wild
    · exact .inr any
    · rcases (is_match_needs second).2 mark member with wild | any | ⟨other, insideToo, sameToo⟩
      · exact .inl wild
      · exact .inr any
      · cases List.mem_singleton.mp inside
        cases List.mem_singleton.mp insideToo
        have one : mark.toLower = '1' := lower_eq_iff.mpr same
        have two : mark.toLower = '2' := lower_eq_iff.mpr sameToo
        rw [one] at two
        exact absurd two (by decide)
  · intro asks
    exact ⟨asks.is_match (Nat.le_refl 1), asks.is_match (Nat.le_refl 1)⟩

end Like

namespace Decimal

/-- The text of a whole number has a character, and no NUL. -/
theorem integer_text (number : Int) :
    '\x00' ∉ (integer number).toList ∧ 1 ≤ (integer number).toList.length := by
  have natural_text : ∀ value : Nat,
      '\x00' ∉ (natural value).toList ∧ 1 ≤ (natural value).toList.length := by
    intro value
    unfold natural
    rw [String.toList_ofList]
    constructor
    · intro member
      exact absurd (is_digit_of_digits member) (by decide)
    · exact List.length_pos_iff.mpr (digits_nonempty value)
  cases number with
  | ofNat value => exact natural_text value
  | negSucc value =>
      obtain ⟨clean, _⟩ := natural_text (value + 1)
      unfold integer
      rw [String.toList_append]
      constructor
      · intro member
        rcases List.mem_append.mp member with sign | digit
        · exact absurd sign (by decide)
        · exact clean digit
      · rw [List.length_append]
        exact Nat.le_add_right 1 _

end Decimal

namespace Scalar

/-- A number that is equal to a whole one is that many times its denominator. -/
theorem equal_integer {number : Int} {value : Scalar}
    (same : (integer number).equal value = true) :
    ∃ numerator denominator, value.fraction? = some (numerator, denominator) ∧
      number * denominator = numerator := by
  unfold equal at same
  rw [Bool.and_eq_true, beq_iff_eq] at same
  obtain ⟨_, ordered⟩ := same
  have ofFractions : ∀ first second : Int, compareOfLessAndEq first second = .eq →
      first = second :=
    fun _ _ => (compareOfLessAndEq_eq_eq Int.le_refl Int.not_le).mp
  cases value with
  | null => cases ordered
  | text held => cases ordered
  | integer held =>
      have product := ofFractions _ _ ordered
      exact ⟨held, 1, rfl, by omega⟩
  | real held =>
      have product := ofFractions _ _ ordered
      exact ⟨_, held.denominator, rfl, by rw [product, Int.natCast_one, Int.mul_one]⟩

theorem fraction_denominator {value : Scalar} {numerator : Int} {denominator : Nat}
    (fraction : value.fraction? = some (numerator, denominator)) : 0 < denominator := by
  cases value with
  | null | text _ => cases fraction
  | integer held =>
      cases fraction
      exact Nat.one_pos
  | real held =>
      cases fraction
      exact Nat.pow_pos (by decide)

/-- No value is equal to two whole numbers. -/
theorem equal_integers {first second : Int} {value : Scalar}
    (isFirst : (integer first).equal value = true)
    (isSecond : (integer second).equal value = true) : first = second := by
  obtain ⟨numerator, denominator, fraction, product⟩ := equal_integer isFirst
  obtain ⟨_, _, fractionToo, productToo⟩ := equal_integer isSecond
  rw [fraction] at fractionToo
  cases fractionToo
  have positive : (denominator : Int) ≠ 0 := by
    have above := fraction_denominator fraction
    omega
  exact Int.eq_of_mul_eq_mul_right positive (product.trans productToo.symm)

end Scalar

namespace Record

def blankQuestion (identifier : Int) : Record :=
  [(identifierField, .integer identifier), ("question", .text ""), ("answer", .text ""),
    ("status", .text "")]

theorem blank_text {column : String} (inBody : column ∈ Entity.faqs.body.map Column.name)
    (identifier : Int) :
    (Scalar.ofCell ((blankQuestion identifier).cell column)).text? = some "" := by
  have named : column = "question" ∨ column = "answer" ∨ column = "status" := by
    change column ∈ ["question", "answer", "status"] at inBody
    simpa using inBody
  rcases named with rfl | rfl | rfl <;> rfl

theorem blank_unknown {column : String} (unknown : column ∉ Entity.faqs.columnNames)
    (identifier : Int) : (blankQuestion identifier).cell column = .null := by
  have absent : (blankQuestion identifier).lookup column = none := by
    rw [List.lookup_eq_none_iff]
    intro field member
    rw [bne_iff_ne]
    rintro rfl
    exact unknown (List.mem_map_of_mem member)
  unfold cell
  rw [absent]
  rfl

theorem blank_digits :
    (Scalar.ofCell ((blankQuestion (1 : Nat)).cell identifierField)).text? = some "1" ∧
      (Scalar.ofCell ((blankQuestion (2 : Nat)).cell identifierField)).text? = some "2" := by
  decide +kernel

theorem equals_identifiers {first second : Int} {value : Json}
    (isFirst : (blankQuestion first).equalsValue Entity.faqs identifierField value = true)
    (isSecond : (blankQuestion second).equalsValue Entity.faqs identifierField value = true) :
    first = second := by
  unfold equalsValue at isFirst isSecond
  cases isScalar : value.scalar? with
  | none =>
      rw [isScalar] at isFirst
      cases isFirst
  | some scalar =>
      rw [isScalar] at isFirst isSecond
      exact Scalar.equal_integers isFirst isSecond

/-- A list of values that is shorter than a range does not have every number in it. -/
theorem exists_unlisted {values : List Json} {room : Nat} (few : values.length < room) :
    ∃ number < room, ∀ value ∈ values,
      (blankQuestion number).equalsValue Entity.faqs identifierField value = false := by
  by_contra none
  -- Every number has a place in the list then, and two of them have the same.
  have listed : ∀ number : Fin room, ∃ place : Fin values.length,
      (blankQuestion number).equalsValue Entity.faqs identifierField values[place] = true := by
    intro number
    by_contra missing
    refine none ⟨number, number.isLt, ?_⟩
    intro value member
    obtain ⟨place, inside, same⟩ := List.mem_iff_getElem.mp member
    rw [← Bool.not_eq_true]
    intro equals
    exact missing ⟨⟨place, inside⟩, same ▸ equals⟩
  choose place equals using listed
  obtain ⟨first, second, apart, same⟩ :=
    Fintype.exists_ne_map_eq_of_card_lt place (by simpa using few)
  have equalsToo := equals second
  rw [← same] at equalsToo
  exact apart (Fin.ext (Int.ofNat_inj.mp (equals_identifiers (equals first) equalsToo)))

end Record

namespace Entity

theorem blank_described {identifier : Int} (fits : ColumnType.fits 64 identifier = true) :
    faqs.Describes (.blankQuestion identifier) := by
  refine ⟨rfl, ?_⟩
  intro column member
  simp only [columns, faqs, List.mem_cons, List.not_mem_nil, or_false] at member
  rcases member with rfl | rfl | rfl | rfl
  · exact fits
  · rfl
  · rfl
  · rfl

/-- The texts that the store has of the columns of a question. -/
theorem described_text {record : Record} (described : faqs.Describes record) :
    (∀ column ∈ faqs.body, ∃ text, record.cell column.name = .text text) ∧
      ∃ identifier, record.cell identifierField = .integer identifier := by
  have isText : ∀ column ∈ faqs.body, column.type = .text ∧ column.nullable = false := by
    decide
  constructor
  · intro column member
    have admitted := described.values column (mem_columns member)
    obtain ⟨type, nullable⟩ := isText column member
    cases cell : record.cell column.name with
    | text text => exact ⟨text, rfl⟩
    | null | integer _ | flag _ => simp [Column.admits, cell, type, nullable] at admitted
  · have admitted := described.values identifierColumn List.mem_cons_self
    cases cell : record.cell identifierField with
    | integer identifier => exact ⟨identifier, rfl⟩
    | null | text _ | flag _ => simp [Column.admits, cell, identifierColumn] at admitted

end Entity

namespace Filter

/-- An entry that asks for nothing that not every question has. -/
inductive AsksNothing : String × Json -> Prop where
  | passed {key : String} {value : Json} (noText : scalarText value = none)
      (noList : ∀ elements, key = identifiersKey → value ≠ .array elements) :
      AsksNothing (key, value)
  | body {key text : String} {value : Json} (inBody : key ∈ Entity.faqs.body.map Column.name)
      (written : scalarText value = some text) (asks : Like.AsksOnly 0 text.toList) :
      AsksNothing (key, value)
  | identifier {text : String} {value : Json} (written : scalarText value = some text)
      (asks : Like.AsksOnly 1 text.toList) : AsksNothing (identifierField, value)

/-- A filter of which some entries are not passed over, but none asks for anything. -/
structure CoversQuestions (filter : Option Encoded) : Prop where
  usable : ∃ entry ∈ entries filter, (scalarText entry.2).isSome = true
  nothing : ∀ entry ∈ entries filter, AsksNothing entry

section Entries

variable {transforms : Transforms} (untransformed : ∀ field, transforms.find? field = none)

theorem entry_predicate_passed {source key : String} {value : Json}
    (noText : scalarText value = none)
    (noList : ∀ elements, key = identifiersKey → value ≠ .array elements) :
    entryPredicate source transforms (key, value) = none := by
  cases value with
  | null | object _ => rfl
  | array elements =>
      unfold entryPredicate memberPredicate
      dsimp only
      rw [if_neg fun named => noList elements named rfl]
      rfl
  | bool state => cases state <;> cases noText
  | number _ | string _ => cases noText

include untransformed

/-- Such an entry is passed over, or every question is found by its text. -/
theorem AsksNothing.predicate {entry : String × Json} (nothing : AsksNothing entry)
    {predicate : Predicate}
    (asked : entryPredicate Entity.faqs.table transforms entry = some predicate) :
    ∃ key text, predicate = .contains key text ∧ Entity.faqs.hasColumn key = true ∧
      ∀ record, Entity.faqs.Describes record →
        Condition.isLike key ("%" ++ text ++ "%") record = true := by
  cases nothing with
  | passed noText noList =>
      rw [entry_predicate_passed noText noList] at asked
      cases asked
  | @body key text value inBody written asks =>
      rw [entry_predicate_written (untransformed key) written] at asked
      cases asked
      refine ⟨key, text, rfl, ?_, ?_⟩
      · exact List.contains_iff_mem.mpr (List.mem_cons_of_mem _ inBody)
      · intro record described
        obtain ⟨column, member, rfl⟩ := List.mem_map.mp inBody
        obtain ⟨held, cell⟩ := (Entity.described_text described).1 column member
        rw [Condition.is_like_text (by rw [cell]; rfl)]
        exact asks.is_match (Nat.zero_le _)
  | @identifier text value written asks =>
      rw [entry_predicate_written (untransformed _) written] at asked
      cases asked
      refine ⟨identifierField, text, rfl, rfl, ?_⟩
      intro record described
      obtain ⟨number, cell⟩ := (Entity.described_text described).2
      obtain ⟨clean, long⟩ := Decimal.integer_text number
      rw [Condition.is_like_text (by rw [cell]; rfl)]
      apply asks.is_match
      rw [Like.cut_without_nul clean]
      exact long

/-- What any other entry asks for, some question without texts does not have. -/
theorem exists_spared {key : String} {value : Json} (something : ¬AsksNothing (key, value))
    (short : ∀ elements, key = identifiersKey → value = .array elements →
      elements.length < Nat.pow 2 63) :
    ∃ predicate, entryPredicate Entity.faqs.table transforms (key, value) = some predicate ∧
      ∃ number < Nat.pow 2 63,
        predicate.holds Entity.faqs (.blankQuestion number) = false := by
  cases written : scalarText value with
  | some text =>
      refine ⟨.contains key text, entry_predicate_written (untransformed key) written, ?_⟩
      by_cases inBody : key ∈ Entity.faqs.body.map Column.name
      · refine ⟨1, by decide, ?_⟩
        show Condition.isLike key ("%" ++ text ++ "%") (.blankQuestion 1) = false
        rw [Condition.is_like_text (Record.blank_text inBody 1), ← Bool.not_eq_true]
        intro matched
        exact something (.body inBody written (Like.is_match_empty.mp matched))
      · by_cases identifies : key = identifierField
        · subst identifies
          by_contra all
          have found : ∀ number < Nat.pow 2 63, Condition.isLike identifierField
              ("%" ++ text ++ "%") (.blankQuestion number) = true := by
            intro number below
            rw [← Bool.not_eq_false]
            intro spared
            exact all ⟨number, below, spared⟩
          have one := found 1 (by decide)
          have two := found 2 (by decide)
          rw [Condition.is_like_text Record.blank_digits.1] at one
          rw [Condition.is_like_text Record.blank_digits.2] at two
          exact something (.identifier written (Like.is_match_digits.mp ⟨one, two⟩))
        · refine ⟨1, by decide, ?_⟩
          have unknown : key ∉ Entity.faqs.columnNames := by
            intro known
            rcases List.mem_cons.mp known with same | among
            · exact identifies same
            · exact inBody among
          show Condition.isLike key ("%" ++ text ++ "%") (.blankQuestion 1) = false
          unfold Condition.isLike
          rw [Record.blank_unknown unknown]
          rfl
  | none =>
      have isList : ∃ elements, key = identifiersKey ∧ value = .array elements := by
        by_contra noList
        refine something (.passed written ?_)
        intro elements named same
        exact noList ⟨elements, named, same⟩
      obtain ⟨elements, rfl, rfl⟩ := isList
      obtain ⟨number, below, unlisted⟩ := Record.exists_unlisted (short elements rfl rfl)
      refine ⟨.oneOf identifierField elements, rfl, number, below, ?_⟩
      exact List.any_eq_false.mpr fun value member => by simp [unlisted value member]

end Entries

section Filters

variable {resource : Resource} {filter : Option Encoded}
  (untransformed : ∀ field, resource.options.transforms.find? field = none)

include untransformed

/-- With short texts such a filter fits a statement: it has one entry at most for a column. -/
theorem CoversQuestions.fits (covers : CoversQuestions filter)
    (ascending : Json.Ascending (entries filter))
    (short : ∀ entry ∈ entries filter, ∀ text, scalarText entry.2 = some text →
      text.utf8ByteSize + 2 ≤ Sql.greatestPattern) :
    Predicate.FitStatement (resource.filterPredicates filter) 0 := by
  have asks : ∀ entry ∈ entries filter, ∀ predicate,
      entryPredicate resource.entity.table resource.options.transforms entry = some predicate →
      entry.1 ∈ Entity.faqs.columnNames ∧ predicate.valueCount = 1 ∧
        predicate.patternSize ≤ Sql.greatestPattern := by
    intro entry inside predicate asked
    have own := short entry inside
    cases covers.nothing entry inside with
    | passed noText noList =>
        rw [entry_predicate_passed noText noList] at asked
        cases asked
    | body inBody written _ =>
        rw [entry_predicate_written (untransformed _) written] at asked
        cases asked
        exact ⟨List.mem_cons_of_mem _ inBody, rfl, by
          rw [Predicate.contains_size]; exact own _ written⟩
    | identifier written _ =>
        rw [entry_predicate_written (untransformed _) written] at asked
        cases asked
        exact ⟨List.mem_cons_self, rfl, by rw [Predicate.contains_size]; exact own _ written⟩
  have each : ∀ predicate ∈ resource.filterPredicates filter,
      predicate.valueCount = 1 ∧ predicate.patternSize ≤ Sql.greatestPattern := by
    intro predicate member
    obtain ⟨entry, inside, asked⟩ := mem_filter_predicates.mp member
    exact (asks entry inside predicate asked).2
  have few : (resource.filterPredicates filter).length ≤ 4 := by
    let asking := (entries filter).filter fun entry =>
      (entryPredicate resource.entity.table resource.options.transforms entry).isSome
    have distinct : (asking.map Prod.fst).Nodup :=
      (Json.ascending_distinct ascending).sublist (List.filter_sublist.map _)
    have known : asking.map Prod.fst ⊆ Entity.faqs.columnNames := by
      intro key member
      obtain ⟨entry, inside, rfl⟩ := List.mem_map.mp member
      obtain ⟨among, isSome⟩ := List.mem_filter.mp inside
      obtain ⟨predicate, asked⟩ := Option.isSome_iff_exists.mp isSome
      exact (asks entry among predicate asked).1
    have counted : (resource.filterPredicates filter).length = (asking.map Prod.fst).length := by
      rw [predicates_of_entries, List.length_filterMap_eq_countP, List.countP_eq_length_filter,
        List.length_map]
    rw [counted]
    exact (distinct.subperm known).length_le
  refine ⟨fun predicate member => (each predicate member).2, ?_, ?_⟩
  · rw [List.map_congr_left fun predicate member => (each predicate member).1, List.map_const',
      List.sum_replicate_nat, Nat.mul_one]
    unfold Sql.greatestValues
    omega
  · unfold Sql.greatestDepth
    omega

variable (entity : resource.entity = Entity.faqs)

include entity

/-- A filter that covers the questions has predicates, and all of them are true of every
question. -/
theorem CoversQuestions.predicates (covers : CoversQuestions filter) :
    resource.filterPredicates filter ≠ [] ∧
      ∀ predicate ∈ resource.filterPredicates filter,
        predicate.isSound resource.entity = true ∧ predicate.IsWithin ∧
          ∀ record, Entity.faqs.Describes record →
            predicate.holds resource.entity record = true := by
  constructor
  · obtain ⟨⟨key, value⟩, inside, isSome⟩ := covers.usable
    obtain ⟨text, written⟩ := Option.isSome_iff_exists.mp isSome
    have member : Predicate.contains key text ∈ resource.filterPredicates filter :=
      mem_filter_predicates.mpr
        ⟨_, inside, entry_predicate_written (untransformed key) written⟩
    exact List.ne_nil_of_mem member
  · intro predicate member
    obtain ⟨entry, inside, asked⟩ := mem_filter_predicates.mp member
    rw [entity] at asked ⊢
    obtain ⟨key, text, rfl, known, found⟩ :=
      (covers.nothing entry inside).predicate untransformed asked
    refine ⟨?_, ?_, found⟩
    · exact Bool.and_eq_true_iff.mpr ⟨known, rfl⟩
    · intro value impossible
      cases impossible

theorem exists_spared_uncovered (uncovered : ¬CoversQuestions filter)
    (short : ∀ elements, (identifiersKey, .array elements) ∈ entries filter →
      elements.length < Nat.pow 2 63) :
    ∃ number < Nat.pow 2 63, resource.filterPredicates filter = [] ∨
      Predicate.allHold resource.entity (resource.filterPredicates filter)
        (.blankQuestion number) = false := by
  by_cases nothing : ∀ entry ∈ entries filter, AsksNothing entry
  · refine ⟨0, by decide, .inl ?_⟩
    rw [predicates_of_entries, List.filterMap_eq_nil_iff]
    intro entry inside
    cases nothing entry inside with
    | passed noText noList => exact entry_predicate_passed noText noList
    | body _ written _ | identifier written _ =>
        exact absurd ⟨⟨_, inside, by rw [written]; rfl⟩, nothing⟩ uncovered
  · simp only [not_forall] at nothing
    obtain ⟨⟨key, value⟩, inside, something⟩ := nothing
    obtain ⟨predicate, asked, number, below, spared⟩ := exists_spared untransformed something
      fun elements named same => short elements (by rw [← named, ← same]; exact inside)
    refine ⟨number, below, .inr ?_⟩
    rw [← entity] at asked spared
    have member := mem_filter_predicates.mpr ⟨_, inside, asked⟩
    rw [← Bool.not_eq_true]
    intro held
    rw [List.all_eq_true.mp held predicate member] at spared
    cases spared

end Filters

end Filter

/-- A record that is not what some predicate says is left, however the removal ends. -/
theorem Resource.RemovalEnds.spares {resource : Resource} {filter : Option Encoded} {table : Table}
    {ended : Outcome ResourceError Bool × Backing}
    (ends : resource.RemovalEnds filter table ended) {record : Record}
    (inside : record ∈ table.records)
    (spared : resource.filterPredicates filter = [] ∨
      Predicate.allHold resource.entity (resource.filterPredicates filter) record = false) :
    ∃ left, ended.2 = some left ∧ record ∈ left.records := by
  cases ends with
  | unfiltered _ | refused _ _ _ | crashed _ _ | declined _ _ _ => exact ⟨table, rfl, inside⟩
  | removed usable _ _ _ =>
      rcases spared with unusable | spared
      · exact absurd unusable usable
      · refine ⟨_, rfl, List.mem_filter.mpr ⟨inside, ?_⟩⟩
        rw [spared]
        rfl

namespace Handle

variable {handle : Handle .delete} {principal : Principal}

/-- A filter of entries that ask for nothing is not stopped, and takes away all questions, unless
the database refuses it for its size; with texts short enough for a pattern it does not. Every other
filter spares a question, as long as it does not list half of all identifiers. -/
theorem remove_many_covering
    (admitted : (handle.resource.gate .delete principal).outcome = .done ())
    (entity : handle.resource.entity = Entity.faqs)
    (untransformed : ∀ field, handle.resource.options.transforms.find? field = none)
    (filter : Option Encoded) :
    let remove := fun table => (Autocommit.removeMany handle principal ⟨filter⟩).run (some table)
    (Filter.CoversQuestions filter →
      ∀ table, (∀ record ∈ table.records, Entity.faqs.Describes record) →
        let emptied : Outcome ResourceError Bool × Backing :=
          (.done (decide (0 < table.records.length)), some ⟨[], table.nextIdentifier⟩)
        (Json.Ascending (Filter.entries filter) →
          (∀ entry ∈ Filter.entries filter, ∀ text, Filter.scalarText entry.2 = some text →
            text.utf8ByteSize + 2 ≤ Sql.greatestPattern) →
          remove table = emptied) ∧
        (remove table = emptied ∨
          ∃ reason, remove table = (.failed (.ofRefusal reason), some table))) ∧
    (¬Filter.CoversQuestions filter →
      (∀ elements, (Filter.identifiersKey, .array elements) ∈ Filter.entries filter →
        elements.length < Nat.pow 2 63) →
      ∃ record, Entity.faqs.Describes record ∧
        ∀ table, record ∈ table.records →
          ∃ left, (remove table).2 = some left ∧ record ∈ left.records) := by
  intro remove
  have plain : handle.resource.HasPlainTransforms := by
    intro field transform found
    rw [untransformed] at found
    cases found
  have ends : ∀ table, handle.resource.RemovalEnds filter table (remove table) :=
    fun table => remove_many_ends admitted (plain.filter_predicates filter) table
  constructor
  · intro covers table described emptied
    obtain ⟨usable, each⟩ := covers.predicates untransformed entity
    have all : ∀ record ∈ table.records, Predicate.allHold handle.resource.entity
        (handle.resource.filterPredicates filter) record = true := by
      intro record inside
      exact List.all_eq_true.mpr fun predicate member =>
        (each predicate member).2.2 record (described record inside)
    have none : (table.records.filter fun record => !Predicate.allHold handle.resource.entity
        (handle.resource.filterPredicates filter) record) = [] := by
      rw [List.filter_eq_nil_iff]
      intro record inside
      rw [all record inside]
      decide
    have removal := (ends table).of_sound usable (fun predicate member => (each predicate member).1)
      fun predicate member => (each predicate member).2.1
    rw [List.filter_eq_self.mpr all, Table.without, none] at removal
    constructor
    · intro ascending short
      refine removal.resolve_right ?_
      rintro ⟨_, _, unfit, _⟩
      exact unfit (covers.fits untransformed ascending short)
    · exact removal.imp id fun ⟨reason, declined, _, _⟩ => ⟨reason, declined⟩
  · intro uncovered short
    obtain ⟨number, below, spared⟩ :=
      Filter.exists_spared_uncovered untransformed entity uncovered short
    refine ⟨.blankQuestion number, Entity.blank_described ?_, ?_⟩
    · apply decide_eq_true
      constructor
      · omega
      · exact Int.ofNat_lt.mpr below
    · intro table inside
      exact (ends table).spares inside spared

/-- The empty text is part of every question, and a removal by it leaves none. A removal by a
question mark spares a question. -/
theorem remove_many_by_empty_text :
    let resource : Resource :=
      ⟨Entity.faqs, { ResourceOptions.named "faqs" with policy := ⟨Action.all, []⟩ }⟩
    let handle : Handle .delete := ⟨resource, rfl⟩
    let filter := fun text => some (Encoded.structured (.object [("question", .string text)]))
    let why : Record := [("id", .integer 1), ("question", .text "Why?"), ("answer", .text ""),
      ("status", .text "draft")]
    let table : Table := ⟨[why], 2⟩
    let remove := fun text table =>
      (Autocommit.removeMany handle .anonymous ⟨filter text⟩).run (some table)
    (resource.gate .delete .anonymous).outcome = .done () ∧
    resource.entity = Entity.faqs ∧
    (∀ field, resource.options.transforms.find? field = none) ∧
    remove "" table = (.done true, some ⟨[], 2⟩) ∧
    ∃ record, Entity.faqs.Describes record ∧ ∀ table, record ∈ table.records →
      ∃ left, (remove "?" table).2 = some left ∧ record ∈ left.records := by
  intro resource handle filter why table remove
  have admitted : (handle.resource.gate .delete .anonymous).outcome = .done () := rfl
  have untransformed : ∀ field, handle.resource.options.transforms.find? field = none :=
    fun _ => rfl
  refine ⟨admitted, rfl, untransformed, ?_, ?_⟩
  · have covers : Filter.CoversQuestions (filter "") := by
      refine ⟨⟨_, List.mem_cons_self, rfl⟩, ?_⟩
      intro entry inside
      cases List.mem_singleton.mp inside
      exact .body (by decide) rfl Like.asks_only_nil
    have described : ∀ record ∈ table.records, Entity.faqs.Describes record := by
      intro record inside
      cases List.mem_singleton.mp inside
      exact ⟨rfl, by decide +kernel⟩
    refine ((remove_many_covering admitted rfl untransformed (filter "")).1 covers table
      described).1 (List.pairwise_singleton _ _) ?_
    intro entry inside text written
    cases List.mem_singleton.mp inside
    cases written
    decide
  · apply (remove_many_covering admitted rfl untransformed (filter "?")).2
    · intro covers
      have nothing := covers.nothing _ List.mem_cons_self
      generalize same : ("question", Json.string "?") = entry at nothing
      cases nothing with
      | passed noText _ =>
          cases same
          cases noText
      | body _ written asks =>
          cases same
          cases written
          exact absurd (asks.wildcards '?' (by decide)) (by decide)
      | identifier _ _ => exact absurd (Prod.mk.inj same).1 (by decide)
    · intro elements inside
      exact absurd (Prod.mk.inj (List.mem_singleton.mp inside)).1 (by decide)

end Handle
end GatedResources
