import GatedResources.Proofs.FilterMeaning

/-!
# Finding a record by a value of its own

A filter that gives a field the value which the record shows there asks for the text of that
value, and the store looks for it in its own text of the column. A pattern matches the text it
is made of, whichever marks occur in it, so texts and whole numbers are found. A truth value is
a word in a filter and a digit in the store, and no word of the two contains a digit: a filter
with a truth value passes over all records that hold one. A text that is too long for a pattern is
refused instead.
-/

namespace GatedResources

namespace Like

theorem stands_for_itself (symbol : Char) : standsFor symbol symbol = true := by
  unfold standsFor
  rw [beq_self_eq_true, Bool.or_true]

theorem covers_wild_nothing {pattern text : List Char} (covered : covers pattern text = true) :
    covers ('%' :: pattern) text = true := by
  rw [covers_wild, covered, Bool.true_or]

theorem covers_wild_symbol {pattern text : List Char} (symbol : Char)
    (covered : covers ('%' :: pattern) text = true) :
    covers ('%' :: pattern) (symbol :: text) = true := by
  rw [covers_wild]
  simp [covered]

/-- A text matches the pattern that is spelled like it, with marks behind that may stand for
nothing. -/
theorem covers_itself {spare : List Char} (nothing : covers spare [] = true) (text : List Char) :
    covers (text ++ spare) text = true := by
  induction text with
  | nil => exact nothing
  | cons symbol rest claim =>
      show covers (symbol :: (rest ++ spare)) (symbol :: rest) = true
      by_cases wild : symbol = '%'
      · subst wild
        exact covers_wild_symbol '%' (covers_wild_nothing claim)
      · rw [covers_mark symbol wild, stands_for_itself, claim]
        rfl

/-- A NUL in a text cuts off the `%` behind it as well. -/
theorem cut_before_wild (text : List Char) :
    ∃ spare, cut (text ++ ['%']) = cut text ++ spare ∧ covers spare [] = true := by
  induction text with
  | nil => exact ⟨['%'], rfl, rfl⟩
  | cons symbol rest claim =>
      unfold cut at claim ⊢
      rw [List.cons_append, List.takeWhile_cons, List.takeWhile_cons]
      split
      · obtain ⟨spare, same, nothing⟩ := claim
        exact ⟨spare, by rw [same]; rfl, nothing⟩
      · exact ⟨[], rfl, rfl⟩

/-- Every text is found in itself. -/
theorem is_match_contained (text : List Char) : isMatch ('%' :: (text ++ ['%'])) text = true := by
  obtain ⟨spare, same, nothing⟩ := cut_before_wild text
  have whole : cut ('%' :: (text ++ ['%'])) = '%' :: (cut text ++ spare) := by
    rw [← same]
    rfl
  unfold isMatch
  rw [whole]
  exact covers_wild_nothing (covers_itself nothing (cut text))

end Like

namespace Record

def shown? (record : Record) (name : String) : Option Json :=
  match record.toJson with
  | .object members => members.lookup name
  | _ => none

theorem shown_lookup (record : Record) (name : String) :
    record.shown? name = (record.lookup name).map Cell.toJson := by
  unfold shown? toJson
  dsimp only
  induction record with
  | nil => rfl
  | cons field rest claim =>
      obtain ⟨own, cell⟩ := field
      rw [List.map_cons, List.lookup_cons, List.lookup_cons, claim]
      cases name == own <;> rfl

theorem shown_cell {record : Record} {name : String} {value : Json}
    (shown : record.shown? name = some value) : (record.cell name).toJson = value := by
  rw [shown_lookup] at shown
  obtain ⟨own, held, same⟩ := Option.map_eq_some_iff.mp shown
  unfold Record.cell
  rw [held]
  exact same

end Record

namespace Cell

/-- A filter and the store write texts and whole numbers alike. -/
theorem filter_text_stored {cell : Cell} (noFlag : ∀ state, cell.toJson ≠ .bool state) :
    Filter.scalarText cell.toJson = (Scalar.ofCell cell).text? := by
  cases cell with
  | null | text _ | integer _ => rfl
  | flag state => exact absurd rfl (noFlag state)

theorem filter_text_given {cell : Cell} (given : cell.toJson ≠ .null) :
    ∃ text, Filter.scalarText cell.toJson = some text := by
  cases cell with
  | null => exact absurd rfl given
  | text content => exact ⟨content, rfl⟩
  | integer value => exact ⟨Decimal.integer value, rfl⟩
  | flag state => cases state <;> exact ⟨_, rfl⟩

theorem flag_of_shown {cell : Cell} {state : Bool} (shown : cell.toJson = .bool state) :
    cell = .flag state := by
  cases cell with
  | null | text _ | integer _ => cases shown
  | flag held =>
      cases shown
      rfl

end Cell

namespace Filter

/-- Without a transform, a value with a text asks for records that contain the text. -/
theorem entry_predicate_written {source column text : String} {transforms : Transforms}
    {value : Json} (untransformed : transforms.find? column = none)
    (written : scalarText value = some text) :
    entryPredicate source transforms (column, value) = some (.contains column text) := by
  have scalar : scalarPredicate source transforms column value = some (.contains column text) := by
    unfold scalarPredicate
    rw [untransformed]
    dsimp only
    rw [written, Option.map_some]
  cases value with
  | null | array _ | object _ => cases written
  | bool _ | number _ | string _ => exact scalar

end Filter

namespace Condition

variable {record : Record} {column text : String}

/-- A column is searched for the text in its pattern. -/
theorem is_like_text (stored : (Scalar.ofCell (record.cell column)).text? = some text)
    (part : String) :
    isLike column ("%" ++ part ++ "%") record =
      Like.isMatch ('%' :: (part.toList ++ ['%'])) text.toList := by
  unfold isLike
  rw [stored, String.toList_append, String.toList_append]
  rfl

/-- A record is found by the text that the store has of its column. -/
theorem is_like_stored (stored : (Scalar.ofCell (record.cell column)).text? = some text) :
    isLike column ("%" ++ text ++ "%") record = true := by
  rw [is_like_text stored]
  exact Like.is_match_contained text.toList

/-- The words for truth values are in no digit that the store has for one. -/
theorem is_like_flag {state held : Bool} (word : Filter.scalarText (.bool state) = some text)
    (flag : record.cell column = .flag held) :
    isLike column ("%" ++ text ++ "%") record = false := by
  unfold isLike
  rw [flag]
  cases state <;> cases word <;> cases held <;> decide +kernel

end Condition

namespace Handle

variable {handle : Handle .find} {principal : Principal}

/-- With one value in the filter, for a column without a transform, the list has the records in
whose column the store finds the text of the value. -/
theorem find_all_containing {column text : String} {value : Json} {filter : Option Encoded}
    (admitted : (handle.resource.gate .find principal).outcome = .done ())
    (isColumn : handle.resource.entity.hasColumn column = true)
    (untransformed : handle.resource.options.transforms.find? column = none)
    (asked : filter.bind Encoded.value? = some (.object [(column, value)]))
    (written : Filter.scalarText value = some text) (table : Table) (sort : Option Encoded) :
    let found := (handle.findAll principal (some table) ⟨filter, sort, none, none⟩).outcome
    (∃ page, found.Yields ResourceError.ofRefusal
        (text.utf8ByteSize + 2 ≤ Sql.greatestPattern) page ∧
      ∀ record, record ∈ page.data ↔ record ∈ table.records ∧
        Condition.isLike column ("%" ++ text ++ "%") record = true) ∧
    (Sql.greatestPattern < text.utf8ByteSize + 2 → table.records ≠ [] →
      ∃ reason, found = .failed (.ofRefusal reason)) := by
  intro found
  have predicates : handle.resource.filterPredicates filter =
      [.contains column text] := by
    rw [Filter.predicates_of_entries, Filter.entries_of_object asked,
      List.filterMap_cons_some (Filter.entry_predicate_written untransformed written)]
    rfl
  have sound : ∀ predicate ∈ handle.resource.filterPredicates filter,
      predicate.isSound handle.resource.entity = true := by
    rw [predicates]
    intro predicate member
    cases List.mem_singleton.mp member
    exact Bool.and_eq_true_iff.mpr ⟨isColumn, rfl⟩
  have within : ∀ predicate ∈ handle.resource.filterPredicates filter, predicate.IsWithin := by
    rw [predicates]
    intro predicate member carried impossible
    cases List.mem_singleton.mp member
    cases impossible
  constructor
  · obtain ⟨page, yields, _, permuted⟩ := find_all_sound admitted sound within
    rw [predicates] at yields
    refine ⟨page, yields.mono Predicate.contains_fits, ?_⟩
    intro record
    rw [permuted.mem_iff, List.mem_filter, predicates]
    unfold Predicate.allHold
    rw [List.all_cons, List.all_nil, Bool.and_true]
    rfl
  · intro long filled
    obtain ⟨order, query, _⟩ := handle.resource.query_value ⟨filter, sort, none, none⟩
    rw [← Predicate.contains_size column text] at long
    have refused := Store.find_page_overlong isColumn long filled
      handle.resource.entity.table order
    refine ⟨"LIKE or GLOB pattern too complex", ?_⟩
    show (handle.findAll principal (some table) ⟨filter, sort, none, none⟩).outcome = _
    rw [find_all_admitted admitted, query, predicates]
    exact congrArg (Outcome.mapError _) refused

/-- Asked for the value that a record shows in a column, the list has that record, unless the
value is a truth value; then it has no record at all that holds one in the column. Only the list
for a text that is too long for a pattern is refused. -/
theorem find_all_by_own_value {record : Record} {column : String} {value : Json}
    {filter : Option Encoded} {table : Table}
    (admitted : (handle.resource.gate .find principal).outcome = .done ())
    (isColumn : handle.resource.entity.hasColumn column = true)
    (untransformed : handle.resource.options.transforms.find? column = none)
    (inside : record ∈ table.records)
    (shown : record.shown? column = some value) (given : value ≠ .null)
    (asked : filter.bind Encoded.value? = some (.object [(column, value)]))
    (sort : Option Encoded) :
    let found := (handle.findAll principal (some table) ⟨filter, sort, none, none⟩).outcome
    ∃ text, Filter.scalarText value = some text ∧
      (text.utf8ByteSize + 2 ≤ Sql.greatestPattern →
        ∃ page, found = .done page ∧
          (record ∈ page.data ↔ ∀ state, value ≠ .bool state) ∧
          (∀ state, value = .bool state →
            ∀ listed ∈ page.data, ∀ held, listed.cell column ≠ .flag held)) ∧
      (Sql.greatestPattern < text.utf8ByteSize + 2 →
        ∃ reason, found = .failed (.ofRefusal reason)) := by
  intro found
  have own := Record.shown_cell shown
  obtain ⟨text, written⟩ : ∃ text, Filter.scalarText value = some text := by
    rw [← own] at given ⊢
    exact Cell.filter_text_given given
  obtain ⟨⟨page, yields, lists⟩, refuses⟩ :=
    find_all_containing admitted isColumn untransformed asked written table sort
  have noFlags : ∀ state, value = .bool state →
      ∀ listed ∈ page.data, ∀ held, listed.cell column ≠ .flag held := by
    intro state truth listed member held flag
    rw [truth] at written
    have matched := ((lists listed).mp member).2
    rw [Condition.is_like_flag written flag] at matched
    cases matched
  refine ⟨text, written, fun short => ⟨page, yields.fitting short, ⟨?_, ?_⟩, noFlags⟩,
    fun long => refuses long (List.ne_nil_of_mem inside)⟩
  · intro member state truth
    have flag : record.cell column = .flag state := by
      apply Cell.flag_of_shown
      rw [own, truth]
    exact noFlags state truth record member state flag
  · intro noTruth
    apply (lists record).mpr ⟨inside, Condition.is_like_stored ?_⟩
    rw [← own] at noTruth written
    rw [← Cell.filter_text_stored noTruth, written]

/-- A record is found by its title, in spite of the marks in it, and by its quantity, but not by
the truth value that it shows. -/
theorem find_all_by_shown_item :
    let resource : Resource :=
      ⟨Entity.items, { ResourceOptions.named "items" with policy := ⟨Action.all, []⟩ }⟩
    let handle : Handle .find := ⟨resource, rfl⟩
    let record : Record := [("id", .integer 1), ("title", .text "100%_"), ("qty", .integer (-3)),
      ("active", .flag true), ("note", .null)]
    let found := fun column value => (handle.findAll .anonymous (some ⟨[record], 2⟩)
      ⟨some (.structured (.object [(column, value)])), none, none, none⟩).outcome
    (∃ page, found "title" (.string "100%_") = .done page ∧ record ∈ page.data) ∧
    (∃ page, found "qty" (.integer (-3)) = .done page ∧ record ∈ page.data) ∧
    ∃ page, found "active" (.bool true) = .done page ∧ record ∉ page.data := by
  intro resource handle record found
  let table : Table := ⟨[record], 2⟩
  have admitted : (handle.resource.gate .find .anonymous).outcome = .done () := rfl
  have inside : record ∈ table.records := List.mem_cons_self
  have byOwn : ∀ column value text, resource.entity.hasColumn column = true →
      record.shown? column = some value → value ≠ .null →
      Filter.scalarText value = some text → text.utf8ByteSize + 2 ≤ Sql.greatestPattern →
      ∃ page, found column value = .done page ∧
        (record ∈ page.data ↔ ∀ state, value ≠ .bool state) := by
    intro column value text isColumn shown given written short
    have asked : (some (Encoded.structured (.object [(column, value)]))).bind Encoded.value? =
        some (.object [(column, value)]) := rfl
    obtain ⟨own, same, lists, _⟩ :=
      find_all_by_own_value admitted isColumn rfl inside shown given asked none
    cases written.symm.trans same
    obtain ⟨page, done, listed, _⟩ := lists short
    exact ⟨page, done, listed⟩
  refine ⟨?_, ?_, ?_⟩
  · obtain ⟨page, done, listed⟩ :=
      byOwn "title" (.string "100%_") "100%_" rfl rfl (by simp) rfl (by decide)
    exact ⟨page, done, listed.mpr (by simp)⟩
  · obtain ⟨page, done, listed⟩ :=
      byOwn "qty" (.integer (-3)) "-3" rfl rfl (by simp [Json.integer]) (by decide +kernel)
        (by decide)
    exact ⟨page, done, listed.mpr (by simp [Json.integer])⟩
  · obtain ⟨page, done, listed⟩ :=
      byOwn "active" (.bool true) "true" rfl rfl (by simp) rfl (by decide)
    exact ⟨page, done, fun member => listed.mp member true rfl⟩

end Handle
end GatedResources
