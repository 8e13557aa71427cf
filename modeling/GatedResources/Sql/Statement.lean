import GatedResources.Store.Condition

/-!
# Statements

A statement is a list of pieces: SQL text, values in their places, and conditions that were
written as SQL.
-/

namespace GatedResources
namespace Sql

inductive Piece where
  | code (text : String)
  | parameter (value : Bound)
  | raw (sql : String) (values : List Bound)
deriving DecidableEq, Repr

abbrev Statement := List Piece

/-- A name in double quotes; double quotes within are doubled. -/
def quoteName (name : String) : String :=
  "\"" ++ String.ofList (name.toList.flatMap fun symbol =>
    if symbol = '"' then ['"', '"'] else [symbol]) ++ "\""

def columnName (source column : String) : String :=
  quoteName source ++ "." ++ quoteName column

def separated (separator : String) : List Statement -> Statement
  | [] => []
  | [only] => only
  | first :: next :: rest => first ++ .code separator :: separated separator (next :: rest)

/-- The pieces of a condition. A condition written as SQL is put into parentheses when it
does not stand alone. -/
def conditionPieces (source : String) (alone : Bool) : Condition -> Statement
  | .equals column value => [.code (columnName source column ++ " = "), .parameter value]
  | .like column pattern =>
      [.code (columnName source column ++ " LIKE "), .parameter (.text pattern)]
  | .oneOf _ [] => [.parameter (.small 1), .code " = ", .parameter (.small 2)]
  | .oneOf column (value :: values) =>
      .code (columnName source column ++ " IN (") ::
        separated ", " ((value :: values).map fun value => [.parameter value]) ++ [.code ")"]
  | .raw sql values =>
      if alone then [.raw sql values] else [.code "(", .raw sql values, .code ")"]

def conjunction (source : String) (conditions : List Condition) : Statement :=
  separated " AND " (conditions.map (conditionPieces source (conditions.length == 1)))

def whereClause (source : String) : List Condition -> Statement
  | [] => []
  | condition :: rest => .code " WHERE " :: conjunction source (condition :: rest)

def selectAll (entity : Entity) : Statement :=
  [.code ("SELECT " ++ ", ".intercalate (entity.columnNames.map (columnName entity.table)) ++
    " FROM " ++ quoteName entity.table)]

def select (entity : Entity) (selection : Selection) : Statement :=
  let order : Statement :=
    match selection.order with
    | none => []
    | some order =>
        let column := columnName entity.table order.field
        [.code (" ORDER BY " ++ column ++ " " ++ order.direction.keyword)]
  let limit : Statement :=
    match selection.limit with
    | none => []
    | some limit => [.code " LIMIT ", .parameter (.unsigned limit)]
  let offset : Statement :=
    match selection.offset with
    | none => []
    | some offset => [.code " OFFSET ", .parameter (.unsigned offset)]
  selectAll entity ++ whereClause selection.source selection.conditions ++ order ++ limit ++ offset

def selectWhere (entity : Entity) (source : String) (conditions : List Condition) : Statement :=
  selectAll entity ++
    (if conditions.isEmpty then [.code " WHERE TRUE"] else whereClause source conditions)

def deleteWhere (entity : Entity) (source : String) (conditions : List Condition) : Statement :=
  .code ("DELETE FROM " ++ quoteName entity.table) ::
    (if conditions.isEmpty then [.code " WHERE TRUE"] else whereClause source conditions)

end Sql
end GatedResources
