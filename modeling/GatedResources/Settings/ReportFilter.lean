import GatedResources.Text.Case
import GatedResources.Text.Integer
import GatedResources.Text.Trim

/-!
# Filters for reports

What is reported is chosen by directives with commas between them. A directive is a level, or
a target, a span in brackets with fields in braces, or both, with `=` and a level after them.
-/

namespace GatedResources
namespace ReportFilter

inductive Refusal where
  | level
  | directive
deriving DecidableEq, Repr

def Refusal.message : Refusal -> String
  | .level =>
      "error parsing level filter: expected one of \"off\", \"error\", \"warn\", \"info\", " ++
        "\"debug\", \"trace\", or a number 0-5"
  | .directive => "invalid filter directive"

def Refusal.causes : Refusal -> List Refusal
  | .level => [.level]
  | .directive => []

def levelNames : List String :=
  ["off", "error", "warn", "info", "debug", "trace"]

def isLevel (symbols : List Char) : Bool :=
  match Integer.parseUnsigned 64 symbols with
  | .ok value => value ≤ 5
  | .error _ => levelNames.contains (String.ofList (symbols.map Char.toLower))

inductive Place where
  | start
  | name
  | span
  /-- Within braces, with or without something in the field. -/
  | field (isEmpty : Bool)
  | fields
  | target
  /-- After the equals sign. -/
  | level
deriving DecidableEq, Repr

inductive Directive where
  /-- It names a level alone, or a target or span without a level. -/
  | unleveled
  | leveled (level : List Char)
deriving DecidableEq, Repr

/-- Reads a directive; `none` if it is not one. -/
def read : Place -> List Char -> Option Directive
  | .level, symbols => some (.leveled symbols)
  | .name, [] | .target, [] => some .unleveled
  | _, [] => none
  | .start, symbol :: rest =>
      if symbol = '[' then read .span rest
      else if Case.isWordSymbol symbol || symbol == '-' || symbol == ':' || symbol == '_' then
        read .name rest
      else none
  | .name, symbol :: rest =>
      if symbol = '=' then read .level rest
      else if symbol = '[' then read .span rest
      else read .name rest
  | .span, symbol :: rest =>
      if symbol = ']' then read .target rest
      else if symbol = '{' then read (.field true) rest
      else read .span rest
  | .field isEmpty, symbol :: rest =>
      if symbol = '}' then
        if isEmpty then none else read .fields rest
      else
        read (.field false) rest
  | .fields, symbol :: rest => if symbol = ']' then read .target rest else none
  | .target, symbol :: rest => if symbol = '=' then read .level rest else none

/-- Checks a directive. A level may be left out after the equals sign; white space around the
directive makes any level one that is not known. -/
def checkDirective (symbols : List Char) : Except Refusal Unit :=
  let trimmed := Trim.spaces symbols
  match read .start trimmed with
  | none => .error .directive
  | some .unleveled => .ok ()
  | some (.leveled level) =>
      if trimmed = symbols ∧ (level.isEmpty ∨ isLevel level) then .ok () else .error .level

/-- Checks a filter; the first refusal counts. Nothing between commas is no directive. -/
def check (filter : String) : Except Refusal Unit :=
  ((Trim.splitAll ',' filter.toList).filter fun symbols => !symbols.isEmpty).forM checkDirective

end ReportFilter
end GatedResources
