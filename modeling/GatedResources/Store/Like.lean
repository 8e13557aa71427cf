/-!
# Pattern matching

In a pattern `%` stands for any text and `_` for one character. ASCII letters match in upper
and lower case, all other characters only themselves. There is no escape character. Pattern
and text end at their first NUL.

Matching goes through the pattern from its end and keeps, for every place in the text, whether
the marks so far match all that follows. The work grows with the product of both lengths. The
equations at the end say what the answers are without these columns.
-/

namespace GatedResources
namespace Like

def cut (symbols : List Char) : List Char :=
  symbols.takeWhile (· != '\x00')

def standsFor (mark symbol : Char) : Bool :=
  mark == '_' || mark.toLower == symbol.toLower

def fromHereOn : List Bool -> List Bool
  | [] => []
  | here :: later =>
      let answers := fromHereOn later
      (here || answers.headD false) :: answers

/-- For every place, whether a mark stands for the character there and an answer holds at the
next place. -/
def advance (mark : Char) : List Char -> List Bool -> List Bool
  | [], _ => [false]
  | symbol :: text, answers =>
      (standsFor mark symbol && answers.tail.headD false) :: advance mark text answers.tail

/-- For every place of a text, its end included, whether a pattern matches what follows. -/
def column : List Char -> List Char -> List Bool
  | [], text => text.map (fun _ => false) ++ [true]
  | mark :: pattern, text =>
      if mark = '%' then fromHereOn (column pattern text)
      else advance mark text (column pattern text)

def covers (pattern text : List Char) : Bool :=
  (column pattern text).headD false

def isMatch (pattern text : List Char) : Bool :=
  covers (cut pattern) (cut text)

theorem tail_column (pattern : List Char) (symbol : Char) (text : List Char) :
    (column pattern (symbol :: text)).tail = column pattern text := by
  induction pattern with
  | nil => rfl
  | cons mark pattern claim =>
      by_cases wild : mark = '%'
      · simp only [column, wild, if_true]
        rw [← claim]
        cases column pattern (symbol :: text) <;> rfl
      · simp [column, wild, advance, claim]

theorem length_column (pattern text : List Char) :
    (column pattern text).length = text.length + 1 := by
  induction text with
  | nil =>
      induction pattern with
      | nil => rfl
      | cons mark pattern claim =>
          by_cases wild : mark = '%'
          · simp only [column, wild, if_true]
            match column pattern [], claim with
            | [_], _ => rfl
          · simp [column, wild, advance]
  | cons symbol text claim =>
      rw [← tail_column pattern symbol text, List.length_tail] at claim
      simp only [List.length_cons]
      omega

/-- The column starts with the answer for the whole text. -/
theorem column_cons (pattern : List Char) (symbol : Char) (text : List Char) :
    column pattern (symbol :: text) = covers pattern (symbol :: text) :: column pattern text := by
  have length := length_column pattern (symbol :: text)
  have tail := tail_column pattern symbol text
  unfold covers
  match column pattern (symbol :: text), length, tail with
  | _ :: _, _, tail => simpa using tail

/-- The empty pattern matches the empty text only. -/
theorem covers_nil (text : List Char) : covers [] text = text.isEmpty := by
  cases text <;> rfl

/-- Any text is nothing at all, or one more character than any text. -/
theorem covers_wild (pattern text : List Char) :
    covers ('%' :: pattern) text =
      (covers pattern text || (!text.isEmpty && covers ('%' :: pattern) text.tail)) := by
  cases text with
  | nil =>
      have length := length_column pattern []
      unfold covers
      simp only [column, if_true]
      match column pattern [], length with
      | [_], _ => simp [fromHereOn]
  | cons symbol text =>
      show (fromHereOn (column pattern (symbol :: text))).headD false = _
      rw [column_cons]
      rfl

/-- Another mark takes one character that it stands for. -/
theorem covers_mark (mark : Char) (other : mark ≠ '%') (pattern : List Char) (symbol : Char)
    (text : List Char) :
    covers (mark :: pattern) (symbol :: text) = (standsFor mark symbol && covers pattern text) := by
  show (column (mark :: pattern) (symbol :: text)).headD false = _
  simp [column, other, advance, tail_column, covers]

theorem covers_mark_end (mark : Char) (other : mark ≠ '%') (pattern : List Char) :
    covers (mark :: pattern) [] = false := by
  simp [covers, column, other, advance]

end Like
end GatedResources
