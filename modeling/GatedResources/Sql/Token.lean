import GatedResources.Text.Case

/-!
# Tokens of SQL text

A statement is split into blanks, words, quoted parts and single marks. Joined together the
tokens are the text again.
-/

namespace GatedResources
namespace Sql

inductive Token where
  | blanks (text : List Char)
  | word (text : List Char)
  | quoted (text : List Char)
  | mark (symbol : Char)
deriving DecidableEq, Repr

namespace Token

def text : Token -> List Char
  | .blanks text => text
  | .word text => text
  | .quoted text => text
  | .mark symbol => [symbol]

end Token

def isBlank (symbol : Char) : Bool :=
  symbol == ' ' || symbol == '\t' || symbol == '\r' || symbol == '\n'

def startsWord (symbol : Char) : Bool :=
  Case.isLetter symbol || symbol.isDigit

def continuesWord (symbol : Char) : Bool :=
  startsWord symbol || symbol == '_' || symbol == '$'

def closingQuote : Char -> Option Char
  | '"' => some '"'
  | '\'' => some '\''
  | '\x60' => some '\x60'
  | '[' => some ']'
  | _ => none

/-- Splits after the closing quote. A quote that stands twice is part of the text, unless
brackets are the quotes; so is one after a backslash. -/
def splitQuoted (opening closing : Char) (escaped : Bool) : List Char -> List Char × List Char
  | [] => ([], [])
  | symbol :: rest =>
      if symbol = closing && !escaped then
        match rest with
        | [] => ([symbol], [])
        | next :: more =>
            if next = closing && opening = closing then
              let (inside, after) := splitQuoted opening closing escaped more
              (symbol :: next :: inside, after)
            else
              ([symbol], rest)
      else
        let (inside, after) := splitQuoted opening closing (!escaped && symbol == '\\') rest
        (symbol :: inside, after)

def firstToken (symbol : Char) (rest : List Char) : Token × List Char :=
  if isBlank symbol then
    (.blanks (symbol :: rest.takeWhile isBlank), rest.dropWhile isBlank)
  else if startsWord symbol then
    (.word (symbol :: rest.takeWhile continuesWord), rest.dropWhile continuesWord)
  else
    match closingQuote symbol with
    | some closing =>
        let (inside, after) := splitQuoted symbol closing false rest
        (.quoted (symbol :: inside), after)
    | none => (.mark symbol, rest)

def scan : Nat -> List Char -> List Token
  | 0, _ => []
  | _ + 1, [] => []
  | fuel + 1, symbol :: rest =>
      let (token, after) := firstToken symbol rest
      token :: scan fuel after

/-- The tokens of a text. Each takes at least one character. -/
def tokens (text : String) : List Token :=
  let symbols := text.toList
  scan symbols.length symbols

end Sql
end GatedResources
