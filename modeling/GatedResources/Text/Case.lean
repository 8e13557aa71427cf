import GatedResources.Text.CaseTable
import GatedResources.Text.Quoted

/-!
# Upper and lower case, and names in camel case
-/

namespace GatedResources
namespace Case

def CaseRun.map? (run : CaseRun) (code : Nat) : Option Nat :=
  if run.codes.has code then some ((code : Int) + run.shift).toNat else none

/-- The mapping of a character by runs; itself when there is none. -/
def mapped (runs : List CaseRun) (symbol : Char) : Char :=
  match runs.findSome? fun run => run.map? symbol.toNat with
  | some code => Char.ofNat code
  | none => symbol

def lowerSymbol (symbol : Char) : List Char :=
  if symbol.toNat < 128 then [symbol.toLower]
  else if symbol = '\u0130' then ['i', '\u0307']
  else [mapped lowercaseRuns symbol]

def upperSymbol (symbol : Char) : List Char :=
  if symbol.toNat < 128 then
    [symbol.toUpper]
  else
    match uppercaseSequences.lookup symbol.toNat with
    | some codes => codes.map Char.ofNat
    | none => [mapped uppercaseRuns symbol]

def isUpper (symbol : Char) : Bool :=
  symbol.isUpper || capitalLetters.any fun run => run.has symbol.toNat

def isLower (symbol : Char) : Bool :=
  symbol.isLower || smallLetters.any fun run => run.has symbol.toNat

def isCased (symbol : Char) : Bool :=
  isUpper symbol || isLower symbol || Quoted.within titleRanges symbol.toNat

def isLetter (symbol : Char) : Bool :=
  symbol.isAlpha || Quoted.within letterRanges symbol.toNat

def isWordSymbol (symbol : Char) : Bool :=
  isLetter symbol || symbol.isDigit || Quoted.within numberRanges symbol.toNat

def isTransparent (symbol : Char) : Bool :=
  Quoted.within transparentRanges symbol.toNat

def meetsLetter (symbols : List Char) : Bool :=
  match symbols.dropWhile isTransparent with
  | symbol :: _ => isCased symbol
  | [] => false

/-- Lowercase, given the characters before, last first. A sigma at the end of a word has a
form of its own. -/
def lowerAfter (before : List Char) : List Char -> List Char
  | [] => []
  | symbol :: rest =>
      let form :=
        if symbol = '\u03A3' then
          if meetsLetter before && !meetsLetter rest then ['\u03C2'] else ['\u03C3']
        else
          lowerSymbol symbol
      form ++ lowerAfter (symbol :: before) rest

def lower (text : String) : String :=
  String.ofList (lowerAfter [] text.toList)

inductive Mode where
  | boundary
  | lower
  | upper
deriving DecidableEq, Repr

/-- Splits letters and digits into words: before a capital that follows a small letter, and
before the last capital of several that a small letter follows. `held` are the characters of
the word so far, last first. -/
def splitWords (held : List Char) (mode : Mode) : List Char -> List (List Char)
  | [] => []
  | [symbol] => [(symbol :: held).reverse]
  | symbol :: next :: rest =>
      let reached := if isLower symbol then .lower else if isUpper symbol then .upper else mode
      if reached = Mode.lower && isUpper next then
        (symbol :: held).reverse :: splitWords [] .boundary (next :: rest)
      else if mode = .upper && isUpper symbol && isLower next then
        held.reverse :: splitWords [symbol] .boundary (next :: rest)
      else
        splitWords (symbol :: held) reached (next :: rest)

def stretches (symbols : List Char) : List (List Char) :=
  symbols.foldr (fun symbol parts =>
    if isWordSymbol symbol then
      match parts with
      | part :: rest => (symbol :: part) :: rest
      | [] => [[symbol]]
    else
      [] :: parts) [[]]

/-- Lowercase within a word, where only the very last sigma has the final form. -/
def lowerTail : List Char -> List Char
  | [] => []
  | [symbol] => if symbol = '\u03A3' then ['\u03C2'] else lowerSymbol symbol
  | symbol :: next :: rest => lowerSymbol symbol ++ lowerTail (next :: rest)

def capitalized : List Char -> List Char
  | [] => []
  | symbol :: rest => upperSymbol symbol ++ lowerTail rest

def upperCamel (name : String) : String :=
  String.ofList ((stretches name.toList).flatMap fun stretch =>
    (splitWords [] .boundary stretch).flatMap capitalized)

end Case
end GatedResources
