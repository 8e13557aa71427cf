/-!
# Path patterns

A pattern is text in which braces name a segment, or with a star all that is left. Doubled
braces stand for themselves.
-/

namespace GatedResources

inductive PatternPiece where
  | symbol (value : Char)
  | segment (name : List Char)
  | remainder (name : List Char)
deriving DecidableEq, Repr

abbrev Pattern := List PatternPiece

abbrev Captures := List (List Char × List Char)

namespace Pattern

/-- Reads the name of a segment up to the closing brace. Only its first character may be a
star or a slash. -/
def readName (held : List Char) : List Char -> Option (List Char × List Char)
  | [] => none
  | '}' :: '}' :: rest => readName ('}' :: held) rest
  | '}' :: rest => some (held.reverse, rest)
  | symbol :: rest =>
      if !held.isEmpty && (symbol = '*' || symbol = '/') then none
      else readName (symbol :: held) rest

/-- Reads pieces. A named segment reaches up to a slash or the end. The fuel bounds the
number of pieces. -/
def readPieces : Nat -> List Char -> Option Pattern
  | 0, _ => none
  | _ + 1, [] => some []
  | fuel + 1, '{' :: '{' :: rest => do
      some (.symbol '{' :: (← readPieces fuel rest))
  | fuel + 1, '}' :: '}' :: rest => do
      some (.symbol '}' :: (← readPieces fuel rest))
  | _ + 1, '}' :: _ => none
  | fuel + 1, '{' :: rest =>
      match readName [] rest with
      | none => none
      | some ([], _) => none
      | some ('*' :: name, rest) =>
          if name.isEmpty || !rest.isEmpty then none else some [.remainder name]
      | some (name, rest) =>
          match rest with
          | [] => some [.segment name]
          | '/' :: _ => do
              some (.segment name :: (← readPieces fuel rest))
          | _ => none
  | fuel + 1, symbol :: rest => do
      some (.symbol symbol :: (← readPieces fuel rest))

def hasOldStyle : List Char -> Bool
  | '/' :: ':' :: _ => true
  | '/' :: '*' :: _ => true
  | _ :: rest => hasOldStyle rest
  | [] => false

/-- The most segments that a pattern can name. -/
def greatestSegmentCount : Nat := 25

def segmentCount : Pattern -> Nat
  | [] => 0
  | .segment _ :: rest => segmentCount rest + 1
  | .symbol _ :: rest | .remainder _ :: rest => segmentCount rest

/-- The pattern that a text stands for. It begins with a slash. -/
def parse (text : String) : Option Pattern :=
  match text.toList with
  | '/' :: rest =>
      if hasOldStyle ('/' :: rest) then
        none
      else do
        let pattern ← readPieces (rest.length + 2) ('/' :: rest)
        if pattern.segmentCount ≤ greatestSegmentCount then some pattern else none
  | _ => none

/-- Whether two patterns cannot stand side by side: they differ in names only, or name
different extents at one place. -/
def conflicts : Pattern -> Pattern -> Bool
  | [], [] => true
  | .symbol first :: rest, .symbol second :: others => first == second && conflicts rest others
  | .segment _ :: rest, .segment _ :: others => conflicts rest others
  | .remainder _ :: _, .remainder _ :: _ => true
  | .segment _ :: _, .remainder _ :: _ => true
  | .remainder _ :: _, .segment _ :: _ => true
  | _, _ => false

/-- Whether a pattern is to be tried before another: plain text before named segments, and
these before all that is left. -/
def precedes : Pattern -> Pattern -> Bool
  | .symbol _ :: rest, .symbol _ :: others => precedes rest others
  | .segment _ :: rest, .segment _ :: others => precedes rest others
  | .symbol _ :: _, _ => true
  | .segment _ :: _, .remainder _ :: _ => true
  | _, _ => false

/-- Matches a path. A named part may be empty before a slash, but not at the end. -/
def matchPath : Pattern -> List Char -> Option Captures
  | [], [] => some []
  | [], _ :: _ => none
  | .symbol _ :: _, [] => none
  | .symbol symbol :: pattern, next :: rest =>
      if symbol = next then matchPath pattern rest else none
  | .segment name :: pattern, path =>
      if path.isEmpty then none
      else do
        some ((name, path.takeWhile (· != '/')) ::
          (← matchPath pattern (path.dropWhile (· != '/'))))
  | .remainder name :: _, path => if path.isEmpty then none else some [(name, path)]

end Pattern
end GatedResources
