import GatedResources.Proofs.LiteralNames
import GatedResources.Proofs.RestRoutes

/-!
# Paths below paths

The path of a record stands one level below the path of its collection, whatever the name of the
resource is: no path fits the patterns of both.
-/

namespace GatedResources
namespace Pattern

/-- A name is read the same way where a slash and more follow. -/
theorem read_name_append {held symbols name left : List Char}
    (read : readName held symbols = some (name, left)) (more : List Char) :
    readName held (symbols ++ '/' :: more) = some (name, left ++ '/' :: more) := by
  fun_induction readName held symbols with
  | case1 held => cases read
  | case2 held rest claim => exact claim read
  | case3 held rest single =>
      obtain ⟨named, same⟩ := Prod.mk.inj (Option.some.inj read)
      subst same
      cases rest with
      | nil => rw [← named]; rfl
      | cons next rest =>
          have other : next ≠ '\x7d' := fun closing => single rest (closing ▸ rfl)
          simp [readName, other, named]
  | case4 held symbol rest _ _ refused => cases read
  | case5 held symbol rest _ other accepted claim =>
      have later := claim read
      rw [List.cons_append, readName, if_neg accepted, later]
      · intro tail closing
        exact fun _ => other closing
      · exact other

inductive Named (more : Nat) (rest : List Char) : Pattern -> Prop where
  | remainder {name : List Char} (read : readName [] rest = some ('*' :: name, [])) :
      Named more rest [.remainder name]
  | last {name : List Char} (read : readName [] rest = some (name, [])) (filled : name ≠ [])
      (plain : name.head? ≠ some '*') : Named more rest [.segment name]
  | segment {name left : List Char} {others : Pattern}
      (read : readName [] rest = some (name, '/' :: left)) (filled : name ≠ [])
      (plain : name.head? ≠ some '*') (later : readPieces more ('/' :: left) = some others) :
      Named more rest (.segment name :: others)

theorem read_named {more : Nat} {rest : List Char} {pattern : Pattern}
    (single : ∀ tail, rest ≠ '\x7b' :: tail)
    (read : readPieces (more + 1) ('\x7b' :: rest) = some pattern) : Named more rest pattern := by
  rw [readPieces] at read
  · split at read
    · cases read
    · cases read
    · next name left named =>
        split at read
        · cases read
        · next accepted =>
            cases read
            have nothing : left = [] := by
              cases left with
              | nil => rfl
              | cons symbol left => simp at accepted
            rw [nothing] at named
            exact .remainder named
    · next name left unfilled starred named =>
        have plain : name.head? ≠ some '*' := by
          intro star
          obtain ⟨tail, same⟩ := List.head?_eq_some_iff.mp star
          exact starred tail same
        split at read
        · cases read
          exact .last named unfilled plain
        · next rest _ =>
            obtain ⟨others, later, same⟩ := Option.bind_eq_some_iff.mp read
            cases same
            exact .segment named unfilled plain later
        · cases read
  · exact single

theorem Named.nonempty {more : Nat} {rest : List Char} {pattern : Pattern}
    (named : Named more rest pattern) : rest ≠ [] := by
  intro empty
  subst empty
  cases named with
  | remainder read | last read _ _ | segment read _ _ _ => cases read

/-- Before a slash, a part with a name is a segment, and reading goes on behind the name. -/
theorem Named.before_slash {fuel : Nat} {rest tail name left : List Char} {whole : Pattern}
    (taken : readName [] rest = some (name, left))
    (longer : Named fuel (rest ++ '/' :: tail) whole) :
    ∃ others, whole = .segment name :: others ∧ name.head? ≠ some '*' ∧
      readPieces fuel (left ++ '/' :: tail) = some others := by
  have named := read_name_append taken tail
  cases longer with
  | remainder again | last again _ _ =>
      rw [named] at again
      simp at again
  | @segment own after others again _ plain later =>
      rw [named] at again
      obtain ⟨rfl, behind⟩ := Prod.mk.inj (Option.some.inj again)
      rw [behind]
      exact ⟨others, rfl, plain, later⟩

/-- A named part that a slash may follow is a segment, with its name and all before the slash. -/
theorem Named.append {more fuel : Nat} {rest tail : List Char} {pattern whole : Pattern}
    (own : Named more rest pattern) (longer : Named fuel (rest ++ '/' :: tail) whole) :
    ∃ name others longerOthers, pattern = .segment name :: others ∧
      whole = .segment name :: longerOthers ∧
      ((others = [] ∧ readPieces fuel ('/' :: tail) = some longerOthers) ∨
        ∃ left, readPieces more ('/' :: left) = some others ∧
          readPieces fuel ('/' :: left ++ '/' :: tail) = some longerOthers) := by
  cases own with
  | remainder taken =>
      -- What takes all that is left cannot stand before a slash.
      obtain ⟨_, _, plain, _⟩ := longer.before_slash taken
      exact absurd rfl plain
  | @last name taken _ _ =>
      obtain ⟨longerOthers, same, _, later⟩ := longer.before_slash taken
      exact ⟨name, [], longerOthers, rfl, same, .inl ⟨rfl, later⟩⟩
  | @segment name left others taken _ _ later =>
      obtain ⟨longerOthers, same, _, laterLonger⟩ := longer.before_slash taken
      exact ⟨name, others, longerOthers, rfl, same, .inr ⟨left, later, laterLonger⟩⟩

theorem read_slash {fuel : Nat} {tail : List Char} {pattern : Pattern}
    (read : readPieces fuel ('/' :: tail) = some pattern) :
    ∃ left others, readPieces left tail = some others ∧ pattern = .symbol '/' :: others := by
  cases fuel with
  | zero => cases read
  | succ fuel =>
      have slash : Writes ['/'] '/' := writes_itself (by decide) (by decide)
      have written := slash.2 fuel tail
      rw [List.singleton_append, read] at written
      obtain ⟨others, later, same⟩ := Option.map_eq_some_iff.mp written.symm
      exact ⟨fuel, others, later, same.symm⟩

/-- A text that is a pattern, and still one before a slash and more, has no part that takes all
that is left; the longer pattern goes on where the shorter one ends. -/
theorem read_pieces_append {more : Nat} {symbols tail : List Char} {pattern : Pattern}
    (read : readPieces more symbols = some pattern) {fuel : Nat} {whole : Pattern}
    (longer : readPieces fuel (symbols ++ '/' :: tail) = some whole) :
    (∀ name, .remainder name ∉ pattern) ∧
      ∃ left others, readPieces left tail = some others ∧
        whole = pattern ++ .symbol '/' :: others := by
  induction pattern generalizing more symbols fuel whole with
  | nil =>
      rcases read_pieces_cases read with ⟨empty, -⟩ | ⟨_, _, _, _, _, _, _, impossible, _⟩ |
        ⟨_, _, impossible, _⟩
      · subst empty
        exact ⟨by simp, read_slash longer⟩
      · cases impossible
      · cases impossible
  | cons piece pattern claim =>
      rcases read_pieces_cases read with ⟨_, impossible⟩ | written | ⟨_, _, same, _, named⟩
      · cases impossible
      · obtain ⟨symbol, taken, rest, before, others, parts, writes, same, later⟩ := written
        cases same
        subst parts
        cases fuel with
        | zero => cases longer
        | succ fuel =>
            rw [List.append_assoc, writes.2] at longer
            obtain ⟨left, longer, same⟩ := Option.map_eq_some_iff.mp longer
            obtain ⟨bounded, further, others, inner, parts⟩ := claim later longer
            refine ⟨?_, further, others, inner, ?_⟩
            · simpa using bounded
            · rw [← same, parts]
              rfl
      · obtain ⟨rest, parts, single⟩ := named
        subst parts
        cases more with
        | zero => cases read
        | succ more =>
        cases fuel with
        | zero => cases longer
        | succ fuel =>
            have own := read_named single read
            have filled := own.nonempty
            have singleLonger : ∀ more, rest ++ '/' :: tail ≠ '\x7b' :: more := by
              intro more brace
              cases rest with
              | nil => exact filled rfl
              | cons symbol rest => exact single rest (by rw [(List.cons.inj brace).1])
            obtain ⟨name, others, longerOthers, parts, longerParts, ends | goesOn⟩ :=
              own.append (read_named singleLonger longer)
            · obtain ⟨nothing, later⟩ := ends
              obtain ⟨further, inner, readInner, same⟩ := read_slash later
              rw [parts, nothing, longerParts, same]
              exact ⟨by simp, further, inner, readInner, rfl⟩
            · obtain ⟨left, later, laterLonger⟩ := goesOn
              obtain ⟨rfl, rfl⟩ := List.cons.inj parts
              obtain ⟨bounded, further, inner, readInner, same⟩ := claim later laterLonger
              rw [longerParts, same]
              refine ⟨?_, further, inner, readInner, rfl⟩
              simpa using bounded

/-- A path has the slashes of a pattern that it fits, unless a part takes all that is left. -/
theorem match_path_slashes {pattern : Pattern} (bounded : ∀ name, .remainder name ∉ pattern)
    {path : List Char} {captures : Captures} (fits : matchPath pattern path = some captures) :
    path.count '/' = List.count (.symbol '/') pattern := by
  induction pattern generalizing path captures with
  | nil =>
      cases path with
      | nil => rfl
      | cons next rest => cases fits
  | cons piece pattern claim =>
      have inner : ∀ name, .remainder name ∉ pattern :=
        fun name inside => bounded name (List.mem_cons_of_mem _ inside)
      cases piece with
      | symbol symbol =>
          cases path with
          | nil => cases fits
          | cons next rest =>
              rw [matchPath, Option.ite_none_right_eq_some] at fits
              obtain ⟨same, fits⟩ := fits
              subst same
              have later := claim inner fits
              by_cases slash : symbol = '/'
              · subst slash
                rw [List.count_cons_self, List.count_cons_self, later]
              · rw [List.count_cons_of_ne slash, List.count_cons_of_ne (by simpa using slash),
                  later]
      | segment name =>
          rw [matchPath] at fits
          split at fits
          · cases fits
          · obtain ⟨captures, fits, -⟩ := Option.bind_eq_some_iff.mp fits
            have later := claim inner fits
            have without : (path.takeWhile (· != '/')).count '/' = 0 := by
              apply List.count_eq_zero.mpr
              intro inside
              have other := List.all_eq_true.mp List.all_takeWhile '/' inside
              simp at other
            have parts : (path.takeWhile (· != '/') ++ path.dropWhile (· != '/')).count '/' =
                path.count '/' := by rw [List.takeWhile_append_dropWhile]
            rw [List.count_append, without, Nat.zero_add, later] at parts
            rw [← parts, List.count_cons_of_ne (by simp)]
      | remainder name => exact absurd List.mem_cons_self (bounded name)

/-- A longer pattern stands beside a shorter one that it continues. -/
theorem conflicts_append {pattern : Pattern} (bounded : ∀ name, .remainder name ∉ pattern)
    (piece : PatternPiece) (others : Pattern) :
    conflicts pattern (pattern ++ piece :: others) = false := by
  induction pattern with
  | nil => rfl
  | cons first pattern claim =>
      have later := claim fun name inside => bounded name (List.mem_cons_of_mem _ inside)
      cases first with
      | symbol symbol => simpa [conflicts] using later
      | segment name => simpa [conflicts] using later
      | remainder name => exact absurd List.mem_cons_self (bounded name)

end Pattern

namespace Rest

/-- The pattern of a record's path is that of the collection with one segment more. -/
theorem item_pattern {name : String} {collection item : Pattern}
    (read : Pattern.parse (collectionPath name) = some collection)
    (readItem : Pattern.parse (itemPath name) = some item) :
    (∀ name, .remainder name ∉ collection) ∧
      item = collection ++ [.symbol '/', .segment ['i', 'd']] := by
  have text : (itemPath name).toList =
      (collectionPath name).toList ++ '/' :: ['\x7b', 'i', 'd', '\x7d'] := by
    simp [itemPath, collectionPath]
  have pieces := Pattern.parse_eq_some readItem
  rw [text] at pieces
  obtain ⟨bounded, more, tail, readTail, parts⟩ :=
    Pattern.read_pieces_append (Pattern.parse_eq_some read) pieces
  have last : tail = [.segment ['i', 'd']] := by
    cases more with
    | zero => cases readTail
    | succ more => exact (Option.some.inj readTail).symm
  rw [parts, last]
  exact ⟨bounded, rfl⟩

/-- No path is both that of a collection and that of one of its records. -/
theorem collection_apart_from_items {name : String} {collection item : Pattern}
    (read : Pattern.parse (collectionPath name) = some collection)
    (readItem : Pattern.parse (itemPath name) = some item) {path : List Char}
    {captures : Captures} (fits : Pattern.matchPath collection path = some captures) :
    Pattern.matchPath item path = none := by
  obtain ⟨bounded, parts⟩ := item_pattern read readItem
  cases fitsItem : Pattern.matchPath item path with
  | none => rfl
  | some taken =>
      have boundedItem : ∀ name, .remainder name ∉ item := by
        intro name inside
        rw [parts] at inside
        simp [bounded] at inside
      have slashes := Pattern.match_path_slashes bounded fits
      have further := Pattern.match_path_slashes boundedItem fitsItem
      rw [parts, List.count_append, slashes, List.count_cons_self] at further
      omega

end Rest
end GatedResources
