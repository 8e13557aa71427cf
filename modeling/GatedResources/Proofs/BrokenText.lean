import GatedResources.Proofs.InlineGrammar

/-!
# Text that breaks the reader of values

Quoted text that cannot be cut crashes the reader where a value or a key begins, and nothing else
does.
-/

namespace GatedResources
namespace InlineValue

variable {before after own symbols input rest later content : List Char} {fuel : Nat}

/-! ## Text that breaks the reader -/

inductive ElementsBefore : List Char -> Prop
  | none : ElementsBefore []
  | one {element : Json} {own later : List Char} (told : Says element own)
      (more : ElementsBefore later) : ElementsBefore (own ++ ',' :: later)

inductive MembersBefore : List Char -> Prop
  | none : MembersBefore []
  | one {key : String} {value : Json} {name own later : List Char} (named : SaysKey key name)
      (told : Says value own) (more : MembersBefore later) :
      MembersBefore (name ++ '=' :: (own ++ ',' :: later))

def BreaksOff (input : List Char) : Prop :=
  ∃ before content after, IsGap before ∧ IsContent content ∧
    quotedText content = .error .cutCharacter ∧ input = before ++ '"' :: (content ++ '"' :: after)

/-- Quoted text that cannot be cut stands where a value or a key begins, and what stands before it
is in order. -/
inductive Breaks : List Char -> Prop
  | here {input : List Char} (off : BreaksOff input) : Breaks input
  | element {before inner later : List Char} (gap : IsGap before) (earlier : ElementsBefore inner)
      (breaks : Breaks later) : Breaks (before ++ '[' :: (inner ++ later))
  | key {before inner later : List Char} (gap : IsGap before) (earlier : MembersBefore inner)
      (off : BreaksOff later) : Breaks (before ++ '\x7b' :: (inner ++ later))
  | member {key : String} {before inner name later : List Char} (gap : IsGap before)
      (earlier : MembersBefore inner) (named : SaysKey key name) (breaks : Breaks later) :
      Breaks (before ++ '\x7b' :: (inner ++ (name ++ '=' :: later)))

theorem BreaksOff.read (off : BreaksOff input) :
    readValue (fuel + 1) input = .error .cutCharacter := by
  obtain ⟨before, content, after, gap, closed, cut, rfl⟩ := off
  rw [read_quotes gap, read_content closed, cut]
  rfl

theorem BreaksOff.read_key (off : BreaksOff input) : readKey input = .error .cutCharacter := by
  obtain ⟨before, content, after, gap, closed, cut, rfl⟩ := off
  rw [read_key_parts, skip_gap gap, skip_solid (by decide)]
  change readQuoted _ >>= readEquals = _
  rw [read_content closed, cut]
  rfl

/-- Neither a list nor a mapping ends where the reader breaks. -/
theorem breaks_unclosed (breaks : Breaks input) {closing : Char}
    (closes : closing = ']' ∨ closing = '\x7d') (later : List Char) :
    input ≠ closing :: later := by
  have starts : ∃ before mark rest, IsGap before ∧ mark ∈ ['"', '[', '\x7b'] ∧
      input = before ++ mark :: rest := by
    cases breaks with
    | here off =>
        obtain ⟨before, content, after, gap, -, -, rfl⟩ := off
        exact ⟨before, '"', _, gap, by simp, rfl⟩
    | @element before inner later gap => exact ⟨before, '[', _, gap, by simp, rfl⟩
    | @key before inner later gap => exact ⟨before, '\x7b', _, gap, by simp, rfl⟩
    | @member key before inner name later gap => exact ⟨before, '\x7b', _, gap, by simp, rfl⟩
  obtain ⟨before, mark, rest, gap, known, rfl⟩ := starts
  intro begins
  cases before with
  | nil =>
      have different : ∀ mark ∈ ['"', '[', '\x7b'], mark ≠ closing := by
        rcases closes with rfl | rfl <;> simp
      exact different mark known (List.cons.inj begins).1
  | cons blank others =>
      have own := gap blank List.mem_cons_self
      rw [(List.cons.inj begins).1] at own
      rcases closes with rfl | rfl <;> exact absurd own (by decide)

/-- A failure behind elements is the failure of their list. -/
theorem read_behind_elements {failure : Failure} (earlier : ElementsBefore symbols)
    (fails : ∀ fuel, 2 * later.length + 2 ≤ fuel → readElements fuel later = .error failure) :
    ∀ fuel, 2 * (symbols ++ later).length + 2 ≤ fuel →
      readElements fuel (symbols ++ later) = .error failure := by
  induction earlier with
  | none => exact fails
  | @one element own inner told more claim =>
      intro fuel enough
      cases fuel with
      | zero => omega
      | succ fuel =>
          simp only [List.length_append, List.length_cons] at enough
          have unclosed : ∀ left, own ++ ',' :: (inner ++ later) ≠ ']' :: left :=
            said_append_unclosed told (.inl rfl) nofun
          have further := claim fuel (by rw [List.length_append]; omega)
          rw [List.append_assoc, List.cons_append, read_elements_step unclosed,
            read_said element own fuel (',' :: (inner ++ later)) told (.inl rfl) (by omega)]
          change readElements fuel (inner ++ later) >>= _ = _
          rw [further]
          rfl

theorem read_behind_members {failure : Failure} (earlier : MembersBefore symbols)
    (fails : ∀ fuel, 2 * later.length + 2 ≤ fuel → readMembers fuel later = .error failure) :
    ∀ fuel, 2 * (symbols ++ later).length + 2 ≤ fuel →
      readMembers fuel (symbols ++ later) = .error failure := by
  induction earlier with
  | none => exact fails
  | @one key value name own inner named told more claim =>
      intro fuel enough
      cases fuel with
      | zero => omega
      | succ fuel =>
          simp only [List.length_append, List.length_cons] at enough
          have further := claim fuel (by rw [List.length_append]; omega)
          have written : name ++ '=' :: (own ++ ',' :: inner) ++ later =
              name ++ '=' :: (own ++ ',' :: (inner ++ later)) := by simp
          rw [written, read_members_step (said_key_unclosed named _), read_key_said named]
          change readValue fuel (own ++ ',' :: (inner ++ later)) >>= _ = _
          rw [read_said value own fuel (',' :: (inner ++ later)) told (.inl rfl) (by omega)]
          change readMembers fuel (inner ++ later) >>= _ = _
          rw [further]
          rfl

theorem list_fails {failure : Failure} (gap : IsGap before) (earlier : ElementsBefore symbols)
    (fails : ∀ fuel, 2 * later.length + 2 ≤ fuel → readElements fuel later = .error failure)
    (enough : 2 * (before ++ '[' :: (symbols ++ later)).length + 1 ≤ fuel) :
    readValue fuel (before ++ '[' :: (symbols ++ later)) = .error failure := by
  cases fuel with
  | zero => omega
  | succ fuel =>
      rw [List.length_append, List.length_cons] at enough
      rw [read_list gap, read_behind_elements earlier fails fuel (by omega)]
      rfl

theorem mapping_fails {failure : Failure} (gap : IsGap before) (earlier : MembersBefore symbols)
    (fails : ∀ fuel, 2 * later.length + 2 ≤ fuel → readMembers fuel later = .error failure)
    (enough : 2 * (before ++ '\x7b' :: (symbols ++ later)).length + 1 ≤ fuel) :
    readValue fuel (before ++ '\x7b' :: (symbols ++ later)) = .error failure := by
  cases fuel with
  | zero => omega
  | succ fuel =>
      rw [List.length_append, List.length_cons] at enough
      rw [read_mapping gap, read_behind_members earlier fails fuel (by omega)]
      rfl

/-- The reader crashes over text that breaks it. -/
theorem cut_of_breaks (breaks : Breaks input) :
    ∀ fuel, 2 * input.length + 1 ≤ fuel → readValue fuel input = .error .cutCharacter := by
  induction breaks with
  | here off =>
      intro fuel enough
      cases fuel with
      | zero => omega
      | succ fuel => exact off.read
  | @element before inner later gap earlier breaks claim =>
      refine fun fuel => list_fails gap earlier ?_
      intro fuel enough
      cases fuel with
      | zero => omega
      | succ fuel =>
          rw [read_elements_step (breaks_unclosed breaks (.inl rfl)), claim fuel (by omega)]
          rfl
  | @key before inner later gap earlier off =>
      refine fun fuel => mapping_fails gap earlier ?_
      intro fuel enough
      cases fuel with
      | zero => omega
      | succ fuel =>
          rw [read_members_step (breaks_unclosed (.here off) (.inr rfl)), off.read_key]
          rfl
  | @member key before inner name later gap earlier named breaks claim =>
      refine fun fuel => mapping_fails gap earlier ?_
      intro fuel enough
      cases fuel with
      | zero => omega
      | succ fuel =>
          rw [List.length_append, List.length_cons] at enough
          rw [read_members_step (said_key_unclosed named _), read_key_said named]
          change readValue fuel later >>= _ = _
          rw [claim fuel (by omega)]
          rfl

/-- Where the reader crashes there is quoted text that cannot be cut, one bound on its steps at a
time. -/
def ValuesBreak (fuel : Nat) : Prop :=
  ∀ {input : List Char}, readValue fuel input = .error .cutCharacter → Breaks input

def ElementsBreak (fuel : Nat) : Prop :=
  ∀ {input : List Char}, readElements fuel input = .error .cutCharacter →
    ∃ inner later, ElementsBefore inner ∧ Breaks later ∧ input = inner ++ later

def MembersBreak (fuel : Nat) : Prop :=
  ∀ {input : List Char}, readMembers fuel input = .error .cutCharacter →
    ∃ inner later, MembersBefore inner ∧ input = inner ++ later ∧
      (BreaksOff later ∨
        ∃ key name rest, SaysKey key name ∧ Breaks rest ∧ later = name ++ '=' :: rest)

theorem off_of_quotes (gap : IsGap before) (cut : readQuoted later = .error .cutCharacter) :
    BreaksOff (before ++ '"' :: later) := by
  obtain ⟨content, after, closed, rfl, means⟩ := content_of_read cut nofun
  refine ⟨before, content, after, gap, closed, ?_, rfl⟩
  cases found : quotedText content with
  | ok symbols =>
      rw [found] at means
      cases means
  | error failure =>
      rw [found] at means
      cases means
      rfl

theorem off_of_key (cut : readKey input = .error .cutCharacter) : BreaksOff input := by
  obtain ⟨before, leading, whole⟩ := gap_before input
  rw [read_key_parts] at cut
  rcases except_bind_eq_error.mp cut with unnamed | ⟨read, -, ended⟩
  · unfold readName at unnamed
    split at unnamed
    · next later begins =>
        rw [whole, begins]
        exact off_of_quotes leading unnamed
    · split at unnamed <;> cases unnamed
  · exact absurd ended (equals_not_cut read)

theorem values_break (elements : ElementsBreak fuel) (members : MembersBreak fuel) :
    ValuesBreak (fuel + 1) := by
  intro input cut
  cases input_meets fuel input with
  | quotes gap =>
      rw [read_quotes gap] at cut
      rcases except_bind_eq_error.mp cut with own | ⟨read, -, impossible⟩
      · exact .here (off_of_quotes gap own)
      · cases impossible
  | list gap =>
      rw [read_list gap] at cut
      rcases except_bind_eq_error.mp cut with own | ⟨read, -, impossible⟩
      · obtain ⟨inner, later, earlier, breaks, rfl⟩ := elements own
        exact .element gap earlier breaks
      · cases impossible
  | mapping gap =>
      rw [read_mapping gap] at cut
      rcases except_bind_eq_error.mp cut with own | ⟨read, -, impossible⟩
      · obtain ⟨inner, later, earlier, rfl, off | ⟨key, name, rest, named, breaks, rfl⟩⟩ :=
          members own
        · exact .key gap earlier off
        · exact .member gap earlier named breaks
      · cases impossible
  | apostrophes gap symbol =>
      rw [read_apostrophes gap] at cut
      cases cut
  | flag gap value =>
      rw [read_flag gap] at cut
      cases cut
  | bare plain read =>
      rw [read] at cut
      cases cut
  | malformed read =>
      rw [read] at cut
      cases cut

theorem elements_break (values : ValuesBreak fuel) (elements : ElementsBreak fuel) :
    ElementsBreak (fuel + 1) := by
  intro input cut
  by_cases closed : ∃ later, input = ']' :: later
  · obtain ⟨later, rfl⟩ := closed
    cases cut
  · rw [read_elements_step fun later same => closed ⟨later, same⟩] at cut
    rcases except_bind_eq_error.mp cut with own | ⟨⟨element, left⟩, taken, further⟩
    · exact ⟨[], input, .none, values own, rfl⟩
    · obtain ⟨own, told, rfl⟩ := (said_of_read fuel).1 taken
      unfold readFurther at further
      split at further
      · next rest comma =>
          rcases except_bind_eq_error.mp further with others | ⟨read, -, impossible⟩
          · obtain ⟨inner, later, earlier, breaks, rfl⟩ := elements others
            dsimp only at comma
            subst comma
            exact ⟨own ++ ',' :: inner, later, .one told earlier, breaks, by simp⟩
          · cases impossible
      · cases further
      · cases further

theorem members_break (values : ValuesBreak fuel) (members : MembersBreak fuel) :
    MembersBreak (fuel + 1) := by
  intro input cut
  by_cases closed : ∃ later, input = '\x7d' :: later
  · obtain ⟨later, rfl⟩ := closed
    cases cut
  · rw [read_members_step fun later same => closed ⟨later, same⟩] at cut
    rcases except_bind_eq_error.mp cut with ownKey | ⟨⟨key, behindKey⟩, keyTaken, valued⟩
    · exact ⟨[], input, .none, rfl, .inl (off_of_key ownKey)⟩
    · obtain ⟨name, named, rfl⟩ := key_of_read keyTaken
      rcases except_bind_eq_error.mp valued with own | ⟨⟨value, left⟩, taken, further⟩
      · exact ⟨[], _, .none, rfl, .inr ⟨key, name, behindKey, named, values own, rfl⟩⟩
      · obtain ⟨own, told, rfl⟩ := (said_of_read fuel).1 taken
        unfold readOthers at further
        split at further
        · next rest comma =>
            rcases except_bind_eq_error.mp further with others | ⟨read, -, impossible⟩
            · obtain ⟨inner, later, earlier, rfl, broken⟩ := members others
              dsimp only at comma
              subst comma
              exact ⟨name ++ '=' :: (own ++ ',' :: inner), later, .one named told earlier,
                by simp, broken⟩
            · cases impossible
        · cases further
        · cases further

theorem breaks_at (fuel : Nat) : ValuesBreak fuel ∧ ElementsBreak fuel ∧ MembersBreak fuel := by
  induction fuel with
  | zero =>
      refine ⟨?_, ?_, ?_⟩ <;> intro _ cut
      · rw [readValue] at cut
        cases cut
      · rw [readElements] at cut
        cases cut
      · rw [readMembers] at cut
        cases cut
  | succ fuel claim =>
      obtain ⟨values, elements, members⟩ := claim
      exact ⟨values_break elements members, elements_break values elements,
        members_break values members⟩

end InlineValue
end GatedResources
