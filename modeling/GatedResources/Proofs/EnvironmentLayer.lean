import GatedResources.Proofs.Outcome
import GatedResources.Proofs.Overlays
import GatedResources.Settings.Environment
import Mathlib.Data.List.Induction

/-!
# The layer of the environment

The last variable that names a path says what stands there, unless a variable makes an object of
it. No variable leaves a null in the tree.
-/

namespace GatedResources
namespace InlineValue

open Json

/-- A value is not null, and an object has the members that have been read. -/
theorem read_value_cases {fuel : Nat} {input rest : List Char} {value : Json}
    (read : readValue fuel input = .ok (value, rest)) :
    value ≠ .null ∧ (value.fields = [] ∨ ∃ members inner fewer after, value = .object members ∧
      readMembers fewer inner = .ok (members, after)) := by
  obtain ⟨fewer, rfl⟩ : ∃ fewer, fuel = fewer + 1 := by
    cases fuel with
    | zero =>
        rw [readValue] at read
        cases read
    | succ fewer => exact ⟨fewer, rfl⟩
  rw [readValue] at read
  split at read
  · obtain ⟨⟨members, after⟩, inner, made⟩ := except_bind_eq_ok.mp read
    cases made
    exact ⟨nofun, .inr ⟨members, _, _, _, rfl, inner⟩⟩
  · obtain ⟨⟨elements, after⟩, inner, made⟩ := except_bind_eq_ok.mp read
    cases made
    exact ⟨nofun, .inl rfl⟩
  · obtain ⟨⟨text, after⟩, inner, made⟩ := except_bind_eq_ok.mp read
    cases made
    exact ⟨nofun, .inl rfl⟩
  · cases read
    exact ⟨nofun, .inl rfl⟩
  · cases read
  · split at read
    · cases read
      exact ⟨nofun, .inl rfl⟩
    · cases read
      exact ⟨nofun, .inl rfl⟩
    · cases read
      unfold bare
      split <;> exact ⟨nofun, .inl rfl⟩

theorem read_members_filled {fuel : Nat} {input rest : List Char}
    {members : List (String × Json)} (read : readMembers fuel input = .ok (members, rest)) :
    Filled members := by
  induction fuel generalizing input rest members with
  | zero =>
      rw [readMembers] at read
      cases read
  | succ fuel claim =>
      rw [readMembers.eq_def] at read
      split at read
      · cases read
      · cases read
        exact fun _ inside => nomatch inside
      · next same _ =>
        cases same
        obtain ⟨⟨key, afterKey⟩, _, valued⟩ := except_bind_eq_ok.mp read
        obtain ⟨⟨value, afterValue⟩, taken, later⟩ := except_bind_eq_ok.mp valued
        have present : value ≠ .null := (read_value_cases taken).1
        dsimp only at later
        split at later
        · obtain ⟨⟨others, afterOthers⟩, inner, made⟩ := except_bind_eq_ok.mp later
          cases made
          exact List.forall_mem_cons.mpr ⟨present, claim inner⟩
        · cases later
          exact List.forall_mem_cons.mpr ⟨present, fun _ inside => nomatch inside⟩
        · cases later

theorem read_value_filled {fuel : Nat} {input rest : List Char} {value : Json}
    (read : readValue fuel input = .ok (value, rest)) : Filled value.fields := by
  rcases (read_value_cases read).2 with scalar | ⟨members, inner, fewer, after, rfl, inside⟩
  · rw [scalar]
    exact fun _ inside => nomatch inside
  · exact read_members_filled inside

theorem parse_cases {text : String} {value : Json} (read : parse text = some value) :
    value = .string text ∨ ∃ fuel input held rest,
      readValue fuel input = .ok (held, rest) ∧ value = held.sorted := by
  unfold parse at read
  dsimp only at read
  split at read
  · next held taken =>
      cases read
      exact .inr ⟨_, _, held, [], taken, rfl⟩
  · cases read
    exact .inl rfl
  · cases read
    exact .inl rfl
  · cases read

/-- What has been read from a line is not null, and neither is a member of it. -/
theorem parse_filled {text : String} {value : Json} (read : parse text = some value) :
    value ≠ .null ∧ Filled value.fields := by
  rcases parse_cases read with rfl | ⟨fuel, input, held, rest, taken, rfl⟩
  · exact ⟨nofun, fun _ inside => nomatch inside⟩
  · have present := (read_value_cases taken).1
    exact ⟨(not_congr sorted_eq_null).mpr present, sorted_filled (read_value_filled taken)⟩

theorem parse_has_ascending_keys {text : String} {value : Json}
    (read : parse text = some value) : value.HasAscendingKeys := by
  rcases parse_cases read with rfl | ⟨fuel, input, held, rest, taken, rfl⟩
  · exact trivial
  · exact sorted_has_ascending_keys held

end InlineValue

namespace Environment

open Json

variable {tree next : Json} {entries : List (String × String)} {entry : String × String}
  {path : List String}

/-- What the last variable that names a path sets there. -/
def given? (entries : List (String × String)) (path : List String) : Option Json :=
  (entries.reverse.find? fun entry => keys? entry.1 == some path).bind fun entry =>
    InlineValue.parse entry.2

theorem given_append (entries : List (String × String)) (entry : String × String)
    (path : List String) : given? (entries ++ [entry]) path =
      if keys? entry.1 = some path then InlineValue.parse entry.2 else given? entries path := by
  unfold given?
  rw [List.reverse_append, List.reverse_singleton, List.singleton_append, List.find?_cons]
  by_cases named : keys? entry.1 = some path
  · simp [named]
  · simp [named, beq_eq_false_iff_ne.mpr named]

theorem settings_append (entries : List (String × String)) (entry : String × String) :
    settings (entries ++ [entry]) = (settings entries).bind fun tree => apply tree entry := by
  unfold settings
  rw [List.foldlM_append]
  simp

theorem apply_eq_some : apply tree entry = some next ↔
    (keys? entry.1 = none ∧ next = tree) ∨ ∃ keys value, keys? entry.1 = some keys ∧
      InlineValue.parse entry.2 = some value ∧ next = tree.overlay (nest keys value) := by
  unfold apply
  cases keys? entry.1 with
  | none => simp [eq_comm]
  | some keys =>
      cases InlineValue.parse entry.2 with
      | none => simp
      | some value => simp [eq_comm]

/-! ## What the variables say of a path -/

def Spares (entries : List (String × String)) (path : List String) : Prop :=
  ∀ entry ∈ entries, ∀ keys, keys? entry.1 = some keys → keys <+: path → keys = path

/-- The tree has something at a path if a variable names it or a path below. Then it is what the
last variable for the path sets, or an object. -/
structure Tells (tree : Json) (entries : List (String × String)) (path : List String) : Prop where
  absent : tree.reach path = none → ∀ entry ∈ entries, ∀ rest, keys? entry.1 ≠ some (path ++ rest)
  present : ∀ value, tree.reach path = some value → Filled value.fields ∧
    ((∃ members, value = .object members) ∨ given? entries path = some value)

theorem Tells.step (tells : Tells tree entries path) (spares : Spares [entry] path)
    (applied : apply tree entry = some next) : Tells next (entries ++ [entry]) path := by
  rcases apply_eq_some.mp applied with ⟨other, rfl⟩ | ⟨keys, value, named, read, rfl⟩
  · refine ⟨?_, ?_⟩
    · intro nothing
      apply List.forall_mem_append.mpr ⟨tells.absent nothing, List.forall_mem_singleton.mpr ?_⟩
      simp [other]
    · intro value found
      rw [given_append, other, if_neg nofun]
      exact tells.present value found
  · have ascending := nest_has_ascending_keys (InlineValue.parse_has_ascending_keys read) keys
    by_cases further : path <+: keys
    · obtain ⟨rest, rfl⟩ := further
      have found := reach_overlay_some ascending (reach_nest path rest value) tree
      obtain ⟨present, filled⟩ := InlineValue.parse_filled read
      have below : Filled ((tree.reach path).getD .null).fields := by
        cases held : tree.reach path with
        | none => exact fun _ inside => nomatch inside
        | some value => exact (tells.present value held).1
      refine ⟨?_, ?_⟩
      · intro nothing
        rw [found] at nothing
        cases nothing
      · intro placed reached
        cases found.symm.trans reached
        refine ⟨overlay_filled below (nest_filled present filled rest).2, ?_⟩
        cases rest with
        | nil =>
            rw [List.append_nil] at named
            rw [given_append, if_pos named, read]
            exact (overlay_object_or _ _).imp_right fun same => congrArg some same.symm
        | cons key others => exact .inl ⟨_, overlay_members _ _⟩
    · have shorter : ¬ keys <+: path := fun before =>
        further ((spares entry List.mem_cons_self keys named before) ▸ List.prefix_refl _)
      obtain ⟨nothing, opened⟩ := nest_apart value further shorter
      have kept : (tree.overlay (nest keys value)).reach path = tree.reach path := by
        rw [reach_overlay_none ascending nothing, opened]
        rfl
      have elsewhere : keys ≠ path := fun same => further (same ▸ List.prefix_refl _)
      refine ⟨?_, ?_⟩
      · intro absent
        rw [kept] at absent
        apply List.forall_mem_append.mpr ⟨tells.absent absent, List.forall_mem_singleton.mpr ?_⟩
        intro rest own
        rw [named, Option.some.injEq] at own
        exact further (own ▸ List.prefix_append path rest)
      · intro held reached
        rw [kept] at reached
        rw [given_append, named, if_neg fun same => elsewhere (Option.some.inj same)]
        exact tells.present held reached

theorem apply_has_ascending_keys (ascending : tree.HasAscendingKeys)
    (applied : apply tree entry = some next) : next.HasAscendingKeys := by
  rcases apply_eq_some.mp applied with ⟨other, rfl⟩ | ⟨keys, value, named, read, rfl⟩
  · exact ascending
  · exact overlay_has_ascending_keys ascending
      (nest_has_ascending_keys (InlineValue.parse_has_ascending_keys read) keys)

theorem settings_have_ascending_keys (made : settings entries = some tree) :
    tree.HasAscendingKeys := by
  induction entries using List.reverseRecOn generalizing tree with
  | nil =>
      cases made
      exact ⟨List.Pairwise.nil, trivial⟩
  | append_singleton entries entry claim =>
      rw [settings_append] at made
      obtain ⟨before, earlier, applied⟩ := Option.bind_eq_some_iff.mp made
      exact apply_has_ascending_keys (claim earlier) applied

theorem tells_nothing (path : List String) : Tells (.object []) [] path := by
  refine ⟨fun _ _ inside => (nomatch inside), ?_⟩
  intro value found
  cases path with
  | nil =>
      cases found
      exact ⟨fun _ inside => (nomatch inside), .inl ⟨[], rfl⟩⟩
  | cons key keys => cases found

/-- What all variables together say of a path that they spare. -/
theorem settings_tell (made : settings entries = some tree) (spares : Spares entries path) :
    Tells tree entries path := by
  induction entries using List.reverseRecOn generalizing tree with
  | nil =>
      cases made
      exact tells_nothing path
  | append_singleton entries entry claim =>
      rw [settings_append] at made
      obtain ⟨before, earlier, applied⟩ := Option.bind_eq_some_iff.mp made
      obtain ⟨others, own⟩ := List.forall_mem_append.mp spares
      exact (claim earlier others).step own applied

/-- A variable that names a path or one below puts something there. -/
theorem Tells.reaches (tells : Tells tree entries path) (inside : entry ∈ entries)
    {rest : List String} (named : keys? entry.1 = some (path ++ rest)) :
    ∃ value, tree.reach path = some value := by
  cases found : tree.reach path with
  | some value => exact ⟨value, rfl⟩
  | none => exact absurd named (tells.absent found entry inside rest)

theorem given_eq_none_of_unnamed (unnamed : ∀ entry ∈ entries, keys? entry.1 ≠ some path) :
    given? entries path = none := by
  have nobody : entries.reverse.find? (fun entry => keys? entry.1 == some path) = none := by
    rw [List.find?_eq_none]
    intro entry inside
    rw [beq_iff_eq]
    exact unnamed entry (List.mem_reverse.mp inside)
  rw [given?, nobody, Option.bind_none]

theorem Tells.given_absent (tells : Tells tree entries path) (nothing : tree.reach path = none) :
    given? entries path = none := by
  apply given_eq_none_of_unnamed
  intro entry inside
  have unnamed := tells.absent nothing entry inside []
  rwa [List.append_nil] at unnamed

/-- Where no variable names a path there is an object if anything. -/
theorem Tells.object (tells : Tells tree entries path)
    (unnamed : ∀ entry ∈ entries, keys? entry.1 ≠ some path) {value : Json}
    (found : tree.reach path = some value) : ∃ members, value = .object members := by
  apply (tells.present value found).2.resolve_right
  rw [given_eq_none_of_unnamed unnamed]
  exact nofun

theorem split_all_ne_nil (mark : Char) (symbols : List Char) : Trim.splitAll mark symbols ≠ [] := by
  cases symbols with
  | nil => exact nofun
  | cons symbol rest =>
      rw [Trim.splitAll]
      split
      · exact nofun
      · split <;> exact nofun

/-- A variable does not name the whole tree. -/
theorem keys_ne_nil (name : String) : keys? name ≠ some [] := by
  unfold keys?
  dsimp only
  split
  · split
    · exact nofun
    · simp [split_all_ne_nil]
  · exact nofun

end Environment
end GatedResources
