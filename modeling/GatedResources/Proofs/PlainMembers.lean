import GatedResources.Proofs.Members
import GatedResources.Proofs.WrittenJson

/-!
# Members with a plain meaning

An object that is written by the grammar has members with names, and those that are no containers
may have a meaning. Of JSON text these are the members of the object that it is. A member stands for
itself only where its name stands once.
-/

namespace GatedResources
namespace Json

variable {value : Type}

def Sole (members : List (String × value)) (name : String) (own : value) : Prop :=
  members.filter (fun entry => entry.1 == name) = [(name, own)]

theorem Sole.lookup_eq_some {members : List (String × value)} {name : String} {own : value}
    (sole : Sole members name own) : members.lookup name = some own := by
  have held : ∀ other, (name, other) ∈ members → other = own := by
    intro other inside
    have kept : (name, other) ∈ members.filter fun entry => entry.1 == name :=
      List.mem_filter.mpr ⟨inside, by simp⟩
    rw [sole] at kept
    simpa using kept
  have inside : (name, own) ∈ members := by
    have kept : (name, own) ∈ members.filter fun entry => entry.1 == name := by
      rw [sole]
      exact List.mem_singleton_self _
    exact (List.mem_filter.mp kept).1
  cases found : members.lookup name with
  | none => exact absurd (List.mem_map_of_mem inside) (lookup_eq_none_iff.mp found)
  | some other => rw [held other (mem_of_lookup found)]

theorem sole_of_lookup {members : List (String × value)} {name : String} {own : value}
    (found : members.lookup name = some own)
    (single : (members.filter fun entry => entry.1 == name).length ≤ 1) :
    Sole members name own := by
  obtain ⟨front, back, rfl, fresh⟩ := List.lookup_eq_some_iff.mp found
  have before : front.filter (fun entry => entry.1 == name) = [] := by
    rw [List.filter_eq_nil_iff]
    intro entry inside same
    have differs := fresh entry inside
    simp [eq_of_beq same] at differs
  have whole : (front ++ (name, own) :: back).filter (fun entry => entry.1 == name) =
      (name, own) :: back.filter fun entry => entry.1 == name := by
    rw [List.filter_append, before, List.nil_append, List.filter_cons_of_pos (by simp)]
  rw [whole, List.length_cons] at single
  have after : back.filter (fun entry => entry.1 == name) = [] :=
    List.eq_nil_of_length_eq_zero (by omega)
  rw [Sole, whole, after]

theorem sole_iff_values {members : List (String × value)} {name : String} {own : value} :
    Sole members name own ↔
      (members.filter fun entry => entry.1 == name).map Prod.snd = [own] := by
  constructor
  · intro sole
    rw [sole]
    rfl
  · intro values
    obtain ⟨⟨held, other⟩, kept, same⟩ := List.map_eq_singleton_iff.mp values
    have member : (held, other) ∈ members.filter fun entry => entry.1 == name := by
      rw [kept]
      exact List.mem_singleton_self _
    have named : held = name := eq_of_beq (List.mem_filter.mp member).2
    cases named
    cases same
    exact kept

theorem Sole.map_values {meaning : Type} {members : List (String × value)} {name : String}
    {own : value} (sole : Sole members name own) (change : value -> meaning) :
    Sole (members.map fun entry => (entry.1, change entry.2)) name (change own) := by
  unfold Sole at sole ⊢
  rw [List.filter_map]
  exact congrArg (List.map fun entry => (entry.1, change entry.2)) sole

theorem sole_of_map_values {meaning : Type} {members : List (String × value)} {name : String}
    {change : value -> meaning} {changed : meaning}
    (sole : Sole (members.map fun entry => (entry.1, change entry.2)) name changed) :
    ∃ own, Sole members name own ∧ change own = changed := by
  unfold Sole at sole
  rw [List.filter_map] at sole
  obtain ⟨⟨held, own⟩, kept, same⟩ := List.map_eq_singleton_iff.mp sole
  cases same
  exact ⟨own, kept, rfl⟩

/-- The members of an object that is written by the grammar alone, where every name is a text, and
what they mean. Containers mean nothing here, and neither does what has no meaning at all. -/
def plainMembers (bytes : List UInt8) : Option (List (String × Option Json)) := do
  let .object written ← outline bytes | none
  let members ← written.mapM fun member => do some (← Outline.text? member.1, member.2)
  some (members.map fun member => (member.1, member.2.value? 0))

theorem plain_members_eq_some {bytes : List UInt8} {claims : List (String × Option Json)} :
    plainMembers bytes = some claims ↔ ∃ written members,
      outline bytes = some (.object written) ∧
      (written.mapM fun member => do some (← Outline.text? member.1, member.2)) =
        some members ∧
      members.map (fun member => (member.1, member.2.value? 0)) = claims := by
  unfold plainMembers
  cases outline bytes with
  | none => simp
  | some outline => cases outline <;> simp [Option.bind_eq_some_iff]

def plain? : Json -> Option Json
  | .array _ => none
  | .object _ => none
  | value => some value

theorem plain_value {depth : Nat} {drawn : Outline} {value : Json}
    (means : drawn.value? depth = some value) : drawn.value? 0 = value.plain? := by
  rw [Outline.value?.eq_def] at means ⊢
  cases drawn with
  | null => exact Option.some.inj means ▸ rfl
  | bool flag => exact Option.some.inj means ▸ rfl
  | number written =>
      obtain ⟨number, valued, same⟩ := Option.map_eq_some_iff.mp means
      cases same
      exact congrArg (Option.map Json.number) valued
  | string written =>
      obtain ⟨text, valued, same⟩ := Option.map_eq_some_iff.mp means
      cases same
      exact congrArg (Option.map Json.string) valued
  | array elements =>
      cases depth with
      | zero => cases means
      | succ depth =>
          obtain ⟨values, _, same⟩ := Option.map_eq_some_iff.mp means
          cases same
          rfl
  | object members =>
      cases depth with
      | zero => cases means
      | succ depth =>
          obtain ⟨values, _, same⟩ := Option.map_eq_some_iff.mp means
          cases same
          rfl

theorem plain_pairs {depth : Nat} {written : List (List Char × Outline)}
    {members : List (String × Json)}
    (mean : written.mapM (Outline.member? depth) = some members) :
    ∃ named, (written.mapM fun member => do some (← Outline.text? member.1, member.2)) =
        some named ∧
      named.map (fun member => (member.1, member.2.value? 0)) =
        members.map fun member => (member.1, member.2.plain?) := by
  induction written generalizing members with
  | nil =>
      cases mean
      exact ⟨[], rfl, rfl⟩
  | cons member others claim =>
      rw [List.mapM_cons] at mean
      obtain ⟨own, first, later⟩ := Option.bind_eq_some_iff.mp mean
      obtain ⟨rest, further, same⟩ := Option.bind_eq_some_iff.mp later
      cases same
      obtain ⟨key, text, valued⟩ := Option.bind_eq_some_iff.mp first
      obtain ⟨value, means, same⟩ := Option.bind_eq_some_iff.mp valued
      cases same
      obtain ⟨named, all, plain⟩ := claim further
      refine ⟨(key, member.2) :: named, ?_, ?_⟩
      · rw [List.mapM_cons, text, all]
        rfl
      · rw [List.map_cons, List.map_cons, plain, plain_value means]

/-- The plain members of JSON text are the members of the object that it is. -/
theorem plain_members_of_text {bytes : List UInt8} {symbols : List Char}
    {members : List (String × Json)} (text : Utf8.decode bytes = some symbols)
    (parsed : parseInOrder (String.ofList symbols) = some (.object members)) :
    plainMembers bytes = some (members.map fun member => (member.1, member.2.plain?)) := by
  obtain ⟨drawn, outlined, means⟩ := outline_of_text text parsed
  rw [greatestDepth, Outline.value?.eq_def] at means
  cases drawn with
  | object written =>
      obtain ⟨held, mean, same⟩ := Option.map_eq_some_iff.mp means
      cases same
      obtain ⟨named, all, plain⟩ := plain_pairs mean
      exact plain_members_eq_some.mpr ⟨written, named, outlined, all, plain⟩
  | null => cases means
  | bool flag => cases means
  | number written =>
      obtain ⟨_, _, impossible⟩ := Option.map_eq_some_iff.mp means
      cases impossible
  | string written =>
      obtain ⟨_, _, impossible⟩ := Option.map_eq_some_iff.mp means
      cases impossible
  | array elements =>
      obtain ⟨_, _, impossible⟩ := Option.map_eq_some_iff.mp means
      cases impossible

end Json
end GatedResources
