import GatedResources.Json.Outline

/-!
# How bytes spell text

A plain character is spelled by the byte of its number, and every other one by bytes that are no
plain characters. So whoever looks for plain characters finds the same in a text and in its bytes.
-/

namespace GatedResources
namespace Utf8

/-- Bytes that spell a character beyond the plain ones, whatever follows them. -/
structure IsWide (own : List UInt8) (symbol : Char) : Prop where
  beyond : 128 ≤ symbol.toNat
  high : ∀ byte ∈ own, 128 ≤ byte.toNat
  filled : own ≠ []
  decoded : ∀ more, decode (own ++ more) = (decode more).map (List.cons symbol)

theorem decode_nil : decode [] = some [] := by
  unfold decode
  rw [pieces]
  rfl

theorem decode_cons (lead : UInt8) (rest : List UInt8) :
    decode (lead :: rest) = (decodeAt lead rest).1.bind fun symbol =>
      (decode (rest.drop (decodeAt lead rest).2)).map (List.cons symbol) := by
  unfold decode
  rw [pieces, List.mapM_cons]
  cases (decodeAt lead rest).1 with
  | none => rfl
  | some symbol => cases (pieces (rest.drop (decodeAt lead rest).2)).mapM id <;> rfl

theorem char_of_number {number : Nat} (valid : number.isValidChar) :
    (Char.ofNat number).toNat = number := by
  unfold Char.ofNat
  rw [dif_pos valid]
  rfl

theorem continuation_bounds {byte : UInt8} (continues : isContinuation byte = true) :
    128 ≤ byte.toNat ∧ byte.toNat < 192 := by
  simpa [isContinuation] using continues

theorem may_second_bounds {lead second : UInt8} (follows : maySecond lead second = true) :
    128 ≤ second.toNat ∧ second.toNat < 192 ∧ (lead.toNat = 0xE0 → 0xA0 ≤ second.toNat) ∧
      (lead.toNat = 0xED → second.toNat < 0xA0) ∧ (lead.toNat = 0xF0 → 0x90 ≤ second.toNat) ∧
      (lead.toNat = 0xF4 → second.toNat < 0x90) := by
  unfold maySecond at follows
  dsimp only at follows
  generalize lead.toNat = number at follows ⊢
  split at follows
  case h_5 notFirst notSecond notThird notFourth =>
      obtain ⟨low, high⟩ := continuation_bounds follows
      exact ⟨low, high, fun same => absurd same notFirst, fun same => absurd same notSecond,
        fun same => absurd same notThird, fun same => absurd same notFourth⟩
  all_goals
    simp only [Bool.and_eq_true, decide_eq_true_eq] at follows
    omega

theorem width_bounds (lead : UInt8) :
    (width lead = 1 → lead.toNat < 128) ∧
      (width lead = 2 → 0xC2 ≤ lead.toNat ∧ lead.toNat < 0xE0) ∧
      (width lead = 3 → 0xE0 ≤ lead.toNat ∧ lead.toNat < 0xF0) ∧
      (width lead = 4 → 0xF0 ≤ lead.toNat ∧ lead.toNat < 0xF5) := by
  unfold width
  dsimp only
  repeat' split
  all_goals omega

theorem wide_two {lead second : UInt8} (two : width lead = 2)
    (follows : maySecond lead second = true) :
    IsWide [lead, second] (Char.ofNat (lead.toNat % 32 * 64 + payload second)) := by
  have leads := (width_bounds lead).2.1 two
  have bounds := may_second_bounds follows
  refine ⟨?_, ?_, List.cons_ne_nil _ _, ?_⟩
  · have valid : (lead.toNat % 32 * 64 + payload second).isValidChar := by
      unfold payload Nat.isValidChar
      omega
    rw [char_of_number valid]
    omega
  · simp
    omega
  · intro more
    simp [decode_cons, decodeAt, two, follows]

theorem wide_three {lead second third : UInt8} (three : width lead = 3)
    (follows : maySecond lead second = true) (ends : isContinuation third = true) :
    IsWide [lead, second, third]
      (Char.ofNat ((lead.toNat % 16 * 64 + payload second) * 64 + payload third)) := by
  have leads := (width_bounds lead).2.2.1 three
  have bounds := may_second_bounds follows
  have last := continuation_bounds ends
  refine ⟨?_, ?_, List.cons_ne_nil _ _, ?_⟩
  · have valid : ((lead.toNat % 16 * 64 + payload second) * 64 + payload third).isValidChar := by
      unfold payload Nat.isValidChar
      omega
    rw [char_of_number valid]
    unfold payload
    omega
  · simp
    omega
  · intro more
    simp [decode_cons, decodeAt, three, follows, ends]

theorem wide_four {lead second third fourth : UInt8} (four : width lead = 4)
    (follows : maySecond lead second = true) (continues : isContinuation third = true)
    (ends : isContinuation fourth = true) :
    IsWide [lead, second, third, fourth] (Char.ofNat
      (((lead.toNat % 8 * 64 + payload second) * 64 + payload third) * 64 + payload fourth)) := by
  have leads := (width_bounds lead).2.2.2 four
  have bounds := may_second_bounds follows
  have later := continuation_bounds continues
  have last := continuation_bounds ends
  refine ⟨?_, ?_, List.cons_ne_nil _ _, ?_⟩
  · have valid : (((lead.toNat % 8 * 64 + payload second) * 64 + payload third) * 64 +
        payload fourth).isValidChar := by
      unfold payload Nat.isValidChar
      omega
    rw [char_of_number valid]
    unfold payload
    omega
  · simp
    omega
  · intro more
    simp [decode_cons, decodeAt, four, follows, continues, ends]

/-- The first character of decoded text and the bytes that spell it. -/
theorem decode_at_some {lead : UInt8} {rest : List UInt8} {symbol : Char}
    (decoded : (decodeAt lead rest).1 = some symbol) :
    (lead.toNat < 128 ∧ symbol = Char.ofNat lead.toNat ∧ (decodeAt lead rest).2 = 0) ∨
      ∃ own, rest = own ++ rest.drop (decodeAt lead rest).2 ∧ IsWide (lead :: own) symbol := by
  unfold decodeAt at decoded ⊢
  split at decoded
  case h_1 one => exact .inl ⟨(width_bounds lead).1 one, (Option.some.inj decoded).symm, rfl⟩
  case h_2 second more two =>
    split at decoded
    case isFalse => cases decoded
    case isTrue follows =>
    cases decoded
    rw [if_pos follows]
    exact .inr ⟨[second], rfl, wide_two two follows⟩
  case h_3 second more three =>
    split at decoded
    case isFalse => cases decoded
    case isTrue follows =>
    rw [if_pos follows]
    cases more with
    | nil => cases decoded
    | cons third last =>
        dsimp only at decoded ⊢
        split at decoded
        case isFalse => cases decoded
        case isTrue ends =>
        cases decoded
        rw [if_pos ends]
        exact .inr ⟨[second, third], rfl, wide_three three follows ends⟩
  case h_4 second more four =>
    split at decoded
    case isFalse => cases decoded
    case isTrue follows =>
    rw [if_pos follows]
    cases more with
    | nil => cases decoded
    | cons third last =>
        dsimp only at decoded ⊢
        split at decoded
        case isFalse => cases decoded
        case isTrue continues =>
        rw [if_pos continues]
        cases last with
        | nil => cases decoded
        | cons fourth end_ =>
            dsimp only at decoded ⊢
            split at decoded
            case isFalse => cases decoded
            case isTrue ends =>
            cases decoded
            rw [if_pos ends]
            exact .inr ⟨[second, third, fourth], rfl, wide_four four follows continues ends⟩
  case h_5 => cases decoded

end Utf8

namespace Json

theorem octet_number (byte : UInt8) : (Char.ofNat byte.toNat).toNat = byte.toNat := by
  have below : byte.toNat < 256 := byte.toNat_lt
  have valid : byte.toNat.isValidChar := by
    unfold Nat.isValidChar
    omega
  exact Utf8.char_of_number valid

theorem to_bytes_of_bytes (bytes : List UInt8) : toBytes (ofBytes bytes) = bytes := by
  unfold toBytes ofBytes
  rw [List.map_map]
  have same : ((fun octet : Char => UInt8.ofNat octet.toNat) ∘ fun byte : UInt8 =>
      Char.ofNat byte.toNat) = id := by
    funext byte
    rw [Function.comp_apply, octet_number, UInt8.ofNat_toNat]
    rfl
  rw [same, List.map_id]

end Json

/-- Octets that spell a text. -/
inductive Spells : List Char -> List Char -> Prop
  | nil : Spells [] []
  | plain {symbol : Char} {octets symbols : List Char} (plain : symbol.toNat < 128)
      (later : Spells octets symbols) : Spells (symbol :: octets) (symbol :: symbols)
  | wide {own : List UInt8} {symbol : Char} {octets symbols : List Char}
      (wide : Utf8.IsWide own symbol) (later : Spells octets symbols) :
      Spells (Json.ofBytes own ++ octets) (symbol :: symbols)

namespace Spells

variable {octets symbols : List Char}

theorem of_decoded {bytes : List UInt8} (decoded : Utf8.decode bytes = some symbols) :
    Spells (Json.ofBytes bytes) symbols := by
  induction bytes using Utf8.pieces.induct generalizing symbols
  case case1 =>
      rw [Utf8.decode_nil] at decoded
      cases decoded
      exact .nil
  case case2 lead rest first claim =>
      rw [Utf8.decode_cons, Option.bind_eq_some_iff] at decoded
      obtain ⟨symbol, here, decoded⟩ := decoded
      obtain ⟨others, later, same⟩ := Option.map_eq_some_iff.mp decoded
      cases same
      rcases Utf8.decode_at_some here with ⟨low, single, none⟩ | ⟨own, split, wide⟩
      · have spelled := claim later
        rw [none, List.drop_zero] at spelled
        rw [single]
        exact .plain (by rwa [Json.octet_number]) spelled
      · have whole : Json.ofBytes (lead :: rest) = Json.ofBytes (lead :: own) ++
            Json.ofBytes (rest.drop (Utf8.decodeAt lead rest).2) := by
          unfold Json.ofBytes
          rw [← List.map_append, List.cons_append, ← split]
        rw [whole]
        exact .wide wide (claim later)

theorem decode_spelled (spells : Spells octets symbols) :
    Utf8.decode (Json.toBytes octets) = some symbols := by
  induction spells with
  | nil => exact Utf8.decode_nil
  | @plain symbol octets symbols low later claim =>
      have number : (UInt8.ofNat symbol.toNat).toNat = symbol.toNat := by
        rw [UInt8.toNat_ofNat']
        omega
      have one : Utf8.width (UInt8.ofNat symbol.toNat) = 1 := by
        unfold Utf8.width
        dsimp only
        rw [number, if_pos low]
      have here : ∀ rest, Utf8.decodeAt (UInt8.ofNat symbol.toNat) rest = (some symbol, 0) := by
        intro rest
        unfold Utf8.decodeAt
        rw [one, number, Char.ofNat_toNat]
        rfl
      show Utf8.decode (UInt8.ofNat symbol.toNat :: Json.toBytes octets) = _
      rw [Utf8.decode_cons, here, Option.bind_some, List.drop_zero, claim]
      rfl
  | @wide own symbol octets symbols wide later claim =>
      have bytes : Json.toBytes (Json.ofBytes own ++ octets) = own ++ Json.toBytes octets := by
        rw [Json.toBytes, List.map_append]
        exact congrArg (· ++ Json.toBytes octets) (Json.to_bytes_of_bytes own)
      rw [bytes, wide.decoded, claim]
      rfl

/-- The octets of a character that is not plain begin with one that spells nothing plain. -/
theorem wide_start {own : List UInt8} {symbol : Char} (wide : Utf8.IsWide own symbol) :
    ∃ first others, Json.ofBytes own = first :: others ∧
      ∀ octet ∈ first :: others, 128 ≤ octet.toNat := by
  cases own with
  | nil => exact absurd rfl wide.filled
  | cons lead rest =>
      refine ⟨Char.ofNat lead.toNat, Json.ofBytes rest, rfl, ?_⟩
      intro octet inside
      have written : octet ∈ (lead :: rest).map fun byte => Char.ofNat byte.toNat := inside
      obtain ⟨byte, member, rfl⟩ := List.mem_map.mp written
      rw [Json.octet_number]
      exact wide.high byte member

theorem head_plain {symbol : Char} (spells : Spells octets (symbol :: symbols))
    (plain : symbol.toNat < 128) : ∃ rest, octets = symbol :: rest ∧ Spells rest symbols := by
  cases spells with
  | plain _ later => exact ⟨_, rfl, later⟩
  | wide wide _ => exact absurd wide.beyond (Nat.not_le.mpr plain)

/-- Where a text goes on as plain characters its octets do. -/
theorem front_plain {front : List Char} (plain : ∀ symbol ∈ front, symbol.toNat < 128)
    (spells : Spells octets (front ++ symbols)) :
    ∃ rest, octets = front ++ rest ∧ Spells rest symbols := by
  induction front generalizing octets with
  | nil => exact ⟨octets, rfl, spells⟩
  | cons symbol others claim =>
      obtain ⟨after, same, spells⟩ := spells.head_plain (plain symbol List.mem_cons_self)
      obtain ⟨rest, split, spells⟩ :=
        claim (fun other inside => plain other (List.mem_cons_of_mem _ inside)) spells
      exact ⟨rest, by rw [same, split]; rfl, spells⟩

theorem takes {picks : Char -> Bool} (plain : ∀ symbol, picks symbol = true → symbol.toNat < 128)
    (spells : Spells octets symbols) :
    octets.takeWhile picks = symbols.takeWhile picks ∧
      Spells (octets.dropWhile picks) (symbols.dropWhile picks) := by
  induction spells with
  | nil => exact ⟨rfl, .nil⟩
  | @plain symbol octets symbols low later claim =>
      cases picked : picks symbol with
      | true =>
          rw [List.takeWhile_cons_of_pos picked, List.takeWhile_cons_of_pos picked,
            List.dropWhile_cons_of_pos picked, List.dropWhile_cons_of_pos picked, claim.1]
          exact ⟨rfl, claim.2⟩
      | false =>
          have ends : ¬picks symbol = true := by simp [picked]
          rw [List.takeWhile_cons_of_neg ends, List.takeWhile_cons_of_neg ends,
            List.dropWhile_cons_of_neg ends, List.dropWhile_cons_of_neg ends]
          exact ⟨rfl, .plain low later⟩
  | @wide own symbol octets symbols wide later claim =>
      obtain ⟨first, others, spelled, high⟩ := wide_start wide
      have ends : ¬picks symbol = true := fun picked =>
        absurd wide.beyond (Nat.not_le.mpr (plain symbol picked))
      have stays : ¬picks first = true := fun picked =>
        absurd (high first List.mem_cons_self) (Nat.not_le.mpr (plain first picked))
      have whole := Spells.wide wide later
      rw [spelled, List.cons_append] at whole ⊢
      rw [List.takeWhile_cons_of_neg ends, List.takeWhile_cons_of_neg stays,
        List.dropWhile_cons_of_neg ends, List.dropWhile_cons_of_neg stays]
      exact ⟨rfl, whole⟩

theorem length_le (spells : Spells octets symbols) : symbols.length ≤ octets.length := by
  induction spells with
  | nil => exact Nat.le_refl _
  | plain low later claim => exact Nat.succ_le_succ claim
  | wide wide later claim =>
      obtain ⟨first, others, spelled, _⟩ := wide_start wide
      rw [spelled, List.cons_append, List.length_cons, List.length_cons, List.length_append]
      omega

end Spells
end GatedResources
