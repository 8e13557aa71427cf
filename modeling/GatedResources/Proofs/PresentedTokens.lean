import GatedResources.Identity.Bearer
import GatedResources.Identity.Verifier
import GatedResources.Proofs.Admission
import GatedResources.Proofs.TrimmedText

/-!
# Tokens that are looked up

Where tokens are looked up in a table, two things decide who is asking: the first `Authorization`
header and the last entry for the token that it presents. In every other case nobody is known to
be asking. The table itself cannot fail.
-/

namespace GatedResources

/-! ## The token that a header presents -/

def Headers.values (headers : Headers) (name : String) : List String :=
  (headers.filter fun header =>
    header.1.toList.map Char.toLower == name.toList.map Char.toLower).map Prod.snd

theorem Headers.first_value (headers : Headers) (name : String) :
    headers.first name = (headers.values name).head? := by
  rw [first, values, List.head?_map, List.head?_filter]

namespace Bearer

def IsGap (symbol : Char) : Prop :=
  symbol = ' ' ∨ symbol = '\t'

/-- A header value that presents a token: characters from 0x20 to 0x7E and tabs only, first the
mark, then the token with blanks around it. The token has no blank at its ends and is not empty. -/
structure Presents (value token : String) : Prop where
  plain : ∀ symbol ∈ value.toList,
    (0x20 ≤ symbol.toNat ∧ symbol.toNat ≤ 0x7E) ∨ symbol = '\t'
  marked : ∃ before after, value.toList = "Bearer ".toList ++ (before ++ token.toList ++ after) ∧
    (∀ symbol ∈ before, IsGap symbol) ∧ ∀ symbol ∈ after, IsGap symbol
  filled : token ≠ ""
  stripped : ∀ symbol, symbol ∈ token.toList.head? ∨ symbol ∈ token.toList.getLast? →
    ¬ IsGap symbol

theorem is_visible_iff (value : List Char) :
    isVisible value = true ↔ ∀ symbol ∈ value,
      (0x20 ≤ symbol.toNat ∧ symbol.toNat ≤ 0x7E) ∨ symbol = '\t' := by
  have below : ∀ code : Nat, code < 127 ↔ code ≤ 0x7E := fun code => Nat.lt_succ_iff
  simp [isVisible, below]

/-- Of the white space of all scripts, plain text holds two characters only. -/
theorem is_space_plain {symbol : Char}
    (plain : (0x20 ≤ symbol.toNat ∧ symbol.toNat ≤ 0x7E) ∨ symbol = '\t') :
    Trim.isSpace symbol = true ↔ IsGap symbol := by
  have space : symbol = ' ' ↔ symbol.toNat = 32 := Char.toNat_inj.symm
  have tab : symbol = '\t' ↔ symbol.toNat = 9 := Char.toNat_inj.symm
  rw [tab] at plain
  simp only [Trim.isSpace, IsGap, space, tab, Bool.or_eq_true, Bool.and_eq_true,
    decide_eq_true_eq, beq_iff_eq]
  omega

theorem credential_of_presented {value token : String} (presents : Presents value token) :
    credentialOf value.toList = some token := by
  obtain ⟨plain, ⟨before, after, written, leading, trailing⟩, filled, stripped⟩ := presents
  have visible := (is_visible_iff value.toList).mpr plain
  have inside : ∀ symbol ∈ before ++ token.toList ++ after,
      (0x20 ≤ symbol.toNat ∧ symbol.toNat ≤ 0x7E) ∨ symbol = '\t' := by
    intro symbol member
    exact plain symbol (written ▸ List.mem_append_right _ member)
  have spaces : Trim.spaces (before ++ token.toList ++ after) = token.toList := by
    apply Trim.both_around
    · intro symbol member
      exact (is_space_plain (inside symbol (by simp [member]))).mpr (leading symbol member)
    · intro symbol member
      exact (is_space_plain (inside symbol (by simp [member]))).mpr (trailing symbol member)
    · intro symbol first
      have member : symbol ∈ token.toList := List.mem_of_mem_head? first
      rw [Bool.eq_false_iff, ne_eq, is_space_plain (inside symbol (by simp [member]))]
      exact stripped symbol (.inl first)
    · intro symbol last
      have member : symbol ∈ token.toList := List.mem_of_mem_getLast? last
      rw [Bool.eq_false_iff, ne_eq, is_space_plain (inside symbol (by simp [member]))]
      exact stripped symbol (.inr last)
  have nonempty : token.toList.isEmpty = false := by simpa using filled
  have begins : ['B', 'e', 'a', 'r', 'e', 'r', ' '].isPrefixOf value.toList = true := by
    rw [written]
    simp
  have rest : value.toList.drop 7 = before ++ token.toList ++ after := by
    rw [written]
    rfl
  simp only [credentialOf, visible, begins, Bool.and_self, if_true, List.length_cons,
    List.length_nil, rest, spaces, nonempty, String.ofList_toList]
  rfl

theorem presented_of_credential {value token : String}
    (read : credentialOf value.toList = some token) : Presents value token := by
  unfold credentialOf at read
  dsimp only at read
  split at read
  case isFalse => cases read
  case isTrue accepted =>
      obtain ⟨visible, begins⟩ := Bool.and_eq_true_iff.mp accepted
      obtain ⟨rest, written⟩ := List.isPrefixOf_iff_prefix.mp begins
      have plain := (is_visible_iff value.toList).mp visible
      have inside : ∀ symbol ∈ rest,
          (0x20 ≤ symbol.toNat ∧ symbol.toNat ≤ 0x7E) ∨ symbol = '\t' := by
        intro symbol member
        exact plain symbol (written ▸ List.mem_append_right _ member)
      have left : value.toList.drop 7 = rest := by
        rw [← written]
        rfl
      simp only [List.length_cons, List.length_nil, left] at read
      split at read
      case isTrue => cases read
      case isFalse nonempty =>
          have same : token.toList = Trim.both Trim.isSpace rest := by
            rw [← Option.some.inj read, String.toList_ofList]
            rfl
          obtain ⟨before, after, parts, leading, trailing⟩ := Trim.both_parts Trim.isSpace rest
          rw [← same] at parts
          have known : ∀ symbol ∈ rest, Trim.isSpace symbol = true ↔ IsGap symbol :=
            fun symbol member => is_space_plain (inside symbol member)
          refine ⟨plain, ⟨before, after, ?_, ?_, ?_⟩, ?_, ?_⟩
          · rw [← written, parts]
            rfl
          · intro symbol member
            exact (known symbol (by simp [parts, member])).mp (leading symbol member)
          · intro symbol member
            exact (known symbol (by simp [parts, member])).mp (trailing symbol member)
          · rintro rfl
            exact nonempty (by simp [Trim.spaces, ← same])
          · rintro symbol (first | last)
            · have member : symbol ∈ token.toList := List.mem_of_mem_head? first
              rw [← known symbol (by simp [parts, member]), Bool.not_eq_true]
              exact Trim.head_both Trim.isSpace rest symbol (same ▸ first)
            · have member : symbol ∈ token.toList := List.mem_of_mem_getLast? last
              rw [← known symbol (by simp [parts, member]), Bool.not_eq_true]
              exact Trim.last_both Trim.isSpace rest symbol (same ▸ last)

theorem credential_eq_some {headers : Headers} {token : String} :
    credential headers = some token ↔
      ∃ value, (headers.values "authorization").head? = some value ∧ Presents value token := by
  rw [credential, Headers.first_value, Option.bind_eq_some_iff]
  constructor
  · rintro ⟨value, first, read⟩
    exact ⟨value, first, presented_of_credential read⟩
  · rintro ⟨value, first, presents⟩
    exact ⟨value, first, credential_of_presented presents⟩

end Bearer

/-! ## The identity that a token stands for -/

/-- The last entry for a token gives an identity. -/
def TokenEntry.StandFor (tokens : List TokenEntry) (token : String) (identity : Identity) :
    Prop :=
  ∃ before after, tokens = before ++ ⟨token, identity⟩ :: after ∧
    ∀ later ∈ after, later.token ≠ token

namespace Verifier

theorem find_last_entry {tokens : List TokenEntry} {token : String} {entry : TokenEntry} :
    (tokens.reverse.find? fun held => held.token == token) = some entry ↔
      entry.token = token ∧ TokenEntry.StandFor tokens token entry.identity := by
  rw [List.find?_eq_some_iff_append]
  constructor
  · rintro ⟨same, back, front, turned, others⟩
    have named : entry.token = token := eq_of_beq same
    have straight := congrArg List.reverse turned
    rw [List.reverse_reverse, List.reverse_append, List.reverse_cons, List.append_assoc] at straight
    refine ⟨named, front.reverse, back.reverse, ?_, ?_⟩
    · rw [straight, ← named]
      rfl
    · intro later member
      simpa using others later (List.mem_reverse.mp member)
  · rintro ⟨named, before, after, written, others⟩
    refine ⟨beq_iff_eq.mpr named, after.reverse, before.reverse, ?_, ?_⟩
    · rw [written, ← named]
      simp
    · intro later member
      simpa using others later (List.mem_reverse.mp member)

theorem last_entry_found {tokens : List TokenEntry} {token : String} {identity : Identity}
    (stands : TokenEntry.StandFor tokens token identity) :
    (tokens.reverse.find? fun held => held.token == token) = some ⟨token, identity⟩ :=
  find_last_entry.mpr ⟨rfl, stands⟩

theorem knowing_eq_done {tokens : List TokenEntry} {token : String} {caller : Caller} :
    knowing tokens token = .done caller ↔
      token ≠ "" ∧ TokenEntry.StandFor tokens token ⟨caller.subject, caller.scope⟩ := by
  by_cases missing : token = ""
  · simp [knowing, missing]
  · have given : token.isEmpty = false := by simpa using missing
    unfold knowing
    rw [given]
    cases found : tokens.reverse.find? fun held => held.token == token with
    | some entry =>
        obtain ⟨named, stands⟩ := find_last_entry.mp found
        constructor
        · intro same
          cases same
          exact ⟨missing, stands⟩
        · rintro ⟨-, other⟩
          have again := last_entry_found other
          rw [Option.some.inj (found.symm.trans again)]
          rfl
    | none =>
        constructor
        · intro impossible
          cases impossible
        · rintro ⟨-, stands⟩
          have again := last_entry_found stands
          rw [found] at again
          cases again

/-- A table of tokens gives an identity or rejects the token, and does nothing else. -/
theorem knowing_ends (tokens : List TokenEntry) (token : String) :
    (∃ caller, knowing tokens token = .done caller) ∨
      knowing tokens token = .failed .missingCredential ∨
      ∃ reason, knowing tokens token = .failed (.unauthorized reason) := by
  unfold knowing
  split
  · exact .inr (.inl rfl)
  · cases tokens.reverse.find? fun entry => entry.token == token with
    | some entry => exact .inl ⟨_, rfl⟩
    | none => exact .inr (.inr ⟨_, rfl⟩)

theorem identify_rejected {action : Action} {policy : Policy} {tokens : List TokenEntry}
    {credential : Option String} (closed : policy.isPublic action = false)
    (rejected : ∀ text caller, credential = some text → knowing tokens text ≠ .done caller) :
    (Gate.identify action policy credential (knowing tokens)).outcome =
      .failed .unauthenticated := by
  unfold Gate.identify
  rw [closed]
  cases credential with
  | none => rfl
  | some text =>
      rcases knowing_ends tokens text with ⟨caller, known⟩ | missing | ⟨reason, refused⟩
      · exact absurd known (rejected text caller rfl)
      · simp only [missing]
        rfl
      · simp only [refused]
        rfl

/-- The headers present a token, and the last entry for it gives the identity of the caller. -/
def Identifies (tokens : List TokenEntry) (headers : Headers) (caller : Caller) : Prop :=
  ∃ value token, (headers.values "authorization").head? = some value ∧
    Bearer.Presents value token ∧
    TokenEntry.StandFor tokens token ⟨caller.subject, caller.scope⟩

/-- With a table of tokens the caller of an action that is not public is the one whom the first
`Authorization` header and the last entry for its token identify. Without one the request is
unauthenticated, and never is it the verifier that fails. -/
theorem token_table_identifies {settings : IdentitySettings}
    (mode : settings.mode = .staticTokens) (now : Nat) :
    ∃ verifier, (ofSettings settings now).outcome = .done verifier ∧
      ∀ (headers : Headers) (policy : Policy) (action : Action), policy.isPublic action = false →
        (∀ caller, (Gate.identify action policy (Bearer.credential headers) verifier).outcome =
          .done (.identified caller) ↔ Identifies settings.tokens headers caller) ∧
        ((¬ ∃ caller, Identifies settings.tokens headers caller) →
          (Gate.identify action policy (Bearer.credential headers) verifier).outcome =
            .failed .unauthenticated) := by
  have chosen : (ofSettings settings now).outcome = .done (knowing settings.tokens) := by
    unfold ofSettings
    rw [mode]
    rfl
  refine ⟨knowing settings.tokens, chosen, ?_⟩
  intro headers policy action closed
  have identifies : ∀ caller, Identifies settings.tokens headers caller ↔
      ∃ text, Bearer.credential headers = some text ∧
        knowing settings.tokens text = .done caller := by
    intro caller
    constructor
    · rintro ⟨value, token, first, presents, stands⟩
      exact ⟨token, Bearer.credential_eq_some.mpr ⟨value, first, presents⟩,
        knowing_eq_done.mpr ⟨presents.filled, stands⟩⟩
    · rintro ⟨text, shown, known⟩
      obtain ⟨value, first, presents⟩ := Bearer.credential_eq_some.mp shown
      exact ⟨value, text, first, presents, (knowing_eq_done.mp known).2⟩
  constructor
  · intro caller
    rw [identifies, Gate.identify_eq_done, closed]
    simp
  · intro unknown
    apply identify_rejected closed
    intro text caller shown known
    exact unknown ⟨caller, (identifies caller).mpr ⟨text, shown, known⟩⟩

/-- Of two headers the first counts and of two entries the last, and tabs around a token do not. -/
theorem last_entry_identifies :
    let settings : IdentitySettings := { IdentitySettings.initial with
      tokens := [⟨"t", ⟨"ada", "CLIENT"⟩⟩, ⟨"", ⟨"eve", "ADMIN"⟩⟩, ⟨"t", ⟨"bob", "ADMIN"⟩⟩] }
    let headers : Headers := [("Accept", "*/*"), ("AUTHORIZATION", "Bearer \tt "),
      ("authorization", "Bearer u")]
    settings.mode = .staticTokens ∧ ∃ verifier, (ofSettings settings 0).outcome = .done verifier ∧
      (Gate.identify .create Policy.empty (Bearer.credential headers) verifier).outcome =
        .done (.identified ⟨"bob", "ADMIN"⟩) := by
  intro settings headers
  have mode : settings.mode = .staticTokens := rfl
  obtain ⟨verifier, chosen, identifies⟩ := token_table_identifies mode 0
  have presents : Bearer.Presents "Bearer \tt " "t" :=
    Bearer.presented_of_credential (by decide)
  have stands : TokenEntry.StandFor settings.tokens "t" ⟨"bob", "ADMIN"⟩ :=
    ⟨settings.tokens.take 2, [], rfl, by simp⟩
  have known : Identifies settings.tokens headers ⟨"bob", "ADMIN"⟩ :=
    ⟨"Bearer \tt ", "t", by decide, presents, stands⟩
  exact ⟨mode, verifier, chosen, ((identifies headers Policy.empty .create rfl).1 _).mpr known⟩

end Verifier
end GatedResources
