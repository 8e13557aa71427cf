import GatedResources.Identity.SignedToken
import GatedResources.Proofs.Outcome
import GatedResources.Proofs.PlainMembers

/-!
# What a signed token attests

A signed token is accepted only if it has three segments, names the one algorithm, carries the
signature of its own text, and claims who is asking until when. A token with all this is accepted if
its header and its claims hold nothing else. Nothing but an empty credential is missing, and every
other one that is not accepted is refused.
-/

namespace GatedResources

/-! ## The parts of a token -/

namespace Trim

theorem split_last_of_append {mark : Char} (before : List Char) {after : List Char}
    (last : mark ∉ after) : splitLast mark (before ++ mark :: after) = some (before, after) := by
  have reversed : (before ++ mark :: after).reverse = after.reverse ++ mark :: before.reverse := by
    simp
  have apart : ∀ symbol ∈ after.reverse, (symbol != mark) = true := by
    intro symbol inside
    rw [bne_iff_ne]
    rintro rfl
    exact last (List.mem_reverse.mp inside)
  have taken : (after.reverse ++ mark :: before.reverse).takeWhile (· != mark) = after.reverse := by
    rw [List.takeWhile_append_of_pos apart]
    simp
  have contains : (before ++ mark :: after).contains mark = true := by simp
  have count : (before ++ mark :: after).length - after.length - 1 = before.length := by
    rw [List.length_append, List.length_cons]
    omega
  rw [splitLast, if_pos contains, reversed, taken, List.reverse_reverse]
  simp only [count, List.take_left]

theorem split_last_eq_some {mark : Char} {symbols before after : List Char} :
    splitLast mark symbols = some (before, after) ↔
      symbols = before ++ mark :: after ∧ mark ∉ after := by
  constructor
  · intro split
    have inside : mark ∈ symbols := by
      by_cases inside : symbols.contains mark = true
      · simpa using inside
      · rw [splitLast, if_neg inside] at split
        cases split
    obtain ⟨tail, front, reversed, fresh⟩ :=
      List.eq_append_cons_of_mem (List.mem_reverse.mpr inside)
    have whole : symbols = front.reverse ++ mark :: tail.reverse := by
      rw [← List.reverse_reverse symbols, reversed]
      simp
    have last : mark ∉ tail.reverse := fun inside => fresh (List.mem_reverse.mp inside)
    rw [whole, split_last_of_append front.reverse last] at split
    cases split
    exact ⟨whole, last⟩
  · rintro ⟨rfl, last⟩
    exact split_last_of_append before last

end Trim

namespace Base64Url

theorem mem_has_value {symbols : List Char} {values : List Nat}
    (read : symbols.mapM symbolValue = some values) :
    ∀ symbol ∈ symbols, (symbolValue symbol).isSome = true := by
  induction symbols generalizing values with
  | nil => exact nofun
  | cons symbol rest claim =>
      rw [List.mapM_cons] at read
      obtain ⟨own, valued, read⟩ := Option.bind_eq_some_iff.mp read
      obtain ⟨others, later, _⟩ := Option.bind_eq_some_iff.mp read
      intro held member
      rcases List.mem_cons.mp member with same | inside
      · rw [same, valued]
        rfl
      · exact claim later held inside

theorem pointless {symbols : List Char} {bytes : List UInt8}
    (decoded : decode symbols = some bytes) : '.' ∉ symbols := by
  obtain ⟨values, read, _⟩ := Option.bind_eq_some_iff.mp decoded
  intro inside
  exact absurd (mem_has_value read '.' inside) (by decide)

end Base64Url

namespace SignedToken

theorem split_eq_some {token : List Char} {parts : Parts} : split token = some parts ↔
    token = parts.header ++ '.' :: (parts.claims ++ '.' :: parts.signature) ∧
      '.' ∉ parts.claims ∧ '.' ∉ parts.signature := by
  unfold split
  constructor
  · intro made
    obtain ⟨⟨signed, signature⟩, outer, later⟩ := Option.bind_eq_some_iff.mp made
    obtain ⟨⟨header, claims⟩, inner, same⟩ := Option.bind_eq_some_iff.mp later
    cases same
    obtain ⟨whole, pointless⟩ := Trim.split_last_eq_some.mp outer
    obtain ⟨front, clear⟩ := Trim.split_last_eq_some.mp inner
    refine ⟨?_, clear, pointless⟩
    rw [whole, front]
    simp
  · rintro ⟨whole, clear, pointless⟩
    have outer : Trim.splitLast '.' token =
        some (parts.header ++ '.' :: parts.claims, parts.signature) := by
      apply Trim.split_last_eq_some.mpr ⟨?_, pointless⟩
      rw [whole]
      simp
    have inner := Trim.split_last_of_append parts.header clear
    rw [outer, Option.bind_eq_bind, Option.bind_some]
    simp [inner]

theorem header_members_eq_ok {bytes : List UInt8} {members : List (String × Json)} :
    headerMembers bytes = .ok members ↔ ∃ symbols, Utf8.decode bytes = some symbols ∧
      Json.parseInOrder (String.ofList symbols) = some (.object members) := by
  unfold headerMembers
  rw [← Option.bind_eq_some_iff]
  cases (Utf8.decode bytes).bind fun symbols => Json.parseInOrder (String.ofList symbols) with
  | none => simp
  | some value => cases value <;> simp

theorem decode_part_eq_ok {part : List Char} {bytes : List UInt8} :
    decodePart part = .ok bytes ↔ Base64Url.decode part = some bytes := by
  unfold decodePart
  cases Base64Url.decode part <;> simp

/-- What the reader of tokens finds out about the three parts before it looks at the claims. -/
structure IsSigned (settings : SigningSettings) (parts : Parts) (members : List (String × Json))
    (payload : List UInt8) : Prop where
  header : ∃ bytes symbols, Base64Url.decode parts.header = some bytes ∧
    Utf8.decode bytes = some symbols ∧
    Json.parseInOrder (String.ofList symbols) = some (.object members)
  signature : Base64Url.decode parts.signature =
    some (Hmac.sign (Utf8.bytes settings.secret) parts.signed)
  payload : Base64Url.decode parts.claims = some payload

theorem genuine_claims_eq_ok {settings : SigningSettings} {token : List Char} {claims : Claims} :
    genuineClaims settings token = .ok claims ↔ ∃ parts members payload,
      split token = some parts ∧ IsSigned settings parts members payload ∧
        headerAlgorithm members = .ok "HS256" ∧ readClaims payload = some claims := by
  unfold genuineClaims
  cases split token with
  | none =>
      constructor
      · intro impossible
        cases impossible
      · rintro ⟨_, _, _, impossible, _⟩
        cases impossible
  | some parts =>
      constructor
      · intro read
        obtain ⟨_, same, read⟩ := except_bind_eq_ok.mp read
        cases same
        obtain ⟨bytes, decoded, read⟩ := except_bind_eq_ok.mp read
        obtain ⟨members, held, read⟩ := except_bind_eq_ok.mp read
        obtain ⟨name, named, read⟩ := except_bind_eq_ok.mp read
        by_cases known : name = "HS256"
        case neg =>
          rw [if_pos known] at read
          cases read
        rw [if_neg (not_not_intro known)] at read
        obtain ⟨signature, written, read⟩ := except_bind_eq_ok.mp read
        by_cases own : signature = Hmac.sign (Utf8.bytes settings.secret) parts.signed
        case neg =>
          rw [if_pos own] at read
          cases read
        rw [if_neg (not_not_intro own)] at read
        obtain ⟨payload, carried, read⟩ := except_bind_eq_ok.mp read
        rw [decode_part_eq_ok] at decoded written carried
        obtain ⟨symbols, plain, parsed⟩ := header_members_eq_ok.mp held
        subst known own
        have signed : IsSigned settings parts members payload :=
          ⟨⟨bytes, symbols, decoded, plain, parsed⟩, written, carried⟩
        refine ⟨parts, members, payload, rfl, signed, named, ?_⟩
        cases understood : readClaims payload with
        | none =>
            rw [understood] at read
            cases read
        | some _ =>
            rw [understood] at read
            cases read
            rfl
      · rintro ⟨_, members, payload, same, ⟨⟨bytes, symbols, decoded, plain, parsed⟩, written,
          carried⟩, named, understood⟩
        cases same
        have held := header_members_eq_ok.mpr ⟨symbols, plain, parsed⟩
        rw [← decode_part_eq_ok] at decoded written carried
        refine except_bind_eq_ok.mpr ⟨parts, rfl, ?_⟩
        refine except_bind_eq_ok.mpr ⟨bytes, decoded, ?_⟩
        refine except_bind_eq_ok.mpr ⟨members, held, ?_⟩
        refine except_bind_eq_ok.mpr ⟨"HS256", named, ?_⟩
        rw [if_neg (not_not_intro rfl)]
        refine except_bind_eq_ok.mpr ⟨_, written, ?_⟩
        rw [if_neg (not_not_intro rfl)]
        refine except_bind_eq_ok.mpr ⟨payload, carried, ?_⟩
        rw [understood]

/-! ## The header -/

def Names (header : List (String × Json)) (algorithm : String) : Prop :=
  ∃ value, Json.Sole header "alg" value ∧ value.choiceName Json.isNull = some algorithm

theorem names_of_algorithm {header : List (String × Json)} {algorithm : String}
    (named : headerAlgorithm header = .ok algorithm) : Names header algorithm := by
  unfold headerAlgorithm at named
  dsimp only at named
  cases found : (Json.lookup "alg" header).bind (Json.choiceName Json.isNull) with
  | none =>
      rw [found] at named
      cases named
  | some name =>
      rw [found] at named
      dsimp only at named
      split at named
      case isFalse => cases named
      case isTrue accepted =>
          cases named
          obtain ⟨value, held, chosen⟩ := Option.bind_eq_some_iff.mp found
          simp only [Bool.and_eq_true, Bool.not_eq_true', List.any_eq_false] at accepted
          have single : ¬KeyDescription.repeats "alg" header = true := accepted.1.2 "alg" (by simp)
          rw [KeyDescription.repeats, decide_eq_true_eq, Nat.not_lt] at single
          rw [Json.lookup_eq] at held
          exact ⟨value, Json.sole_of_lookup held single, chosen⟩

structure IsPlainHeader (header : List (String × Json)) : Prop where
  known : ∀ entry ∈ header,
    entry.1 = "alg" ∨ (entry.1 = "typ" ∧ (entry.2 = .null ∨ ∃ text, entry.2 = .string text))
  distinct : (header.map Prod.fst).Nodup

theorem repeats_nothing {header : List (String × Json)} (distinct : (header.map Prod.fst).Nodup)
    (name : String) : KeyDescription.repeats name header = false := by
  have counted : (header.filter fun entry => entry.1 == name).length =
      (header.map Prod.fst).count name := by
    rw [List.count, List.countP_map, List.countP_eq_length_filter]
    rfl
  have single := List.nodup_iff_count.mp distinct name
  rw [KeyDescription.repeats, counted, decide_eq_false_iff_not, Nat.not_lt]
  exact single

theorem algorithm_of_names {header : List (String × Json)} (plain : IsPlainHeader header)
    (named : Names header "HS256") : headerAlgorithm header = .ok "HS256" := by
  obtain ⟨value, sole, chosen⟩ := named
  have found : (Json.lookup "alg" header).bind (Json.choiceName Json.isNull) = some "HS256" := by
    rw [Json.lookup_eq, sole.lookup_eq_some]
    exact chosen
  have accepted : header.all (fun entry =>
      entry.1 == "alg" || acceptsHeaderMember entry.1 entry.2) = true := by
    rw [List.all_eq_true]
    rintro ⟨name, held⟩ member
    rcases plain.known _ member with algorithm | ⟨type, nothing | ⟨text, same⟩⟩
    · simp [show name = "alg" from algorithm]
    · cases type
      cases nothing
      rfl
    · cases type
      cases same
      rfl
  have single : (("alg" :: "jwk" :: optionalTexts ++ optionalLists).any fun name =>
      KeyDescription.repeats name header) = false := by
    rw [List.any_eq_false]
    intro name _
    rw [repeats_nothing plain.distinct name]
    exact Bool.false_ne_true
  unfold headerAlgorithm
  dsimp only
  rw [found, accepted, single]
  rfl

/-! ## The claims -/

theorem said_of_read {payload : List UInt8} {read : Claims}
    (understood : readClaims payload = some read) :
    ∃ claims, Json.plainMembers payload = some claims ∧
      Json.Sole claims "sub" (some (.string read.subject)) ∧
      Json.Sole claims "scope" (some (.string read.scope)) ∧
      Json.Sole claims "exp" (some (.natural read.expires)) := by
  unfold readClaims at understood
  obtain ⟨outline, drawn, understood⟩ := Option.bind_eq_some_iff.mp understood
  cases outline with
  | object written =>
      obtain ⟨members, named, understood⟩ := Option.bind_eq_some_iff.mp understood
      refine ⟨_, Json.plain_members_eq_some.mpr ⟨written, members, drawn, named, rfl⟩, ?_⟩
      dsimp only at understood
      split at understood
      case h_2 => cases understood
      case h_1 subject scope expires subjectOnly scopeOnly expiryOnly =>
      rw [← Json.sole_iff_values] at subjectOnly scopeOnly expiryOnly
      split at understood
      case h_2 => cases understood
      case h_1 count subjectSaid scopeSaid expirySaid =>
      split at understood
      case isFalse => cases understood
      case isTrue accepted =>
      cases understood
      simp only [Bool.and_eq_true, decide_eq_true_eq] at accepted
      have whole : Json.natural count.toNat = .number (.integer count) := by
        rw [Json.natural, Int.toNat_of_nonneg accepted.1.1.1.1]
      rw [← whole] at expirySaid
      rw [← subjectSaid, ← scopeSaid, ← expirySaid]
      exact ⟨subjectOnly.map_values _, scopeOnly.map_values _, expiryOnly.map_values _⟩
  | _ => cases understood

def requiredClaims : List String := ["sub", "scope", "exp"]

theorem read_of_said {payload : List UInt8} {claims : List (String × Option Json)}
    {subject scope : String} {expires : Nat} (plain : Json.plainMembers payload = some claims)
    (subjectSays : Json.Sole claims "sub" (some (.string subject)))
    (scopeSays : Json.Sole claims "scope" (some (.string scope)))
    (expirySays : Json.Sole claims "exp" (some (.natural expires)))
    (required : ∀ entry ∈ claims, entry.1 ∈ requiredClaims) :
    readClaims payload = some ⟨subject, scope, expires, false⟩ := by
  obtain ⟨written, members, drawn, named, rfl⟩ := Json.plain_members_eq_some.mp plain
  obtain ⟨_, subjectOnly, subjectSaid⟩ := Json.sole_of_map_values subjectSays
  obtain ⟨_, scopeOnly, scopeSaid⟩ := Json.sole_of_map_values scopeSays
  obtain ⟨_, expiryOnly, expirySaid⟩ := Json.sole_of_map_values expirySays
  rw [Json.sole_iff_values] at subjectOnly scopeOnly expiryOnly
  have absent : ∀ name ∉ requiredClaims,
      (members.filter fun member => member.1 == name) = [] := by
    intro name other
    rw [List.filter_eq_nil_iff]
    intro entry member same
    exact other (eq_of_beq same ▸ required _ (List.mem_map_of_mem member))
  have noAudience := absent "aud" (by decide)
  have noIssuer := absent "iss" (by decide)
  have noStart := absent "nbf" (by decide)
  unfold readClaims
  refine Option.bind_eq_some_iff.mpr ⟨.object written, drawn, ?_⟩
  refine Option.bind_eq_some_iff.mpr ⟨members, named, ?_⟩
  simp only [subjectOnly, scopeOnly, expiryOnly, subjectSaid, scopeSaid, expirySaid, Json.natural,
    noAudience, noIssuer, noStart]
  simp

/-! ## What an accepted token attests -/

/-- A token of three parts without further points. Its header names the one algorithm, it carries
the signature of the text before the last point, and an object of claims says who is asking and
until when, which may be past by the leeway. -/
structure Attests (settings : SigningSettings) (now : Nat) (token : List Char) (caller : Caller)
    (parts : Parts) (header : List (String × Json)) (claims : List (String × Option Json)) :
    Prop where
  segments : token = parts.header ++ '.' :: (parts.claims ++ '.' :: parts.signature)
  pointless : '.' ∉ parts.header ∧ '.' ∉ parts.claims ∧ '.' ∉ parts.signature
  content : ∃ payload, IsSigned settings parts header payload ∧
    Json.plainMembers payload = some claims
  algorithm : Names header "HS256"
  subject : Json.Sole claims "sub" (some (.string caller.subject))
  scope : Json.Sole claims "scope" (some (.string caller.scope))
  expiry : ∃ expires, Json.Sole claims "exp" (some (.natural expires)) ∧
    now - settings.leewaySeconds ≤ expires

/-- Claims that are JSON text are among those that attest somebody. -/
theorem Attests.of_text {settings : SigningSettings} {now : Nat} {token symbols : List Char}
    {caller : Caller} {parts : Parts} {header members : List (String × Json)}
    {payload : List UInt8} {expires : Nat}
    (segments : token = parts.header ++ '.' :: (parts.claims ++ '.' :: parts.signature))
    (pointless : '.' ∉ parts.header ∧ '.' ∉ parts.claims ∧ '.' ∉ parts.signature)
    (signed : IsSigned settings parts header payload) (algorithm : Names header "HS256")
    (text : Utf8.decode payload = some symbols)
    (parsed : Json.parseInOrder (String.ofList symbols) = some (.object members))
    (subject : Json.Sole members "sub" (.string caller.subject))
    (scope : Json.Sole members "scope" (.string caller.scope))
    (expiry : Json.Sole members "exp" (.natural expires))
    (timely : now - settings.leewaySeconds ≤ expires) :
    Attests settings now token caller parts header
      (members.map fun member => (member.1, member.2.plain?)) :=
  ⟨segments, pointless, ⟨payload, signed, Json.plain_members_of_text text parsed⟩, algorithm,
    subject.map_values Json.plain?, scope.map_values Json.plain?,
    expires, expiry.map_values Json.plain?, timely⟩

theorem check_eq_done {settings : SigningSettings} {now : Nat} {token : List Char}
    {claims : Claims} (started : settings.leewaySeconds ≤ now) :
    check settings now token = .done claims ↔ genuineClaims settings token = .ok claims ∧
      now - settings.leewaySeconds ≤ claims.expires ∧ claims.audience = false := by
  unfold check
  rw [Outcome.bind_eq_done]
  constructor
  · rintro ⟨own, genuine, checked⟩
    rw [Outcome.of_except_eq_done] at genuine
    rw [if_neg (Nat.not_lt.mpr started)] at checked
    by_cases late : own.expires < now - settings.leewaySeconds
    · rw [if_pos late] at checked
      cases checked
    · rw [if_neg late] at checked
      cases addressed : own.audience with
      | true =>
          rw [addressed] at checked
          cases checked
      | false =>
          rw [addressed] at checked
          cases checked
          exact ⟨genuine, Nat.not_lt.mp late, addressed⟩
  · rintro ⟨genuine, timely, nobody⟩
    refine ⟨claims, Outcome.of_except_eq_done.mpr genuine, ?_⟩
    rw [if_neg (Nat.not_lt.mpr started), if_neg (Nat.not_lt.mpr timely), nobody]
    rfl

theorem check_not_crashed {settings : SigningSettings} {now : Nat}
    (started : settings.leewaySeconds ≤ now) (token : List Char) :
    check settings now token ≠ .crashed := by
  unfold check
  rw [ne_eq, Outcome.bind_eq_crashed]
  rintro (impossible | ⟨claims, _, impossible⟩)
  · exact Outcome.of_except_not_crashed _ impossible
  · rw [if_neg (Nat.not_lt.mpr started)] at impossible
    split at impossible
    · cases impossible
    · split at impossible <;> cases impossible

theorem attested_of_checked {settings : SigningSettings} {now : Nat} {token : List Char}
    {read : Claims} (started : settings.leewaySeconds ≤ now)
    (checked : check settings now token = .done read) :
    ∃ parts header claims,
      Attests settings now token ⟨read.subject, read.scope⟩ parts header claims := by
  obtain ⟨genuine, timely, _⟩ := (check_eq_done started).mp checked
  obtain ⟨parts, header, payload, cut, signed, named, understood⟩ :=
    genuine_claims_eq_ok.mp genuine
  obtain ⟨claims, members, subject, scope, expiry⟩ := said_of_read understood
  obtain ⟨segments, clear⟩ := split_eq_some.mp cut
  obtain ⟨_, _, decoded, _⟩ := signed.header
  exact ⟨parts, header, claims, segments, ⟨Base64Url.pointless decoded, clear⟩,
    ⟨payload, signed, members⟩, names_of_algorithm named, subject, scope, read.expires, expiry,
    timely⟩

theorem checked_of_attested {settings : SigningSettings} {now : Nat} {token : List Char}
    {caller : Caller} {parts : Parts} {header : List (String × Json)}
    {claims : List (String × Option Json)} (started : settings.leewaySeconds ≤ now)
    (attests : Attests settings now token caller parts header claims)
    (plain : IsPlainHeader header) (required : ∀ entry ∈ claims, entry.1 ∈ requiredClaims) :
    ∃ expires, check settings now token = .done ⟨caller.subject, caller.scope, expires, false⟩ := by
  obtain ⟨payload, signed, members⟩ := attests.content
  obtain ⟨expires, expiry, timely⟩ := attests.expiry
  have cut : split token = some parts :=
    split_eq_some.mpr ⟨attests.segments, attests.pointless.2⟩
  have understood := read_of_said members attests.subject attests.scope expiry required
  have genuine := genuine_claims_eq_ok.mpr ⟨parts, header, payload, cut, signed,
    algorithm_of_names plain attests.algorithm, understood⟩
  exact ⟨expires, (check_eq_done started).mpr ⟨genuine, timely, rfl⟩⟩

/-- Whoever is let in by a token is attested by it. A token that attests somebody, with nothing
else in its header than a type and no other claims, lets them in. Only the empty credential is
missing; every other one that lets nobody in is refused, and the verifier itself never fails. -/
theorem token_accepted_as_attested {settings : SigningSettings} {now : Nat}
    (started : settings.leewaySeconds ≤ now) (token : String) :
    (∀ caller, verifier settings now token = .done caller →
      ∃ parts header claims, Attests settings now token.toList caller parts header claims) ∧
    (∀ caller parts header claims,
      Attests settings now token.toList caller parts header claims → IsPlainHeader header →
        (∀ entry ∈ claims, entry.1 ∈ requiredClaims) →
          verifier settings now token = .done caller) ∧
    (token = "" → verifier settings now token = .failed .missingCredential) ∧
    (token ≠ "" → (∃ caller, verifier settings now token = .done caller) ∨
      ∃ reason, verifier settings now token = .failed (.unauthorized reason)) := by
  by_cases missing : token = ""
  · subst missing
    refine ⟨?_, ?_, fun _ => rfl, fun given => absurd rfl given⟩
    · intro caller accepted
      cases accepted
    · intro caller parts header claims attests
      have written := attests.segments
      simp at written
  · have given : token.isEmpty = false := by simpa using missing
    refine ⟨?_, ?_, fun empty => absurd empty missing, fun _ => ?_⟩
    · intro caller accepted
      unfold verifier at accepted
      rw [given] at accepted
      cases checked : check settings now token.toList with
      | done read =>
          rw [checked] at accepted
          cases accepted
          exact attested_of_checked started checked
      | failed refusal =>
          rw [checked] at accepted
          cases accepted
      | crashed =>
          rw [checked] at accepted
          cases accepted
    · intro caller parts header claims attests plain required
      obtain ⟨expires, checked⟩ := checked_of_attested started attests plain required
      unfold verifier
      rw [given, checked]
      rfl
    · unfold verifier
      rw [given]
      cases checked : check settings now token.toList with
      | done read => exact .inl ⟨_, rfl⟩
      | failed refusal => exact .inr ⟨_, rfl⟩
      | crashed => exact absurd checked (check_not_crashed started _)

/-- A token is good until the leeway after its expiry is over. -/
theorem token_accepted_within_leeway :
    let settings : SigningSettings := ⟨"k", 2⟩
    let token := "eyJhbGciOiJIUzI1NiJ9.eyJzdWIiOiJ1Iiwic2NvcGUiOiJzIiwiZXhwIjo5fQ." ++
      "5naSBVX4tY8Fdml2dDOTUxSqTebNPDq-OZhO-wuZkLE"
    settings.leewaySeconds ≤ 11 ∧ verifier settings 11 token = .done ⟨"u", "s"⟩ := by
  intro settings token
  have started : settings.leewaySeconds ≤ 11 := by decide
  let parts : Parts := {
    header := "eyJhbGciOiJIUzI1NiJ9".toList
    claims := "eyJzdWIiOiJ1Iiwic2NvcGUiOiJzIiwiZXhwIjo5fQ".toList
    signature := "5naSBVX4tY8Fdml2dDOTUxSqTebNPDq-OZhO-wuZkLE".toList }
  let written := "\x7b\"alg\":\"HS256\"\x7d"
  let payload := "\x7b\"sub\":\"u\",\"scope\":\"s\",\"exp\":9\x7d"
  let header : List (String × Json) := [("alg", .string "HS256")]
  let members : List (String × Json) :=
    [("sub", .string "u"), ("scope", .string "s"), ("exp", .natural 9)]
  have signed : IsSigned settings parts header (Utf8.bytes payload) := by
    refine ⟨⟨Utf8.bytes written, written.toList, ?_, ?_, ?_⟩, ?_, ?_⟩ <;> decide +kernel
  have text : Utf8.decode (Utf8.bytes payload) = some payload.toList := by decide +kernel
  have parsed : Json.parseInOrder (String.ofList payload.toList) = some (.object members) := by
    decide +kernel
  have segments : token.toList =
      parts.header ++ '.' :: (parts.claims ++ '.' :: parts.signature) := by decide +kernel
  have attests : Attests settings 11 token.toList ⟨"u", "s"⟩ parts header _ :=
    .of_text segments (by decide +kernel) signed ⟨.string "HS256", rfl, rfl⟩ text parsed rfl rfl rfl
      (by decide)
  have plain : IsPlainHeader header := ⟨by simp [header], by decide⟩
  exact ⟨started,
    (token_accepted_as_attested started token).2.1 _ _ _ _ attests plain (by decide)⟩

/-- A type that is a number stops a token that attests somebody, and broken text in a claim that
nobody reads does not stop one. -/
theorem numeric_type_refused_broken_text_accepted :
    let settings : SigningSettings := ⟨"k", 0⟩
    let typed := "eyJhbGciOiJIUzI1NiIsInR5cCI6NX0.eyJzdWIiOiJ1Iiwic2NvcGUiOiJzIiwiZXhwIjo5fQ." ++
      "-YwlCeH-HJUK1KwxrzI8UgZ6YwsD5Joc8ub9koJZI_Y"
    let broken := "eyJhbGciOiJIUzI1NiJ9.eyJzdWIiOiJ1Iiwic2NvcGUiOiJzIiwiZXhwIjo5LCJ4Ijoi_yJ9." ++
      "mxx7EOMgBwBbb8iKHr-w2Uvq0VWZkkx3vq8VU4OfXmY"
    (∃ parts header claims, Attests settings 5 typed.toList ⟨"u", "s"⟩ parts header claims ∧
      header.map Prod.fst = ["alg", "typ"] ∧ claims.map Prod.fst = requiredClaims ∧
      verifier settings 5 typed = .failed (.unauthorized "JSON error")) ∧
    (∃ parts payload, split broken.toList = some parts ∧
      Base64Url.decode parts.claims = some payload ∧ Utf8.decode payload = none ∧
      verifier settings 5 broken = .done ⟨"u", "s"⟩) := by
  intro settings typed broken
  constructor
  · let parts : Parts := {
      header := "eyJhbGciOiJIUzI1NiIsInR5cCI6NX0".toList
      claims := "eyJzdWIiOiJ1Iiwic2NvcGUiOiJzIiwiZXhwIjo5fQ".toList
      signature := "-YwlCeH-HJUK1KwxrzI8UgZ6YwsD5Joc8ub9koJZI_Y".toList }
    let written := "\x7b\"alg\":\"HS256\",\"typ\":5\x7d"
    let payload := "\x7b\"sub\":\"u\",\"scope\":\"s\",\"exp\":9\x7d"
    let header : List (String × Json) := [("alg", .string "HS256"), ("typ", .natural 5)]
    let members : List (String × Json) :=
      [("sub", .string "u"), ("scope", .string "s"), ("exp", .natural 9)]
    have signed : IsSigned settings parts header (Utf8.bytes payload) := by
      refine ⟨⟨Utf8.bytes written, written.toList, ?_, ?_, ?_⟩, ?_, ?_⟩ <;> decide +kernel
    have text : Utf8.decode (Utf8.bytes payload) = some payload.toList := by decide +kernel
    have parsed : Json.parseInOrder (String.ofList payload.toList) = some (.object members) := by
      decide +kernel
    have segments : typed.toList =
        parts.header ++ '.' :: (parts.claims ++ '.' :: parts.signature) := by decide +kernel
    have attests : Attests settings 5 typed.toList ⟨"u", "s"⟩ parts header _ :=
      .of_text segments (by decide +kernel) signed ⟨.string "HS256", rfl, rfl⟩ text parsed rfl rfl
        rfl (by decide)
    exact ⟨parts, header, _, attests, rfl, rfl, by decide +kernel⟩
  · let parts : Parts := {
      header := "eyJhbGciOiJIUzI1NiJ9".toList
      claims := "eyJzdWIiOiJ1Iiwic2NvcGUiOiJzIiwiZXhwIjo5LCJ4Ijoi_yJ9".toList
      signature := "mxx7EOMgBwBbb8iKHr-w2Uvq0VWZkkx3vq8VU4OfXmY".toList }
    let payload := Utf8.bytes "\x7b\"sub\":\"u\",\"scope\":\"s\",\"exp\":9,\"x\":\"" ++ [0xFF] ++
      Utf8.bytes "\"\x7d"
    refine ⟨parts, payload, ?_, ?_, ?_, ?_⟩ <;> decide +kernel

end SignedToken
end GatedResources
