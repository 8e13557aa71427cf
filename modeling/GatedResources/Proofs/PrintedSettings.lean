import GatedResources.CommandLine
import GatedResources.Proofs.IndentedText
import GatedResources.Proofs.SettingsLayers
import GatedResources.Proofs.WrittenRecords

/-!
# Printed settings

Settings that are printed are read and decoded to the same settings without those for signed tokens,
which are not printed.
-/

namespace GatedResources

open Json (Reordered)

structure PoolSettings.Fits (settings : PoolSettings) : Prop where
  greatest : ∀ count ∈ settings.greatestCount, count < Nat.pow 2 32
  least : ∀ count ∈ settings.leastCount, count < Nat.pow 2 32

namespace IdentitySettings

def withoutSigning (settings : IdentitySettings) : IdentitySettings :=
  { settings with signing := none }

end IdentitySettings

namespace ServerSettings

def withoutSigning (settings : ServerSettings) : ServerSettings :=
  { settings with identity := settings.identity.withoutSigning }

end ServerSettings

/-! ## Decoding what is written -/

theorem ListenSettings.restores (settings : ListenSettings) :
    shape.decode.Restores settings.toJson settings := by
  have reads := ListenSettings.reads
  apply Shape.restores
    (.part rfl reads.1 (Decoder.text_restores _)
      (.part rfl reads.2 (Decoder.text_restores _) .none)) (by decide) rfl
  rintro ⟨_, _⟩ ⟨rfl, rfl, -⟩ -
  rfl

theorem PoolSettings.restores {settings : PoolSettings} (fits : settings.Fits) :
    shape.decode.Restores settings.toJson settings := by
  obtain ⟨greatest, least, timeout, statements⟩ := PoolSettings.reads
  have count : ∀ count : Option Nat, (∀ value ∈ count, value < Nat.pow 2 32) →
      (Decoder.optional (.unsigned 32)).Restores (Json.optionalNatural count) count := by
    intro count fits
    cases count with
    | none => exact Decoder.optional_restores_null
    | some value =>
        exact Decoder.optional_restores (Decoder.unsigned_restores (fits value rfl)) nofun
  have text : ∀ text : Option String,
      (Decoder.optional .text).Restores (Json.optionalString text) text := by
    intro text
    cases text with
    | none => exact Decoder.optional_restores_null
    | some value => exact Decoder.optional_restores (Decoder.text_restores value) nofun
  apply Shape.restores
    (.part rfl greatest (count _ fits.greatest) (.part rfl least (count _ fits.least)
      (.part rfl timeout (text _) (.part rfl statements (Decoder.flag_restores _) .none))))
    (by decide) rfl
  rintro ⟨_, _, _, _⟩ ⟨rfl, rfl, rfl, rfl, -⟩ -
  rfl

theorem DatabaseSettings.restores {settings : DatabaseSettings} (fits : settings.pool.Fits) :
    shape.decode.Restores settings.toJson settings := by
  obtain ⟨name, pool⟩ := DatabaseSettings.reads
  apply Shape.restores
    (.part rfl name (Decoder.text_restores _) (.part rfl pool (PoolSettings.restores fits) .none))
    (by decide) rfl
  rintro ⟨_, _⟩ ⟨rfl, rfl, -⟩ -
  rfl

theorem ReportSettings.restores (settings : ReportSettings) :
    shape.decode.Restores settings.toJson settings := by
  obtain ⟨level, format⟩ := ReportSettings.reads
  have known : ∀ format : ReportFormat,
      ReportFormat.decoder.Restores (.string format.name) format := by
    intro format
    cases format <;> exact Decoder.choice_restores _ rfl
  apply Shape.restores
    (.part rfl level (Decoder.text_restores _) (.part rfl format (known _) .none)) (by decide) rfl
  rintro ⟨_, _⟩ ⟨rfl, rfl, -⟩ -
  rfl

theorem Identity.restores (identity : Identity) :
    shape.decode.Restores identity.toJson identity := by
  obtain ⟨subject, scope⟩ := Identity.reads
  apply Shape.restores
    (.part rfl subject (Decoder.text_restores _)
      (.part rfl scope (Decoder.text_restores _) .none)) (by decide) rfl
  rintro ⟨_, _⟩ ⟨rfl, rfl, -⟩ -
  rfl

theorem TokenEntry.reads :
    shape.Reads "token" Decoder.text TokenEntry.token ∧
    shape.Reads "identity" Identity.shape.decode TokenEntry.identity := by
  refine ⟨?_, ?_⟩
  all_goals
    refine Shape.Attends.reads ?_ (by decide)
    repeat' constructor
  all_goals first | decide | exact fun _ _ => rfl

theorem TokenEntry.restores (entry : TokenEntry) :
    shape.decode.Restores entry.toJson entry := by
  obtain ⟨token, identity⟩ := TokenEntry.reads
  apply Shape.restores
    (.part rfl token (Decoder.text_restores _)
      (.part rfl identity (Identity.restores _) .none)) (by decide) rfl
  rintro ⟨_, _⟩ ⟨rfl, rfl, -⟩ -
  rfl

theorem IdentitySettings.restores (settings : IdentitySettings) :
    shape.decode.Restores settings.toJson settings.withoutSigning := by
  obtain ⟨mode, anonymous, tokens, signing⟩ := IdentitySettings.reads
  have known : ∀ mode : IdentityMode, IdentityMode.decoder.Restores (.string mode.name) mode := by
    intro mode
    cases mode <;> exact Decoder.choice_restores _ rfl
  have written : shape.Written settings.withoutSigning _ [("mode", .string settings.mode.name),
      ("default_identity", settings.defaultIdentity.toJson),
      ("tokens", .array (settings.tokens.map TokenEntry.toJson))] _ :=
    .part rfl mode (known _) (.part rfl anonymous (Identity.restores _)
      (.part rfl tokens (Decoder.list_restores fun entry _ => TokenEntry.restores entry) .none))
  apply Shape.restores written (by decide) rfl
  intro made agrees left
  have unsigned := left signing (by decide)
  obtain ⟨_, _, _, _⟩ := made
  obtain ⟨rfl, rfl, rfl, -⟩ := agrees
  cases unsigned
  rfl

namespace ServerSettings

variable {settings : ServerSettings}

/-- What is written for settings is decoded to them without the part that is not written. -/
theorem restores (fits : settings.database.pool.Fits) :
    shape.decode.Restores settings.toJson settings.withoutSigning := by
  obtain ⟨listen, database, reports, identity⟩ := ServerSettings.reads
  have written : shape.Written settings.withoutSigning _ [("server", settings.listen.toJson),
      ("database", settings.database.toJson), ("logging", settings.reports.toJson),
      ("auth", settings.identity.toJson)] _ :=
    .part rfl listen (ListenSettings.restores _) (.part rfl database
      (DatabaseSettings.restores fits) (.part rfl reports (ReportSettings.restores _)
        (.part rfl identity (IdentitySettings.restores _) .none)))
  apply Shape.restores written (by decide) rfl
  rintro ⟨_, _, _, _⟩ ⟨rfl, rfl, rfl, rfl, -⟩ -
  rfl

end ServerSettings

/-! ## What has been decoded fits -/

theorem Decoder.unsigned_fits {bits count : Nat} {dialect : Dialect} {value : Json}
    (decoded : Decoder.unsigned bits dialect value = .ok count) : count < Nat.pow 2 bits := by
  obtain ⟨number, within, made⟩ := except_bind_eq_ok.mp decoded
  cases made
  cases value with
  | number own =>
      unfold integerWithin at within
      dsimp only at within
      split at within
      · split at within
        · next bounds =>
            cases within
            omega
        · cases within
      · cases within
  | null | bool _ | string _ | array _ | object _ => cases within

theorem Decoder.optional_unsigned_fits {bits : Nat} {dialect : Dialect} {value : Json}
    {count : Option Nat} (decoded : Decoder.optional (.unsigned bits) dialect value = .ok count) :
    ∀ own ∈ count, own < Nat.pow 2 bits := by
  intro own inside
  rcases optional_cases decoded with ⟨-, rfl⟩ | ⟨record, read, rfl⟩
  · cases inside
  · cases inside
    exact unsigned_fits read

theorem PoolSettings.initial_fits : initial.Fits :=
  ⟨nofun, nofun⟩

theorem PoolSettings.decode_fits {dialect : Dialect} {value : Json} {settings : PoolSettings}
    (decoded : shape.decode dialect value = .ok settings) : settings.Fits := by
  apply Shape.decode_keeps Fits initial_fits ?_ decoded
  intro known inside value before after read fits
  simp only [shape, List.mem_cons, List.not_mem_nil, or_false] at inside
  rcases inside with rfl | rfl | rfl | rfl
  all_goals
    obtain ⟨part, own, rfl⟩ := Member.read_eq_ok.mp read
  · exact ⟨Decoder.optional_unsigned_fits own, fits.least⟩
  · exact ⟨fits.greatest, Decoder.optional_unsigned_fits own⟩
  · exact ⟨fits.greatest, fits.least⟩
  · exact ⟨fits.greatest, fits.least⟩

theorem DatabaseSettings.decode_fits {dialect : Dialect} {value : Json}
    {settings : DatabaseSettings} (decoded : shape.decode dialect value = .ok settings) :
    settings.pool.Fits := by
  apply Shape.decode_keeps (fun settings => settings.pool.Fits) PoolSettings.initial_fits ?_ decoded
  intro known inside value before after read fits
  simp only [shape, List.mem_cons, List.not_mem_nil, or_false] at inside
  rcases inside with rfl | rfl
  all_goals
    obtain ⟨part, own, rfl⟩ := Member.read_eq_ok.mp read
  · exact fits
  · exact PoolSettings.decode_fits own

namespace ServerSettings

theorem decode_fits {dialect : Dialect} {value : Json}
    (decoded : shape.decode dialect value = .ok settings) : settings.database.pool.Fits := by
  apply Shape.decode_keeps (fun settings => settings.database.pool.Fits)
    PoolSettings.initial_fits ?_ decoded
  intro known inside value before after read fits
  simp only [shape, List.mem_cons, List.not_mem_nil, or_false] at inside
  rcases inside with rfl | rfl | rfl | rfl
  all_goals
    obtain ⟨part, own, rfl⟩ := Member.read_eq_ok.mp read
  · exact fits
  · exact DatabaseSettings.decode_fits own
  · exact fits
  · exact fits

theorem loaded_fits {file : Option SettingsFile} {entries : List (String × String)}
    (loaded : load file entries = .done settings) : settings.database.pool.Fits := by
  obtain ⟨tree, environment, -, -, decoded⟩ := load_done loaded
  exact decode_fits decoded

end ServerSettings

/-! ## The text of settings -/

namespace Json

theorem optional_natural_whole {count : Option Nat}
    (fits : ∀ own ∈ count, own < Nat.pow 2 32) : (optionalNatural count).HasWholeNumbers := by
  cases count with
  | none => trivial
  | some own =>
      have below : own < Nat.pow 2 64 := Nat.lt_trans (fits own rfl) (by decide)
      refine ⟨own, rfl, ?_, Int.ofNat_lt.mpr below⟩
      exact Int.le_trans (by decide) (Int.natCast_nonneg own)

end Json

/-- Tokens hold no numbers, stand two objects deep, and have no key twice. -/
theorem TokenEntry.written_shape (tokens : List TokenEntry) :
    Json.ElementsHaveWholeNumbers (tokens.map toJson) ∧
      Json.elementsNesting (tokens.map toJson) ≤ 2 ∧
      Json.ElementsHaveDistinctKeys (tokens.map toJson) := by
  induction tokens with
  | nil => exact ⟨trivial, Nat.zero_le _, trivial⟩
  | cons entry rest claim =>
      obtain ⟨whole, shallow, distinct⟩ := claim
      have own : entry.toJson.HasDistinctKeys := by
        refine ⟨?_, trivial, ⟨?_, trivial, trivial, trivial⟩, trivial⟩
        · change ["token", "identity"].Nodup
          decide
        · change ["subject", "scope"].Nodup
          decide
      exact ⟨⟨⟨trivial, ⟨trivial, trivial, trivial⟩, trivial⟩, whole⟩,
        Nat.max_le.mpr ⟨Nat.le_refl 2, shallow⟩, own, distinct⟩

namespace ServerSettings

variable {settings : ServerSettings}

theorem json_whole (fits : settings.database.pool.Fits) : settings.toJson.HasWholeNumbers := by
  have greatest := Json.optional_natural_whole fits.greatest
  have least := Json.optional_natural_whole fits.least
  have timeout : (Json.optionalString settings.database.pool.acquireTimeout).HasWholeNumbers := by
    cases settings.database.pool.acquireTimeout <;> trivial
  have tokens := (TokenEntry.written_shape settings.identity.tokens).1
  exact ⟨⟨trivial, trivial, trivial⟩,
    ⟨trivial, ⟨greatest, least, timeout, trivial, trivial⟩, trivial⟩,
    ⟨trivial, trivial, trivial⟩,
    ⟨trivial, ⟨trivial, trivial, trivial⟩, tokens, trivial⟩, trivial⟩

theorem json_shallow (settings : ServerSettings) :
    settings.toJson.nesting ≤ Json.greatestDepth := by
  have tokens := (TokenEntry.written_shape settings.identity.tokens).2.1
  have count : ∀ count, (Json.optionalNatural count).nesting = 0 := by
    intro count
    cases count <;> rfl
  have text : ∀ text, (Json.optionalString text).nesting = 0 := by
    intro text
    cases text <;> rfl
  simp only [toJson, ListenSettings.toJson, DatabaseSettings.toJson, PoolSettings.toJson,
    ReportSettings.toJson, IdentitySettings.toJson, Identity.toJson, Json.nesting,
    Json.membersNesting, count, text, Json.greatestDepth]
  omega

theorem json_distinct (settings : ServerSettings) : settings.toJson.HasDistinctKeys := by
  have tokens := (TokenEntry.written_shape settings.identity.tokens).2.2
  have count : ∀ count, (Json.optionalNatural count).HasDistinctKeys := by
    intro count
    cases count <;> trivial
  have text : ∀ text, (Json.optionalString text).HasDistinctKeys := by
    intro text
    cases text <;> trivial
  simp [toJson, ListenSettings.toJson, DatabaseSettings.toJson, PoolSettings.toJson,
    ReportSettings.toJson, IdentitySettings.toJson, Identity.toJson, Json.HasDistinctKeys,
    Json.MembersHaveDistinctKeys, count, text, tokens]

/-- Printed settings have the keys of the initial ones. -/
theorem aligned_printed (settings : ServerSettings) :
    Json.Aligned initial.toJson settings.toJson := by
  have text : ∀ lower text, Json.Aligned lower (.string text) := fun _ _ => .replaced nofun
  have natural : ∀ lower count, Json.Aligned lower (Json.optionalNatural count) := by
    intro lower count
    cases count <;> exact .replaced nofun
  have optional : ∀ lower text, Json.Aligned lower (Json.optionalString text) := by
    intro lower text
    cases text <;> exact .replaced nofun
  have listen : Json.Aligned initial.listen.toJson settings.listen.toJson :=
    .object (.cons (text _ _) (.cons (text _ _) .nil))
  have pool : Json.Aligned initial.database.pool.toJson settings.database.pool.toJson :=
    .object (.cons (natural _ _) (.cons (natural _ _) (.cons (optional _ _)
      (.cons (.replaced nofun) .nil))))
  have database : Json.Aligned initial.database.toJson settings.database.toJson :=
    .object (.cons (text _ _) (.cons pool .nil))
  have reports : Json.Aligned initial.reports.toJson settings.reports.toJson :=
    .object (.cons (text _ _) (.cons (text _ _) .nil))
  have anonymous : Json.Aligned initial.identity.defaultIdentity.toJson
      settings.identity.defaultIdentity.toJson :=
    .object (.cons (text _ _) (.cons (text _ _) .nil))
  have identity : Json.Aligned initial.identity.toJson settings.identity.toJson :=
    .object (.cons (text _ _) (.cons anonymous (.cons (.replaced nofun) .nil)))
  exact .object (.cons listen (.cons database (.cons reports (.cons identity .nil))))

/-- Printed settings take the place of all initial ones. -/
theorem merged_printed (settings : ServerSettings) :
    merged settings.toJson.sorted (.object []) = settings.toJson.sorted := by
  have placed := Json.overlay_aligned (Json.aligned_sorted (aligned_printed settings))
    (Json.sorted_has_ascending_keys _)
  rw [merged, placed]
  rfl

/-- A file with printed settings is loaded to them. -/
theorem load_printed (fits : settings.database.pool.Fits) (name : String) :
    load (some ⟨name, .tree settings.toJson.sorted⟩) [] = .done settings.withoutSigning := by
  have decoded := restores fits .settings _ (Json.reordered_of_sorted _ (json_distinct settings))
  have merged : decodeMerged settings.toJson.sorted (.object []) = .ok settings.withoutSigning := by
    rw [decodeMerged, merged_printed, decoded]
  have opened : fileTree (some ⟨name, .tree settings.toJson.sorted⟩) =
      .ok settings.toJson.sorted := rfl
  change Outcome.ofExcept (fileTree (some ⟨name, .tree settings.toJson.sorted⟩) >>=
    fun tree => decodeMerged tree (.object [])) = _
  rw [opened]
  change Outcome.ofExcept (decodeMerged settings.toJson.sorted (.object [])) = _
  rw [merged]
  rfl

/-- Printed settings are faithful, and keep the secret: whatever order the members of their objects
are brought into, they are decoded to the same settings without those for signed tokens, and both
their texts are read back as they are. Settings that differ only in the ones for signed tokens are
printed alike. -/
theorem printed_faithfully (fits : settings.database.pool.Fits) :
    (∀ dialect written, Reordered settings.toJson written →
      shape.decode dialect written = .ok settings.withoutSigning) ∧
    Json.parseInOrder settings.toJson.compact = some settings.toJson ∧
    Json.parseInOrder (settings.toJson.indented ++ "\n") = some settings.toJson ∧
    (∀ name, load (some ⟨name, .tree settings.toJson.sorted⟩) [] = .done settings.withoutSigning) ∧
    ∀ other : ServerSettings, other.withoutSigning = settings.withoutSigning →
      other.toJson = settings.toJson := by
  have whole := json_whole fits
  have shallow := json_shallow settings
  refine ⟨restores fits, Json.parse_compact_in_order whole shallow,
    Json.parse_indented_in_order whole shallow Json.line_end_gap, load_printed fits, ?_⟩
  intro other same
  have printed : ∀ given : ServerSettings, given.withoutSigning.toJson = given.toJson :=
    fun _ => rfl
  rw [← printed other, same, printed]

def secretSettings : ServerSettings :=
  { initial with
    database := ⟨"sqlite::memory:", ⟨some 4294967295, none, some "5s", true⟩⟩
    identity := ⟨.signedTokens, ⟨"\t", "CLIENT"⟩, [⟨"a \"b\"", ⟨"alice", "ADMIN"⟩⟩],
      some ⟨"s3cr3t", 60⟩⟩ }

def otherSecret : ServerSettings :=
  { secretSettings with
    identity := { secretSettings.identity with signing := some ⟨"hunter2", 30⟩ } }

theorem secret_settings_printed :
    secretSettings.database.pool.Fits ∧
    shape.decode .request secretSettings.toJson.sorted = .ok secretSettings.withoutSigning ∧
    Json.parseInOrder (secretSettings.toJson.indented ++ "\n") = some secretSettings.toJson ∧
    load (some ⟨"crudkit.yaml", .tree secretSettings.toJson.sorted⟩) [] =
      .done secretSettings.withoutSigning ∧
    otherSecret.withoutSigning = secretSettings.withoutSigning ∧ otherSecret ≠ secretSettings ∧
    otherSecret.toJson = secretSettings.toJson := by
  have fits : secretSettings.database.pool.Fits := by
    refine ⟨?_, nofun⟩
    rintro count ⟨⟩
    decide
  have same : otherSecret.withoutSigning = secretSettings.withoutSigning := rfl
  obtain ⟨decoded, -, read, opened, kept⟩ := printed_faithfully fits
  exact ⟨fits, decoded .request _ (Json.reordered_of_sorted _ (json_distinct _)), read,
    opened "crudkit.yaml", same, by decide, kept otherSecret same⟩

/-- A run that is asked for its settings prints a text that is decoded to them. -/
theorem run_prints_settings {surroundings : Surroundings} {invocation : Invocation}
    (loaded : CommandLine.settings surroundings invocation = .done settings)
    (asked : invocation.printSettings = true) : ∃ text,
      CommandLine.execute surroundings invocation = .exit ⟨0, text, some ""⟩ ∧
      (Json.parseInOrder text).map (shape.decode .request) =
        some (.ok settings.withoutSigning) := by
  have fits : settings.database.pool.Fits := by
    unfold CommandLine.settings at loaded
    dsimp only at loaded
    split at loaded
    · next own made =>
        cases loaded
        exact loaded_fits made
    · cases loaded
    · cases loaded
  refine ⟨settings.toJson.indented ++ "\n", ?_, ?_⟩
  · rw [CommandLine.execute, loaded]
    exact if_pos asked
  · have decoded := restores fits .request _ (Json.reordered_itself settings.toJson)
    rw [Json.parse_indented_in_order (json_whole fits) (json_shallow settings)
      Json.line_end_gap,
      Option.map_some, decoded]

end ServerSettings
end GatedResources
