import GatedResources.Proofs.ParsedText
import GatedResources.Proofs.SettingsLayers

/-!
# Settings that are texts

A variable for a setting that is a text is read as a value in one line first. The setting is the
text of the variable only if that text stands for itself. It is another text where the variable
writes one for it, and a variable that is written for anything but a text keeps the server from
starting. Still every text can be set.
-/

namespace GatedResources

/-- A single setting that is a text: where it stands in a file and where it is kept. -/
structure TextSetting where
  path : List String
  put : String -> ServerSettings -> ServerSettings

namespace TextSetting

def subject : TextSetting :=
  ⟨["auth", "default_identity", "subject"], fun text settings =>
    { settings with identity := { settings.identity with
      defaultIdentity := { settings.identity.defaultIdentity with subject := text } } }⟩

def all : List TextSetting := [
  ⟨["server", "bind_addr"], fun text settings =>
    { settings with listen := { settings.listen with bindAddress := text } }⟩,
  ⟨["server", "graph_path"], fun text settings =>
    { settings with listen := { settings.listen with graphPath := text } }⟩,
  ⟨["database", "dsn"], fun text settings =>
    { settings with database := { settings.database with name := text } }⟩,
  ⟨["logging", "level"], fun text settings =>
    { settings with reports := { settings.reports with level := text } }⟩,
  subject,
  ⟨["auth", "default_identity", "scope"], fun text settings =>
    { settings with identity := { settings.identity with
      defaultIdentity := { settings.identity.defaultIdentity with scope := text } } }⟩]

/-- What comes of a value for the setting: all other settings are initial ones, or the value is
refused for what it is. -/
def received (setting : TextSetting) : Json -> Outcome LoadError ServerSettings
  | .string text => .done (setting.put text ServerSettings.initial)
  | value => .failed (.refused .environment
      ⟨setting.path, .wrongType (Found.of value) "a string"⟩)

variable {setting : TextSetting} {text other : String} {value : Json}

theorem received_sorted (setting : TextSetting) (value : Json) :
    setting.received value.sorted = setting.received value := by
  cases value <;> rfl

theorem put_injective (inside : setting ∈ all) {settings : ServerSettings}
    (same : setting.put text settings = setting.put other settings) : text = other := by
  simp only [all, List.mem_cons, List.not_mem_nil, or_false] at inside
  rcases inside with rfl | rfl | rfl | rfl | rfl | rfl
  · exact congrArg (fun settings => settings.listen.bindAddress) same
  · exact congrArg (fun settings => settings.listen.graphPath) same
  · exact congrArg (fun settings => settings.database.name) same
  · exact congrArg (fun settings => settings.reports.level) same
  · exact congrArg (fun settings => settings.identity.defaultIdentity.subject) same
  · exact congrArg (fun settings => settings.identity.defaultIdentity.scope) same

/-- Only a text for the setting is taken. -/
theorem received_eq_done (inside : setting ∈ all) :
    setting.received value = .done (setting.put text ServerSettings.initial) ↔
      value = .string text := by
  constructor
  · intro taken
    cases value with
    | string own => rw [put_injective inside (Outcome.done.inj taken)]
    | null | bool _ | number _ | array _ | object _ => cases taken
  · rintro rfl
    rfl

/-- A value for the setting alone, over the initial settings. -/
theorem decode_received (inside : setting ∈ all) (value : Json) :
    .ofExcept (ServerSettings.decodeMerged (.object []) (Json.nest setting.path value)) =
      setting.received value := by
  simp only [all, List.mem_cons, List.not_mem_nil, or_false] at inside
  rcases inside with rfl | rfl | rfl | rfl | rfl | rfl
  all_goals cases value <;> rfl

end TextSetting

namespace Environment

variable {entries : List (String × String)} {path : List String} {text : String}

def named (entries : List (String × String)) : List (List String × String) :=
  entries.filterMap fun entry => (keys? entry.1).map fun keys => (keys, entry.2)

def SetsOnly (entries : List (String × String)) (path : List String) (text : String) : Prop :=
  named entries = [(path, text)]

instance (entries : List (String × String)) (path : List String) (text : String) :
    Decidable (SetsOnly entries path text) :=
  inferInstanceAs (Decidable (named entries = [(path, text)]))

/-- Variables that are no settings are passed over. -/
theorem settings_named (entries : List (String × String)) (tree : Json) :
    entries.foldlM apply tree = (named entries).foldlM
      (fun tree entry => (InlineValue.parse entry.2).map fun value =>
        tree.overlay (Json.nest entry.1 value)) tree := by
  induction entries generalizing tree with
  | nil => rfl
  | cons entry entries claim =>
      rw [List.foldlM_cons, apply]
      cases own : keys? entry.1 with
      | none =>
          have skipped : named (entry :: entries) = named entries := by simp [named, own]
          rw [skipped]
          exact claim tree
      | some keys =>
          have first : named (entry :: entries) = (keys, entry.2) :: named entries := by
            simp [named, own]
          rw [first, List.foldlM_cons]
          cases InlineValue.parse entry.2 with
          | none => rfl
          | some value => exact claim _

theorem settings_only (only : SetsOnly entries path text) :
    settings entries = (InlineValue.parse text).map (Json.nest path) := by
  rw [settings, settings_named, only]
  cases read : InlineValue.parse text with
  | none => simp [read]
  | some value =>
      have ascending :=
        Json.nest_has_ascending_keys (InlineValue.parse_has_ascending_keys read) path
      have nothing : (Json.object []).fields = [] := rfl
      have alone := Json.overlay_on_scalar nothing ascending
      simp [read, alone]

end Environment

namespace ServerSettings

open InlineValue (Says Breaks Keeps spelled)

variable {setting : TextSetting} {entries : List (String × String)} {text : String}

theorem load_only (inside : setting ∈ TextSetting.all)
    (only : Environment.SetsOnly entries setting.path text) :
    load none entries = match InlineValue.parse text with
      | some value => setting.received value
      | none => .crashed := by
  have tree := Environment.settings_only only
  unfold load
  rw [tree]
  cases InlineValue.parse text with
  | none => rfl
  | some value => exact TextSetting.decode_received inside value

/-- The server crashes over a variable for a text exactly if its text breaks the reader. -/
theorem load_crashes_over_text (inside : setting ∈ TextSetting.all)
    (only : Environment.SetsOnly entries setting.path text) :
    load none entries = .crashed ↔ Breaks text.toList := by
  rw [load_only inside only, ← InlineValue.parse_eq_none]
  cases InlineValue.parse text with
  | none => simp
  | some value => cases value <;> simp [TextSetting.received]

/-- Without a file and with a variable for one text alone, that setting is the text of the variable
exactly if the text stands for itself. A variable that is written for a value is received as that
value, so that only texts are taken. For every text there is something to write. -/
theorem texts_received (inside : setting ∈ TextSetting.all) :
    (∀ entries text, Environment.SetsOnly entries setting.path text →
      (∀ value, Says value text.toList → load none entries = setting.received value) ∧
      (load none entries = .done (setting.put text initial) ↔ Keeps text)) ∧
    ∀ other entries, Environment.SetsOnly entries setting.path (spelled other) →
      load none entries = .done (setting.put other initial) := by
  have said : ∀ entries text, Environment.SetsOnly entries setting.path text →
      ∀ value, Says value text.toList → load none entries = setting.received value := by
    intro entries text only value told
    rw [load_only inside only, InlineValue.parse_said told]
    exact TextSetting.received_sorted setting value
  refine ⟨fun entries text only => ⟨said entries text only, ?_⟩, ?_⟩
  · rw [load_only inside only, ← InlineValue.parse_eq_own]
    cases InlineValue.parse text with
    | none => simp
    | some value => exact (TextSetting.received_eq_done inside).trans Option.some_inj.symm
  · intro other entries only
    exact said entries _ only (.string other) (InlineValue.said_spelled other)

def subjectVariables (text : String) : List (String × String) :=
  [("PATH", "/bin"), ("CRUDKIT__AUTH__DEFAULT_IDENTITY__SUBJECT", text)]

theorem subject_received :
    TextSetting.subject ∈ TextSetting.all ∧
    (Environment.SetsOnly (subjectVariables "alice") TextSetting.subject.path "alice" ∧
      load none (subjectVariables "alice") =
        .done (TextSetting.subject.put "alice" initial)) ∧
    (Environment.SetsOnly (subjectVariables "[alice]") TextSetting.subject.path "[alice]" ∧
      Says (.array [.string "alice"]) "[alice]".toList ∧
      load none (subjectVariables "[alice]") =
        .failed (.refused .environment
          ⟨["auth", "default_identity", "subject"], .wrongType .sequence "a string"⟩)) ∧
    Environment.SetsOnly (subjectVariables (spelled "[alice]")) TextSetting.subject.path
      (spelled "[alice]") ∧
    load none (subjectVariables (spelled "[alice]")) =
      .done (TextSetting.subject.put "[alice]" initial) := by
  have inside : TextSetting.subject ∈ TextSetting.all := by simp [TextSetting.all]
  have plain : Environment.SetsOnly (subjectVariables "alice") TextSetting.subject.path
      "alice" := by decide +kernel
  have listed : Environment.SetsOnly (subjectVariables "[alice]") TextSetting.subject.path
      "[alice]" := by decide +kernel
  have quoted : Environment.SetsOnly (subjectVariables (spelled "[alice]"))
      TextSetting.subject.path (spelled "[alice]") := by decide +kernel
  have keeps : Keeps "alice" := .inl (by decide +kernel)
  have element : Says (.string "alice") "alice".toList := InlineValue.said_own_iff.mpr
    (by decide +kernel)
  have written : Says (.array [.string "alice"]) "[alice]".toList :=
    ⟨"alice".toList, ⟨"alice".toList, element, .inl ⟨rfl, by decide, rfl⟩⟩,
      [], [], nofun, nofun, by decide⟩
  obtain ⟨received, spellings⟩ := texts_received inside
  exact ⟨inside, ⟨plain, (received _ _ plain).2.mpr keeps⟩,
    ⟨listed, written, (received _ _ listed).1 _ written⟩, quoted, spellings _ _ quoted⟩

/-- A text that reads as a number is refused. Blanks around a text are left out of it. -/
theorem texts_not_kept :
    TextSetting.subject ∈ TextSetting.all ∧
    (Environment.SetsOnly [("CRUDKIT__AUTH__DEFAULT_IDENTITY__SUBJECT", "42")]
        TextSetting.subject.path "42" ∧
      load none [("CRUDKIT__AUTH__DEFAULT_IDENTITY__SUBJECT", "42")] =
        .failed (.refused .environment
          ⟨["auth", "default_identity", "subject"], .wrongType (.integer 42) "a string"⟩) ∧
      load none [("CRUDKIT__AUTH__DEFAULT_IDENTITY__SUBJECT", "42")] ≠
        .done (TextSetting.subject.put "42" initial)) ∧
    Environment.SetsOnly [("CRUDKIT__AUTH__DEFAULT_IDENTITY__SUBJECT", " a")]
      TextSetting.subject.path " a" ∧
    load none [("CRUDKIT__AUTH__DEFAULT_IDENTITY__SUBJECT", " a")] =
      .done (TextSetting.subject.put "a" initial) ∧
    load none [("CRUDKIT__AUTH__DEFAULT_IDENTITY__SUBJECT", " a")] ≠
      .done (TextSetting.subject.put " a" initial) := by
  refine ⟨by simp [TextSetting.all], ?_⟩
  decide +kernel

end ServerSettings
end GatedResources
