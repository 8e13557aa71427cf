import GatedResources.Proofs.EnvironmentLayer
import GatedResources.Proofs.NestedRecords
import GatedResources.Settings.Load
import Mathlib.Data.List.Infix

/-!
# Settings in layers

Every single setting that a server is started with comes from the last variable that names it, else
from the file, else it is the initial one, whatever is said of the settings beside it. A key that is
no setting keeps the server from starting, in the file and in the environment.
-/

namespace GatedResources

/-- A single setting: where it stands in a file, how it is decoded, where it is kept, and what it is
where nothing is said of it. -/
structure Leaf where
  Value : Type
  path : List String
  decoder : Decoder Value
  of : ServerSettings -> Value
  otherwise : ServerSettings -> Value

/-- Settings that stand together: where, and under which names. -/
structure Branch where
  path : List String
  names : List String

namespace Leaf

/-- All single settings. The list of tokens is one of them. Without a secret there are no settings
for signed tokens. -/
def all : List Leaf := [
  ⟨String, ["server", "bind_addr"], Decoder.text,
    fun settings => settings.listen.bindAddress, fun _ => "127.0.0.1:8087"⟩,
  ⟨String, ["server", "graph_path"], Decoder.text,
    fun settings => settings.listen.graphPath, fun _ => "/graphql"⟩,
  ⟨String, ["database", "dsn"], Decoder.text,
    fun settings => settings.database.name, fun _ => "sqlite::memory:"⟩,
  ⟨Option Nat, ["database", "pool", "max_conns"], Decoder.optional (Decoder.unsigned 32),
    fun settings => settings.database.pool.greatestCount, fun _ => none⟩,
  ⟨Option Nat, ["database", "pool", "min_conns"], Decoder.optional (Decoder.unsigned 32),
    fun settings => settings.database.pool.leastCount, fun _ => none⟩,
  ⟨Option String, ["database", "pool", "acquire_timeout"], Decoder.optional Decoder.text,
    fun settings => settings.database.pool.acquireTimeout, fun _ => none⟩,
  ⟨Bool, ["database", "pool", "sqlx_logging"], Decoder.flag,
    fun settings => settings.database.pool.statementReports, fun _ => false⟩,
  ⟨String, ["logging", "level"], Decoder.text,
    fun settings => settings.reports.level, fun _ => "info"⟩,
  ⟨ReportFormat, ["logging", "format"], ReportFormat.decoder,
    fun settings => settings.reports.format, fun _ => .text⟩,
  ⟨IdentityMode, ["auth", "mode"], IdentityMode.decoder,
    fun settings => settings.identity.mode, fun _ => .staticTokens⟩,
  ⟨String, ["auth", "default_identity", "subject"], Decoder.text,
    fun settings => settings.identity.defaultIdentity.subject, fun _ => "anonymous"⟩,
  ⟨String, ["auth", "default_identity", "scope"], Decoder.text,
    fun settings => settings.identity.defaultIdentity.scope, fun _ => "CLIENT"⟩,
  ⟨List TokenEntry, ["auth", "tokens"], Decoder.list TokenEntry.shape.decode,
    fun settings => settings.identity.tokens, fun _ => []⟩,
  ⟨Option String, ["auth", "jwt", "secret"], Decoder.text.mapped some,
    fun settings => settings.identity.signing.map SigningSettings.secret, fun _ => none⟩,
  ⟨Option Nat, ["auth", "jwt", "leeway_secs"], (Decoder.unsigned 64).mapped some,
    fun settings => settings.identity.signing.map SigningSettings.leewaySeconds,
    fun settings => settings.identity.signing.map fun _ => 30⟩]

/-- The settings that are one of several names, which can also be written as the key of a null. -/
def choices : List (List String) := [["logging", "format"], ["auth", "mode"]]

end Leaf

namespace Branch

def sections : List Branch := [
  ⟨["server"], ["bind_addr", "graph_path"]⟩,
  ⟨["database"], ["dsn", "pool"]⟩,
  ⟨["database", "pool"], ["max_conns", "min_conns", "acquire_timeout", "sqlx_logging"]⟩,
  ⟨["logging"], ["level", "format"]⟩,
  ⟨["auth"], ["mode", "default_identity", "tokens", "jwt"]⟩,
  ⟨["auth", "default_identity"], ["subject", "scope"]⟩,
  ⟨["auth", "jwt"], ["secret", "leeway_secs"]⟩]

def all : List Branch :=
  ⟨[], ["server", "database", "logging", "auth"]⟩ :: sections

end Branch

/-! ## Which member decodes which settings -/

theorem ListenSettings.reads :
    shape.Reads "bind_addr" Decoder.text ListenSettings.bindAddress ∧
    shape.Reads "graph_path" Decoder.text ListenSettings.graphPath := by
  refine ⟨?_, ?_⟩
  all_goals
    refine Shape.Attends.reads ?_ (by decide)
    repeat' constructor
  all_goals first | decide | exact fun _ _ => rfl

theorem PoolSettings.reads :
    shape.Reads "max_conns" (.optional (.unsigned 32)) PoolSettings.greatestCount ∧
    shape.Reads "min_conns" (.optional (.unsigned 32)) PoolSettings.leastCount ∧
    shape.Reads "acquire_timeout" (.optional .text) PoolSettings.acquireTimeout ∧
    shape.Reads "sqlx_logging" .flag PoolSettings.statementReports := by
  refine ⟨?_, ?_, ?_, ?_⟩
  all_goals
    refine Shape.Attends.reads ?_ (by decide)
    repeat' constructor
  all_goals first | decide | exact fun _ _ => rfl

theorem DatabaseSettings.reads :
    shape.Reads "dsn" Decoder.text DatabaseSettings.name ∧
    shape.Reads "pool" PoolSettings.shape.decode DatabaseSettings.pool := by
  refine ⟨?_, ?_⟩
  all_goals
    refine Shape.Attends.reads ?_ (by decide)
    repeat' constructor
  all_goals first | decide | exact fun _ _ => rfl

theorem ReportSettings.reads :
    shape.Reads "level" Decoder.text ReportSettings.level ∧
    shape.Reads "format" ReportFormat.decoder ReportSettings.format := by
  refine ⟨?_, ?_⟩
  all_goals
    refine Shape.Attends.reads ?_ (by decide)
    repeat' constructor
  all_goals first | decide | exact fun _ _ => rfl

theorem Identity.reads :
    shape.Reads "subject" Decoder.text Identity.subject ∧
    shape.Reads "scope" Decoder.text Identity.scope := by
  refine ⟨?_, ?_⟩
  all_goals
    refine Shape.Attends.reads ?_ (by decide)
    repeat' constructor
  all_goals first | decide | exact fun _ _ => rfl

theorem SigningSettings.reads :
    shape.Reads "secret" Decoder.text SigningSettings.secret ∧
    shape.Reads "leeway_secs" (.unsigned 64) SigningSettings.leewaySeconds := by
  refine ⟨?_, ?_⟩
  all_goals
    refine Shape.Attends.reads ?_ (by decide)
    repeat' constructor
  all_goals first | decide | exact fun _ _ => rfl

theorem IdentitySettings.reads :
    shape.Reads "mode" IdentityMode.decoder IdentitySettings.mode ∧
    shape.Reads "default_identity" Identity.shape.decode IdentitySettings.defaultIdentity ∧
    shape.Reads "tokens" (.list TokenEntry.shape.decode) IdentitySettings.tokens ∧
    shape.Reads "jwt" (.optional SigningSettings.shape.decode) IdentitySettings.signing := by
  refine ⟨?_, ?_, ?_, ?_⟩
  all_goals
    refine Shape.Attends.reads ?_ (by decide)
    repeat' constructor
  all_goals first | decide | exact fun _ _ => rfl

theorem ServerSettings.reads :
    shape.Reads "server" ListenSettings.shape.decode ServerSettings.listen ∧
    shape.Reads "database" DatabaseSettings.shape.decode ServerSettings.database ∧
    shape.Reads "logging" ReportSettings.shape.decode ServerSettings.reports ∧
    shape.Reads "auth" IdentitySettings.shape.decode ServerSettings.identity := by
  refine ⟨?_, ?_, ?_, ?_⟩
  all_goals
    refine Shape.Attends.reads ?_ (by decide)
    repeat' constructor
  all_goals first | decide | exact fun _ _ => rfl

namespace Leaf

open Shape Decoder

/-- Every single setting is decoded from what stands at its path. -/
theorem all_find : ∀ leaf ∈ all,
    ServerSettings.shape.decode.Finds leaf.path leaf.decoder leaf.of leaf.otherwise := by
  obtain ⟨listen, database, reports, identity⟩ := ServerSettings.reads
  obtain ⟨address, graph⟩ := ListenSettings.reads
  obtain ⟨name, pool⟩ := DatabaseSettings.reads
  obtain ⟨greatest, least, timeout, statements⟩ := PoolSettings.reads
  obtain ⟨level, format⟩ := ReportSettings.reads
  obtain ⟨mode, anonymous, tokens, signing⟩ := IdentitySettings.reads
  obtain ⟨subject, scope⟩ := Identity.reads
  obtain ⟨secret, leeway⟩ := SigningSettings.reads
  have addressFound := finds_member listen
    (finds_member address (finds_itself fun _ => "127.0.0.1:8087") rfl) rfl
  have graphFound := finds_member listen
    (finds_member graph (finds_itself fun _ => "/graphql") rfl) rfl
  have nameFound := finds_member database
    (finds_member name (finds_itself fun _ => "sqlite::memory:") rfl) rfl
  have greatestFound := finds_member database
    (finds_member pool (finds_member greatest (finds_itself fun _ => none) rfl) rfl) rfl
  have leastFound := finds_member database
    (finds_member pool (finds_member least (finds_itself fun _ => none) rfl) rfl) rfl
  have timeoutFound := finds_member database
    (finds_member pool (finds_member timeout (finds_itself fun _ => none) rfl) rfl) rfl
  have statementsFound := finds_member database
    (finds_member pool (finds_member statements (finds_itself fun _ => false) rfl) rfl) rfl
  have levelFound := finds_member reports
    (finds_member level (finds_itself fun _ => "info") rfl) rfl
  have formatFound := finds_member reports
    (finds_member format (finds_itself fun _ => .text) rfl) rfl
  have modeFound := finds_member identity
    (finds_member mode (finds_itself fun _ => .staticTokens) rfl) rfl
  have subjectFound := finds_member identity
    (finds_member anonymous (finds_member subject (finds_itself fun _ => "anonymous") rfl) rfl) rfl
  have scopeFound := finds_member identity
    (finds_member anonymous (finds_member scope (finds_itself fun _ => "CLIENT") rfl) rfl) rfl
  have tokensFound := finds_member identity
    (finds_member tokens (finds_itself fun _ => []) rfl) rfl
  have secretOwn := finds_required (fun _ => none) secret (finds_mapped some some)
    ⟨_, List.mem_cons_self, rfl, rfl⟩
  have secretFound := finds_member identity (finds_member signing
    (finds_optional (Option.map SigningSettings.secret) (fun _ => none) secretOwn rfl) rfl) rfl
  have leewayOwn := finds_member leeway (finds_mapped some fun _ => some 30) rfl
  have leewayFound := finds_member identity (finds_member signing
    (finds_optional (Option.map SigningSettings.leewaySeconds) (Option.map fun _ => 30)
      leewayOwn rfl) rfl) rfl
  intro leaf inside
  simp only [all, List.mem_cons, List.not_mem_nil, or_false] at inside
  rcases inside with rfl | rfl | rfl | rfl | rfl | rfl | rfl | rfl | rfl | rfl | rfl | rfl | rfl |
    rfl | rfl
  · exact addressFound
  · exact graphFound
  · exact nameFound
  · exact greatestFound
  · exact leastFound
  · exact timeoutFound
  · exact statementsFound
  · exact levelFound
  · exact formatFound
  · exact modeFound
  · exact subjectFound
  · exact scopeFound
  · exact tokensFound
  · exact secretFound
  · exact leewayFound

/-- The initial settings are given as they are where nothing is said of them. -/
theorem all_initial : ∀ leaf ∈ all, ∀ held,
    ServerSettings.initial.toJson.sorted.reach leaf.path = some held →
      (∀ members, held ≠ .object members) ∧
        ∀ settings, leaf.decoder .settings held = .ok (leaf.otherwise settings) := by
  intro leaf inside
  simp only [all, List.mem_cons, List.not_mem_nil, or_false] at inside
  rcases inside with rfl | rfl | rfl | rfl | rfl | rfl | rfl | rfl | rfl | rfl | rfl | rfl | rfl |
    rfl | rfl
  all_goals
    intro held found
    cases found
  all_goals exact ⟨nofun, fun _ => rfl⟩

theorem all_refuse : ∀ leaf ∈ all, leaf.path ∉ choices → leaf.decoder.RefusesObjects := by
  have count : (optional (unsigned 32)).RefusesObjects := (unsigned_refuses_objects 32).optional
  have leeway : ((unsigned 64).mapped some).RefusesObjects :=
    (unsigned_refuses_objects 64).mapped some
  have timeout : (optional text).RefusesObjects := text_refuses_objects.optional
  have secret : (text.mapped some).RefusesObjects := text_refuses_objects.mapped some
  intro leaf inside single
  simp only [all, List.mem_cons, List.not_mem_nil, or_false] at inside
  rcases inside with rfl | rfl | rfl | rfl | rfl | rfl | rfl | rfl | rfl | rfl | rfl | rfl | rfl |
    rfl | rfl
  case inr.inr.inr.inr.inr.inr.inr.inr.inl => exact absurd (by decide) single
  case inr.inr.inr.inr.inr.inr.inr.inr.inr.inl => exact absurd (by decide) single
  all_goals first
    | exact text_refuses_objects
    | exact flag_refuses_objects
    | exact list_refuses_objects _
    | assumption

theorem all_pass : ∀ leaf ∈ all, leaf.decoder.PassesObjects := by
  intro leaf inside
  by_cases choice : leaf.path ∈ choices
  · simp only [all, List.mem_cons, List.not_mem_nil, or_false] at inside
    rcases inside with rfl | rfl | rfl | rfl | rfl | rfl | rfl | rfl | rfl | rfl | rfl | rfl | rfl |
      rfl | rfl
    case inr.inr.inr.inr.inr.inr.inr.inr.inl => exact choice_passes_objects _ _
    case inr.inr.inr.inr.inr.inr.inr.inr.inr.inl => exact choice_passes_objects _ _
    all_goals exact absurd choice (by decide)
  · exact (all_refuse leaf inside choice).passes

end Leaf

namespace Branch

open Shape Decoder

def Leads (path : List String) : Prop :=
  ∀ before, before <+: path → before ≠ path → before ∈ all.map Branch.path

/-- No section holds a key that is none of its names. -/
theorem all_close : ∀ branch ∈ all,
    ServerSettings.shape.decode.Closes branch.path branch.names := by
  obtain ⟨listen, database, reports, identity⟩ := ServerSettings.reads
  obtain ⟨mode, anonymous, tokens, signing⟩ := IdentitySettings.reads
  have listenClosed := closes_member listen (ListenSettings.shape.closes_itself rfl)
  have databaseClosed := closes_member database (DatabaseSettings.shape.closes_itself rfl)
  have poolClosed := closes_member database
    (closes_member DatabaseSettings.reads.2 (PoolSettings.shape.closes_itself rfl))
  have reportsClosed := closes_member reports (ReportSettings.shape.closes_itself rfl)
  have identityClosed := closes_member identity (IdentitySettings.shape.closes_itself rfl)
  have anonymousClosed := closes_member identity
    (closes_member anonymous (Identity.shape.closes_itself rfl))
  have signingClosed := closes_member identity
    (closes_member signing (closes_optional (SigningSettings.shape.closes_itself rfl)))
  intro branch inside
  simp only [all, sections, List.mem_cons, List.not_mem_nil, or_false] at inside
  rcases inside with rfl | rfl | rfl | rfl | rfl | rfl | rfl | rfl
  · exact ServerSettings.shape.closes_itself rfl
  · exact listenClosed
  · exact databaseClosed
  · exact poolClosed
  · exact reportsClosed
  · exact identityClosed
  · exact anonymousClosed
  · exact signingClosed

theorem leads_to_leaf : ∀ leaf ∈ Leaf.all, Leads leaf.path := by
  have checked : ∀ path ∈ Leaf.all.map Leaf.path, ∀ before ∈ path.inits, before ≠ path →
      before ∈ all.map Branch.path := by decide
  intro leaf inside before within
  exact checked leaf.path (List.mem_map_of_mem inside) before ((List.mem_inits _ _).mpr within)

theorem leads_to_branch : ∀ branch ∈ all, Leads branch.path := by
  have checked : ∀ path ∈ all.map Branch.path, ∀ before ∈ path.inits, before ≠ path →
      before ∈ all.map Branch.path := by decide
  intro branch inside before within
  exact checked branch.path (List.mem_map_of_mem inside) before ((List.mem_inits _ _).mpr within)

theorem leads_to_key {branch : Branch} (inside : branch ∈ all) (key : String) :
    Leads (branch.path ++ [key]) := by
  intro before within shorter
  rcases List.prefix_concat_iff.mp within with same | within
  · exact absurd same shorter
  · by_cases own : before = branch.path
    · exact own ▸ List.mem_map_of_mem inside
    · exact leads_to_branch branch inside before within own

/-- The initial settings have objects for their sections. -/
theorem initial_no_array : ∀ branch ∈ all, ∀ elements,
    ServerSettings.initial.toJson.sorted.reach branch.path ≠ some (.array elements) := by
  intro branch inside
  simp only [all, sections, List.mem_cons, List.not_mem_nil, or_false] at inside
  rcases inside with rfl | rfl | rfl | rfl | rfl | rfl | rfl | rfl
  all_goals
    intro elements found
    cases found

end Branch

/-! ## Variables for single settings -/

namespace Environment

variable {entries : List (String × String)} {environment : Json} {path : List String}

def NamesNoSection (entries : List (String × String)) : Prop :=
  ∀ branch ∈ Branch.sections, ∀ entry ∈ entries, keys? entry.1 ≠ some branch.path

theorem NamesNoSection.unnamed (single : NamesNoSection entries)
    (inside : path ∈ Branch.all.map Branch.path) :
    ∀ entry ∈ entries, keys? entry.1 ≠ some path := by
  obtain ⟨branch, member, rfl⟩ := List.mem_map.mp inside
  rcases List.mem_cons.mp member with rfl | member
  · exact fun entry _ => keys_ne_nil entry.1
  · exact single branch member

theorem NamesNoSection.spares (single : NamesNoSection entries) (leads : Branch.Leads path) :
    Spares entries path := by
  intro entry inside keys named before
  by_cases same : keys = path
  · exact same
  · exact absurd named (single.unnamed (leads keys before same) entry inside)

/-- The variables make objects on the way to a setting. -/
theorem NamesNoSection.objects (single : NamesNoSection entries)
    (made : settings entries = some environment) (leads : Branch.Leads path) :
    ∀ before, before <+: path → before ≠ path → ∀ held, environment.reach before = some held →
      ∃ members, held = .object members := by
  intro before within shorter held found
  have inside := leads before within shorter
  obtain ⟨branch, member, rfl⟩ := List.mem_map.mp inside
  have tells := settings_tell made (single.spares (Branch.leads_to_branch branch member))
  exact tells.object (single.unnamed inside) found

end Environment

/-! ## The layers together -/

/-- Settings that are decoded from the tree of a file and the variables over it, none of which names
a section. -/
structure Layered (tree environment : Json) (entries : List (String × String))
    (settings : ServerSettings) : Prop where
  ordered : tree.HasAscendingKeys
  single : Environment.NamesNoSection entries
  made : Environment.settings entries = some environment
  decoded : ServerSettings.shape.decode .settings (ServerSettings.merged tree environment) =
    .ok settings

def ServerSettings.grounded (tree : Json) : Json :=
  initial.toJson.sorted.overlay tree

namespace Layered

open ServerSettings

variable {tree environment : Json} {entries : List (String × String)} {settings : ServerSettings}
  {path : List String}

theorem environment_ascending (layered : Layered tree environment entries settings) :
    environment.HasAscendingKeys :=
  Environment.settings_have_ascending_keys layered.made

theorem grounded_ascending (layered : Layered tree environment entries settings) :
    (grounded tree).HasAscendingKeys :=
  Json.overlay_has_ascending_keys (Json.sorted_has_ascending_keys initial.toJson) layered.ordered

theorem ascending (layered : Layered tree environment entries settings) :
    (merged tree environment).HasAscendingKeys :=
  Json.overlay_has_ascending_keys layered.grounded_ascending layered.environment_ascending

theorem tells (layered : Layered tree environment entries settings) (leads : Branch.Leads path) :
    Environment.Tells environment entries path :=
  Environment.settings_tell layered.made (layered.single.spares leads)

/-- What the variables say is laid over what the file and the initial settings say. -/
theorem reach_said (layered : Layered tree environment entries settings) {value : Json}
    (said : environment.reach path = some value) : (merged tree environment).reach path =
      some ((((grounded tree).reach path).getD .null).overlay value) :=
  Json.reach_overlay_some layered.environment_ascending said (grounded tree)

/-- Where the variables say nothing, the file and the initial settings decide. -/
theorem reach_unsaid (layered : Layered tree environment entries settings)
    (leads : Branch.Leads path) (unsaid : environment.reach path = none) :
    (merged tree environment).reach path = (grounded tree).reach path := by
  have opened := Json.settles_of_objects unsaid (layered.single.objects layered.made leads)
  have placed := Json.reach_overlay_none layered.environment_ascending unsaid (grounded tree)
  rw [opened] at placed
  exact placed

theorem keyed (layered : Layered tree environment entries settings) (leads : Branch.Leads path)
    (keyed : tree.Keyed path) : (merged tree environment).Keyed path := by
  intro before within shorter elements found
  rcases Json.reach_overlay_array layered.environment_ascending found with said | below
  · obtain ⟨members, same⟩ :=
      layered.single.objects layered.made leads before within shorter _ said
    cases same
  · rcases Json.reach_overlay_array layered.ordered below with own | first
    · exact keyed before within shorter elements own
    · obtain ⟨branch, member, rfl⟩ := List.mem_map.mp (leads before within shorter)
      exact Branch.initial_no_array branch member elements first

end Layered

namespace Leaf

open ServerSettings

variable {leaf : Leaf} {tree environment : Json} {entries : List (String × String)}
  {settings : ServerSettings}

/-- A setting is what the last variable for it says, else what the file says, else the initial
one. -/
def IsSettled (leaf : Leaf) (tree : Json) (entries : List (String × String))
    (settings : ServerSettings) : Prop :=
  match Environment.given? entries leaf.path with
  | some value => leaf.decoder .settings value = .ok (leaf.of settings)
  | none =>
      match tree.reach leaf.path with
      | some value => leaf.decoder .settings value = .ok (leaf.of settings)
      | none => leaf.of settings = leaf.otherwise settings

/-- No section of the setting is written as a list in the file, and where the file writes a choice
as a mapping, variables for it do not make a mapping too. -/
structure IsPlain (leaf : Leaf) (tree environment : Json) (entries : List (String × String)) :
    Prop where
  keyed : tree.Keyed leaf.path
  apart : leaf.path ∈ choices → (∃ members, tree.reach leaf.path = some (.object members)) →
    Environment.given? entries leaf.path ≠ none →
    ∀ members, environment.reach leaf.path ≠ some (.object members)

/-- The file decides over the initial settings. -/
theorem grounded_some (inside : leaf ∈ all) (ordered : tree.HasAscendingKeys) {value : Json}
    (found : tree.reach leaf.path = some value) :
    (grounded tree).reach leaf.path = some value := by
  have scalar : ((initial.toJson.sorted.reach leaf.path).getD .null).fields = [] := by
    cases found : initial.toJson.sorted.reach leaf.path with
    | none => rfl
    | some held => exact Json.fields_scalar (all_initial leaf inside held found).1
  rw [grounded, Json.reach_overlay_some ordered found,
    Json.overlay_on_scalar scalar (Json.reach_ascending ordered found)]

/-- Without the file a setting is the initial one, if anything stands there. -/
theorem grounded_none (ordered : tree.HasAscendingKeys) (unwritten : tree.reach leaf.path = none)
    {value : Json} (found : (grounded tree).reach leaf.path = some value) :
    initial.toJson.sorted.reach leaf.path = some value := by
  rw [grounded, Json.reach_overlay_none ordered unwritten] at found
  split at found
  · cases found
  · exact found

/-- A mapping that variables make for a setting is not decoded, unless the file has one too. -/
theorem mapping_decoded_from_file (inside : leaf ∈ all)
    (layered : Layered tree environment entries settings) (keyed : tree.Keyed leaf.path)
    {members : List (String × Json)} (said : environment.reach leaf.path = some (.object members)) :
    ∃ held, tree.reach leaf.path = some (.object held) ∧
      leaf.decoder .settings (.object held) = .ok (leaf.of settings) := by
  have leads := Branch.leads_to_leaf leaf inside
  have own := (all_find leaf inside).present layered.ascending (layered.keyed leads keyed)
    layered.decoded _ (layered.reach_said said)
  have filled := ((layered.tells leads).present _ said).1
  have above := Json.reach_ascending layered.environment_ascending said
  have pass := all_pass leaf inside
  cases found : (grounded tree).reach leaf.path with
  | none =>
      rw [found] at own
      obtain ⟨⟨held, same⟩, _⟩ := pass .null members _ trivial above filled own
      cases same
  | some value =>
      rw [found] at own
      have lower := Json.reach_ascending layered.grounded_ascending found
      obtain ⟨⟨held, same⟩, taken⟩ := pass value members _ lower above filled own
      subst same
      cases written : tree.reach leaf.path with
      | none =>
          have first := grounded_none layered.ordered written found
          exact absurd rfl ((all_initial leaf inside _ first).1 held)
      | some value =>
          rw [grounded_some inside layered.ordered written] at found
          cases found
          exact ⟨held, rfl, taken⟩

/-- What the last variable for a setting says is decoded. -/
theorem settled_by_variable (inside : leaf ∈ all)
    (layered : Layered tree environment entries settings)
    (plain : leaf.IsPlain tree environment entries) {value : Json}
    (given : Environment.given? entries leaf.path = some value) :
    leaf.decoder .settings value = .ok (leaf.of settings) := by
  have leads := Branch.leads_to_leaf leaf inside
  have tells := layered.tells leads
  cases said : environment.reach leaf.path with
  | none =>
      rw [tells.given_absent said] at given
      cases given
  | some held =>
      by_cases mapping : ∃ members, held = .object members
      · obtain ⟨members, rfl⟩ := mapping
        obtain ⟨written, found, taken⟩ := mapping_decoded_from_file inside layered plain.keyed said
        by_cases choice : leaf.path ∈ choices
        · have named : Environment.given? entries leaf.path ≠ none := by simp [given]
          exact absurd said (plain.apart choice ⟨written, found⟩ named members)
        · exact absurd taken (all_refuse leaf inside choice written _)
      · have own := (tells.present held said).2.resolve_left mapping
        cases given.symm.trans own
        apply (all_find leaf inside).present layered.ascending (layered.keyed leads plain.keyed)
          layered.decoded
        rw [layered.reach_said said,
          Json.overlay_scalar fun members same => mapping ⟨members, same⟩]

/-- Where no variable names a setting it is what the file says, else the initial one. -/
theorem settled_by_file (inside : leaf ∈ all)
    (layered : Layered tree environment entries settings) (keyed : tree.Keyed leaf.path)
    (unnamed : Environment.given? entries leaf.path = none) :
    match tree.reach leaf.path with
    | some value => leaf.decoder .settings value = .ok (leaf.of settings)
    | none => leaf.of settings = leaf.otherwise settings := by
  have leads := Branch.leads_to_leaf leaf inside
  have merged := layered.keyed leads keyed
  have finds := all_find leaf inside
  cases said : environment.reach leaf.path with
  | some held =>
      have mapping := ((layered.tells leads).present held said).2
      rw [unnamed] at mapping
      obtain ⟨members, rfl⟩ := mapping.resolve_right nofun
      obtain ⟨written, found, taken⟩ := mapping_decoded_from_file inside layered keyed said
      rw [found]
      exact taken
  | none =>
      have down := layered.reach_unsaid leads said
      cases written : tree.reach leaf.path with
      | some value =>
          rw [grounded_some inside layered.ordered written] at down
          exact finds.present layered.ascending merged layered.decoded value down
      | none =>
          cases first : (grounded tree).reach leaf.path with
          | none =>
              rw [first] at down
              exact finds.absent layered.ascending merged layered.decoded down
          | some value =>
              rw [first] at down
              have initially := grounded_none layered.ordered written first
              have own := finds.present layered.ascending merged layered.decoded value down
              have expected := (all_initial leaf inside value initially).2 settings
              exact Except.ok.inj (own.symm.trans expected)

/-- Every single setting is settled by its own layers. -/
theorem settled (inside : leaf ∈ all) (layered : Layered tree environment entries settings)
    (plain : leaf.IsPlain tree environment entries) : leaf.IsSettled tree entries settings := by
  unfold IsSettled
  cases given : Environment.given? entries leaf.path with
  | some value => exact settled_by_variable inside layered plain given
  | none => exact settled_by_file inside layered plain.keyed given

end Leaf

/-! ## Loading -/

/-- The tree that a file holds, if it holds one, has its keys in order and each once. -/
def SettingsFile.HasAscendingKeys (file : SettingsFile) : Prop :=
  ∀ tree, file.content = .tree tree → tree.HasAscendingKeys

theorem Yaml.parse_has_ascending_keys {text : String} {value : Json}
    (read : Yaml.parse text = some value) : value.HasAscendingKeys := by
  unfold Yaml.parse at read
  split at read
  · obtain ⟨lines, _, taken⟩ := Option.bind_eq_some_iff.mp read
    split at taken
    · cases taken
      exact ⟨List.Pairwise.nil, trivial⟩
    · obtain ⟨⟨held, rest⟩, _, finished⟩ := Option.bind_eq_some_iff.mp taken
      dsimp only at finished
      split at finished
      · cases finished
        exact Json.sorted_has_ascending_keys held
      · cases finished
  · cases read

theorem SettingsFile.ascending_of_text (name text : String) :
    SettingsFile.HasAscendingKeys ⟨name, .ofText text⟩ := by
  intro tree held
  dsimp only [FileContent.ofText] at held
  split at held
  · next value parsed =>
      cases held
      exact Yaml.parse_has_ascending_keys parsed
  · cases held

namespace ServerSettings

variable {file : Option SettingsFile} {tree : Json} {entries : List (String × String)}
  {settings : ServerSettings}

theorem file_tree_ordered (ordered : ∀ given ∈ file, given.HasAscendingKeys)
    (read : fileTree file = .ok tree) : tree.HasAscendingKeys := by
  unfold fileTree at read
  split at read
  · cases read
    exact ⟨List.Pairwise.nil, trivial⟩
  · cases read
  · cases read
  · cases read
    exact ordered _ rfl _ rfl
  · cases read

theorem decode_merged_ok {environment : Json}
    (decoded : decodeMerged tree environment = .ok settings) :
    shape.decode .settings (merged tree environment) = .ok settings := by
  unfold decodeMerged at decoded
  split at decoded
  · next made same =>
      cases decoded
      exact same
  · cases decoded

theorem load_done (loaded : load file entries = .done settings) :
    ∃ tree environment, fileTree file = .ok tree ∧ Environment.settings entries = some environment ∧
      shape.decode .settings (merged tree environment) = .ok settings := by
  unfold load at loaded
  split at loaded
  · cases loaded
  · cases loaded
  · next environment _ made =>
      have decoded := Outcome.of_except_eq_done.mp loaded
      obtain ⟨tree, read, below⟩ := except_bind_eq_ok.mp decoded
      exact ⟨tree, environment, read, made, decode_merged_ok below⟩

/-- Loading crashes only over what cannot be read in the environment. -/
theorem load_crashed (crash : load file entries = .crashed) :
    Environment.settings entries = none := by
  unfold load at crash
  split at crash
  · cases crash
  · assumption
  · exact absurd crash (Outcome.of_except_not_crashed _)

/-- A key of a section that is none of its settings is never decoded. -/
theorem known_key {branch : Branch} (inside : branch ∈ Branch.all) {environment value : Json}
    (layered : Layered tree environment entries settings) {key : String}
    (found : (merged tree environment).reach (branch.path ++ [key]) = some value) :
    key ∈ branch.names := by
  rw [Json.reach_append] at found
  obtain ⟨held, at_branch, below⟩ := Option.bind_eq_some_iff.mp found
  obtain ⟨own, taken, _⟩ := Option.bind_eq_some_iff.mp below
  cases held with
  | object members =>
      exact Branch.all_close branch inside layered.ascending layered.decoded at_branch (key, own)
        (mem_of_lookup taken)
  | null | bool _ | number _ | string _ | array _ => cases taken

theorem known_written {branch : Branch} (inside : branch ∈ Branch.all) {environment value : Json}
    (layered : Layered tree environment entries settings) {key : String}
    (found : tree.reach (branch.path ++ [key]) = some value) : key ∈ branch.names := by
  have leads := Branch.leads_to_key inside key
  cases said : environment.reach (branch.path ++ [key]) with
  | some held => exact known_key inside layered (layered.reach_said said)
  | none =>
      have down := layered.reach_unsaid leads said
      rw [grounded, Json.reach_overlay_some layered.ordered found] at down
      exact known_key inside layered down

theorem known_named {branch : Branch} (inside : branch ∈ Branch.all) {environment : Json}
    (layered : Layered tree environment entries settings) {key : String} {entry : String × String}
    (member : entry ∈ entries) {rest : List String}
    (named : Environment.keys? entry.1 = some (branch.path ++ key :: rest)) :
    key ∈ branch.names := by
  have tells := layered.tells (Branch.leads_to_key inside key)
  have further : Environment.keys? entry.1 = some (branch.path ++ [key] ++ rest) := by
    rw [named, List.append_assoc, List.singleton_append]
  obtain ⟨value, said⟩ := tells.reaches member further
  exact known_key inside layered (layered.reach_said said)

/-- Where loading succeeds, every single setting is what the last variable for it says, else what
the file says, else the initial one. A key that is no setting, in the file or in a variable, keeps
it from succeeding. The file may hold any tree. The variables name no sections, but the list of
tokens is one setting. -/
theorem loaded_by_layers (ordered : ∀ given ∈ file, given.HasAscendingKeys)
    (single : Environment.NamesNoSection entries) :
    (∀ settings, load file entries = .done settings → ∃ tree environment,
      fileTree file = .ok tree ∧ Environment.settings entries = some environment ∧
        ∀ leaf ∈ Leaf.all, leaf.IsPlain tree environment entries →
          leaf.IsSettled tree entries settings) ∧
    (∀ branch ∈ Branch.all, ∀ key, key ∉ branch.names →
      ((∃ tree value, fileTree file = .ok tree ∧
          tree.reach (branch.path ++ [key]) = some value) ∨
        ∃ entry ∈ entries, ∃ rest,
          Environment.keys? entry.1 = some (branch.path ++ key :: rest)) →
      (∃ error, load file entries = .failed error) ∨
        (load file entries = .crashed ∧ Environment.settings entries = none)) := by
  have layered : ∀ settings, load file entries = .done settings → ∃ tree environment,
      fileTree file = .ok tree ∧ Layered tree environment entries settings := by
    intro settings loaded
    obtain ⟨tree, environment, read, made, decoded⟩ := load_done loaded
    exact ⟨tree, environment, read, file_tree_ordered ordered read, single, made, decoded⟩
  refine ⟨?_, ?_⟩
  · intro settings loaded
    obtain ⟨tree, environment, read, layers⟩ := layered settings loaded
    refine ⟨tree, environment, read, layers.made, ?_⟩
    intro leaf inside plain
    exact Leaf.settled inside layers plain
  · intro branch inside key unknown held
    cases ended : load file entries with
    | failed error => exact .inl ⟨error, rfl⟩
    | crashed => exact .inr ⟨rfl, load_crashed ended⟩
    | done settings =>
        obtain ⟨tree, environment, read, layers⟩ := layered settings ended
        apply absurd _ unknown
        rcases held with ⟨own, value, same, found⟩ | ⟨entry, member, rest, named⟩
        · rw [read] at same
          cases same
          exact known_written inside layers found
        · exact known_named inside layers member named

def addressFile : SettingsFile :=
  ⟨"crudkit.yaml", .ofText "server:\n  bind_addr: 0.0.0.0:9000\nlogging:\n  format: json\n"⟩

def addressVariables : List (String × String) :=
  [("CRUDKIT__SERVER__BIND_ADDR", "0.0.0.0:9100"), ("CRUDKIT__DATABASE__POOL__MAX_CONNS", "4")]

theorem address_by_layers :
    (∀ given ∈ some addressFile, given.HasAscendingKeys) ∧
    Environment.NamesNoSection addressVariables ∧
    ∃ settings tree environment, load (some addressFile) addressVariables = .done settings ∧
      settings.listen = ⟨"0.0.0.0:9100", "/graphql"⟩ ∧ settings.reports = ⟨"info", .json⟩ ∧
      settings.database.pool = ⟨some 4, none, none, false⟩ ∧
      fileTree (some addressFile) = .ok tree ∧
      Environment.settings addressVariables = some environment ∧
      ∀ leaf ∈ Leaf.all, leaf.IsPlain tree environment addressVariables →
        leaf.IsSettled tree addressVariables settings := by
  have ordered : ∀ given ∈ some addressFile, given.HasAscendingKeys := by
    intro given same
    rw [← Option.some.inj same]
    exact SettingsFile.ascending_of_text _ _
  have single : Environment.NamesNoSection addressVariables := by
    unfold Environment.NamesNoSection
    decide +kernel
  have loaded : load (some addressFile) addressVariables =
      .done { initial with
        listen := ⟨"0.0.0.0:9100", "/graphql"⟩
        reports := ⟨"info", .json⟩
        database := ⟨"sqlite::memory:", ⟨some 4, none, none, false⟩⟩ } := by decide +kernel
  obtain ⟨tree, environment, read, made, settled⟩ :=
    (loaded_by_layers ordered single).1 _ loaded
  exact ⟨ordered, single, _, tree, environment, loaded, rfl, rfl, rfl, read, made, settled⟩

def mappingFile : SettingsFile :=
  ⟨"crudkit.yaml", .ofText "auth:\n  mode:\n    jwt:\n"⟩

def listFile : SettingsFile :=
  ⟨"crudkit.yaml", .ofText "server:\n  - a\n  - /b\n"⟩

/-- A mapping for a choice is joined with the one in the file, so that what the variable says, which
is no choice, is passed over. A variable for one setting takes away the other ones of a list. -/
theorem mappings_and_lists_unsettled :
    (load (some mappingFile) [("CRUDKIT__AUTH__MODE", "\x7bx=1\x7d")] =
        .done { initial with identity := ⟨.signedTokens, Identity.anonymous, [], none⟩ } ∧
      Environment.given? [("CRUDKIT__AUTH__MODE", "\x7bx=1\x7d")] ["auth", "mode"] =
        some (.object [("x", .integer 1)]) ∧
      IdentityMode.decoder .settings (.object [("x", .integer 1)]) ≠ .ok .signedTokens) ∧
    load (some listFile) [] = .done { initial with listen := ⟨"a", "/b"⟩ } ∧
    load (some listFile) [("CRUDKIT__SERVER__BIND_ADDR", "c")] =
      .done { initial with listen := ⟨"c", "/graphql"⟩ } := by
  decide +kernel

end ServerSettings
end GatedResources
