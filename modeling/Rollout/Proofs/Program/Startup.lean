import Rollout.Program.Startup
import Rollout.Proofs.Config.Check
import Rollout.Proofs.Config.Layer

/-!
# What the configuration of a run is

A run has three layers over the standard values: what the file says, what the environment says, and
what the settings say that were given with the command. Each step of start-up lays one of them over
the configuration, if it accepts the layer (`ofFiles_eq_ok_iff`, `applyEnvironment_eq_ok_iff`,
`applySettings_eq_ok_iff`). So the configuration is that of the three layers over each other, and it
is refused for what one layer says, whatever stands above it (`Config.ofSurroundings_layered`).

The whole configuration is checked twice, below the environment and above the settings. The second
check never refuses anything: the upper layers say nothing about most fields, and an address that
they say is not blank (`Layer.isValid_apply`).
-/

namespace Rollout

open Text

/-! ## The three layers -/

/-- What the files say: a document, in the file that is named or else in the standard one, or
nothing if no file is named and there is no standard one. -/
inductive Layer.IsFrom (files : String → File) (named standardPath : Option String) : Layer → Prop
  | document {path content : String} {j : Json} {config : Config}
    (hpath : named.or standardPath = some path) (htext : files path = .text content)
    (hread : Toml.read? content = some j) (hconfig : Config.ofJson? j = some config) :
    IsFrom files named standardPath (ofDocument j)
  | absent {path : String} (hunnamed : named = none) (hpath : standardPath = some path)
    (habsent : files path = .absent) : IsFrom files named standardPath {}

/-- What the environment says, if all of it can be read. -/
def Layer.ofEnvironment (env : Config.Environment) : Layer where
  output := env.output.bind OutputFormat.ofName?
  color := env.color.bind ColorChoice.ofName?
  apiUrl := env.apiUrl
  preferredLine := env.stableLine.bind fun s => (StableLine.parse s).toOption

/-- What the settings of a run say. -/
def Layer.ofSettings (settings : RunSettings) : Layer where
  color := settings.color
  apiUrl := settings.apiUrl

/-- What all of them say: the settings atop the environment, and this atop the files. -/
def Layer.ofRun (settings : RunSettings) (env : Config.Environment) (files : Layer) : Layer :=
  ((ofSettings settings).atop (ofEnvironment env)).atop files

/-- A valid configuration stays valid under a layer that says nothing about the delay and the
mirrors, and whose address is one. -/
theorem Layer.isValid_apply {layer : Layer} {config : Config} (hvalid : config.IsValid)
    (haddress : ∀ url ∈ layer.apiUrl, Config.IsAddress url) (hdelay : layer.busyRetryDelay = none)
    (hknown : layer.known = none) (hexpected : layer.expectedCount = none) :
    (layer.apply config).IsValid where
  address_plain := by
    unfold apply
    cases hurl : layer.apiUrl with
    | none => exact hvalid.address_plain
    | some url => exact (haddress url hurl).exists_plain
  delay_ne_zero := by
    rw [apply, hdelay]
    exact hvalid.delay_ne_zero
  known_le := by
    rw [apply, hknown, hexpected]
    exact hvalid.known_le

namespace Config

/-! ## What each step lays over the configuration -/

/-- The configuration from the files is what these say, if it is valid. -/
theorem ofFiles_eq_ok_iff {files : String → File} {named standardPath : Option String}
    {layer : Layer} (h : layer.IsFrom files named standardPath) {config : Config} :
    ofFiles files named standardPath = .ok config ↔
      layer.config.IsValid ∧ config = layer.config := by
  cases h with
  | @document path content j file hpath htext hread hconfig =>
    -- A file that is there, named or not, is read and checked.
    have hfile : ofFiles files named standardPath = ofText content := by
      cases named with
      | none =>
        rw [Option.none_or] at hpath
        rw [hpath, ofFiles, ofStandardFile, htext]
        rfl
      | some _ =>
        cases hpath
        rw [ofFiles, htext]
        rfl
    -- What is read from it is what it says, laid over the standard values.
    have hlayer : file = (Layer.ofDocument j).config := eq_config_ofDocument hconfig
    have htextRead : (Toml.read? content).bind ofJson? = some file := by
      rw [hread]
      exact hconfig
    rw [hfile, ofText, htextRead, ← hlayer, ← validate_eq_ok_iff]
    exact check_eq_ok_iff
  | absent hunnamed hpath habsent =>
    -- Without a file the standard values count, and these are valid.
    rw [hunnamed, hpath, ofFiles, ofStandardFile, habsent]
    constructor
    · intro h
      cases h
      exact ⟨isValid_standard, rfl⟩
    · rintro ⟨-, rfl⟩
      rfl

variable {config c : Config}

/-- A step lays a layer over every configuration, if it accepts the layer, and refuses every
configuration otherwise. -/
def Lays (step : Config → Config × Option ConfigError) (accepted : Prop) (layer : Layer) : Prop :=
  ∀ config c, step config = (c, none) ↔ accepted ∧ c = layer.apply config

/-- A variable is accepted if it is not set or has a value that can be read, and the layer is what
was read. -/
theorem lays_override {α : Type} (layer : Option α → Layer) {name : String}
    {setting : Option String} {read : String → Option α} {set : Config → α → Config}
    (hnone : ∀ config, (layer none).apply config = config)
    (hset : ∀ config x, (layer (some x)).apply config = set config x) :
    Lays (·.override name setting read set) (∀ s ∈ setting, ∃ x, read s = some x)
      (layer (setting.bind read)) := by
  intro config c
  cases setting with
  | none => simp [override, hnone, eq_comm]
  | some s =>
    cases hread : read s with
    | none => simp [override, hread]
    | some x => simp [override, hread, hset, eq_comm]

/-- Of two steps, the later one lays its layer over that of the earlier one. -/
theorem Lays.andThen {first next : Config → Config × Option ConfigError} {p q : Prop}
    {lower upper : Layer} (hfirst : Lays first p lower) (hnext : Lays next q upper) :
    Lays (fun config => Config.andThen (first config) next) (p ∧ q) (upper.atop lower) := by
  intro config c
  -- The second step is taken if the first accepts, with what the first leaves.
  have hboth : Config.andThen (first config) next = (c, none) ↔
      ∃ mid, first config = (mid, none) ∧ next mid = (c, none) := by
    obtain ⟨mid, _ | e⟩ := first config <;> simp [Config.andThen]
  rw [hboth, Layer.apply_atop]
  constructor
  · rintro ⟨mid, hmid, hc⟩
    obtain ⟨hp, rfl⟩ := (hfirst _ _).1 hmid
    obtain ⟨hq, rfl⟩ := (hnext _ _).1 hc
    exact ⟨⟨hp, hq⟩, rfl⟩
  · rintro ⟨⟨hp, hq⟩, rfl⟩
    exact ⟨_, (hfirst _ _).2 ⟨hp, rfl⟩, (hnext _ _).2 ⟨hq, rfl⟩⟩

/-- The four variables lay what the environment says over the configuration. -/
theorem lays_merge (env : Environment) :
    Lays (·.merge env) env.IsReadable (Layer.ofEnvironment env) := by
  -- Each variable says something about one field of its own, so their order does not show.
  have hsteps : Lays (·.merge env) _ _ :=
    (((lays_override (fun output => { output }) (fun _ => by rfl) fun _ _ => by rfl).andThen
      (lays_override (fun color => { color }) (fun _ => by rfl) fun _ _ => by rfl)).andThen
      (lays_override (fun apiUrl => { apiUrl }) (fun _ => by rfl) fun _ _ => by rfl)).andThen
      (lays_override (fun preferredLine => { preferredLine }) (fun _ => by rfl) fun _ _ => by rfl)
  intro config c
  rw [hsteps config c, Environment.isReadable_iff]
  simp only [and_assoc]
  refine and_congr_right fun _ => and_congr_right fun _ => and_congr_right fun hurl =>
    and_congr_right fun _ => ?_
  -- An address is read as it is.
  have hgiven : env.apiUrl.bind (fun s => if isAddress s then some s else none) = env.apiUrl := by
    cases hset : env.apiUrl with
    | none => rfl
    | some url =>
      obtain ⟨_, hread⟩ := hurl url hset
      rw [Option.bind_some]
      split at hread
      · next haddress => exact if_pos haddress
      · contradiction
  simp only [Layer.atop, hgiven, Option.none_or, Option.or_none]
  rfl

/-- The environment is accepted if all of it can be read, and what it says overrides the
configuration. -/
theorem applyEnvironment_eq_ok_iff {env : Environment} :
    config.applyEnvironment env = .ok c ↔
      env.IsReadable ∧ c = (Layer.ofEnvironment env).apply config := by
  rw [← lays_merge, applyEnvironment]
  split <;> simp_all

/-- An address that was given is accepted if it is one. -/
theorem withAddress_eq_ok_iff {setting : Option String} :
    config.withAddress setting = .ok c ↔
      (∀ url ∈ setting, IsAddress url) ∧ c = ({ apiUrl := setting } : Layer).apply config := by
  cases setting with
  | none =>
    rw [withAddress, Layer.apply_nothing, Except.ok.injEq, eq_comm]
    simp
  | some url =>
    -- The one address that is given decides.
    have hgiven : (∀ s ∈ some url, IsAddress s) ↔ isAddress url = true := by
      rw [isAddress_iff]
      simp
    rw [withAddress, hgiven]
    split
    · next haddress =>
      rw [Except.ok.injEq, eq_comm]
      exact (and_iff_right haddress).symm
    · next haddress => simp [haddress]

/-- The settings of a run are accepted if the address is one and the configuration that they
override is valid then. -/
theorem applySettings_eq_ok_iff {settings : RunSettings} :
    config.applySettings settings = .ok c ↔
      (∀ url ∈ settings.apiUrl, IsAddress url) ∧ c = (Layer.ofSettings settings).apply config ∧
        c.IsValid := by
  have hcolor : config.withColor settings.color =
      ({ color := settings.color } : Layer).apply config := by
    cases settings.color <;> rfl
  rw [applySettings, hcolor, bind_eq_ok_iff]
  simp only [withAddress_eq_ok_iff, check_eq_ok_iff, mapError_eq_ok_iff, validate_eq_ok_iff]
  constructor
  · rintro ⟨_, ⟨haddress, rfl⟩, hvalid, rfl⟩
    exact ⟨haddress, rfl, hvalid⟩
  · rintro ⟨haddress, rfl, hvalid⟩
    exact ⟨_, ⟨haddress, rfl⟩, hvalid, rfl⟩

/-! ## All steps -/

section AllSteps

variable {around : Surroundings} {settings : RunSettings} {layer : Layer}

/-- The two upper layers keep a configuration valid, if each of them is accepted. -/
theorem isValid_ofRun (hvalid : layer.config.IsValid) (hreadable : around.environment.IsReadable)
    (haddress : ∀ url ∈ settings.apiUrl, IsAddress url) :
    (Layer.ofRun settings around.environment layer).config.IsValid := by
  rw [Layer.config, Layer.ofRun, Layer.apply_atop]
  refine Layer.isValid_apply hvalid (fun url hurl => ?_) rfl rfl rfl
  -- The address that counts is the one of the settings or, without one, that of the environment.
  obtain hset | ⟨-, hset⟩ := Option.or_eq_some_iff.1 hurl
  · exact haddress url hset
  · exact hreadable.apiUrl url hset

/-- Start-up accepts exactly what each layer by itself may say. -/
theorem ofSurroundings_eq_ok_iff
    (h : layer.IsFrom around.files settings.config around.standardPath) {config : Config} :
    ofSurroundings around settings = .ok config ↔
      (layer.config.IsValid ∧ around.environment.IsReadable ∧
        ∀ url ∈ settings.apiUrl, IsAddress url) ∧
      config = (Layer.ofRun settings around.environment layer).config := by
  rw [ofSurroundings]
  simp only [bind_eq_ok_iff, mapError_eq_ok_iff, ofFiles_eq_ok_iff h, applyEnvironment_eq_ok_iff,
    applySettings_eq_ok_iff]
  have hlayers : (Layer.ofRun settings around.environment layer).config =
      (Layer.ofSettings settings).apply
        ((Layer.ofEnvironment around.environment).apply layer.config) := by
    rw [Layer.config, Layer.ofRun, Layer.apply_atop, Layer.apply_atop]
    rfl
  constructor
  · rintro ⟨_, ⟨hvalid, rfl⟩, _, ⟨hreadable, rfl⟩, haddress, rfl, -⟩
    exact ⟨⟨hvalid, hreadable, haddress⟩, hlayers.symm⟩
  · rintro ⟨⟨hvalid, hreadable, haddress⟩, rfl⟩
    exact ⟨_, ⟨hvalid, rfl⟩, _, ⟨hreadable, rfl⟩, haddress, hlayers,
      isValid_ofRun hvalid hreadable haddress⟩

/-- The configuration of a run is that of the three layers over each other, and it is valid. It is
refused exactly if the files do not say a valid configuration, a variable has no meaning, or the
address among the settings is none. -/
theorem ofSurroundings_layered
    (h : layer.IsFrom around.files settings.config around.standardPath) :
    (∀ config, ofSurroundings around settings = .ok config →
      config = (Layer.ofRun settings around.environment layer).config ∧ config.IsValid) ∧
    ((∃ e, ofSurroundings around settings = .error e) ↔
      ¬ layer.config.IsValid ∨ ¬ around.environment.IsReadable ∨
        ∃ url ∈ settings.apiUrl, ¬ IsAddress url) := by
  constructor
  · intro config hok
    obtain ⟨⟨hvalid, hreadable, haddress⟩, rfl⟩ := (ofSurroundings_eq_ok_iff h).1 hok
    exact ⟨rfl, isValid_ofRun hvalid hreadable haddress⟩
  · -- Whatever is not accepted is refused with some error.
    have hrefused : (∃ e, ofSurroundings around settings = .error e) ↔
        ¬ ∃ config, ofSurroundings around settings = .ok config := by
      cases ofSurroundings around settings <;> simp
    rw [hrefused]
    simp only [ofSurroundings_eq_ok_iff h, exists_and_left, exists_eq, and_true]
    rw [Classical.not_and_iff_not_or_not, Classical.not_and_iff_not_or_not]
    simp only [Classical.not_forall, exists_prop]

/-- A file with a format, a colour choice and an address. -/
def layeredFile : String :=
  "[general]\ndefault_output = \"json\"\ncolor = \"never\"\n[network]\napi_url = \"http://file\"\n"

/-- What is read from the file. -/
def layeredConfig : Config :=
  { standard with general := ⟨.json, .never⟩, network.apiUrl := "http://file" }

/-- The environment names another colour choice and another address than the file. -/
def layeredSurroundings (url : String) : Surroundings where
  files _ := .text layeredFile
  standardPath := some "config.toml"
  environment := ⟨none, some "always", some url, none⟩
  outputTerminal := false
  statusTerminal := false

/-- The settings name an address again. -/
def layeredSettings : RunSettings :=
  ⟨false, false, none, none, some "https://settings"⟩

/-- Each layer decides what no layer above it does, and the address of the environment must be one
although the settings decide the address. -/
theorem ofSurroundings_layered_file :
    ofSurroundings (layeredSurroundings "https://environment") layeredSettings =
        .ok { layeredConfig with general.color := .always, network.apiUrl := "https://settings" } ∧
      ∃ e, ofSurroundings (layeredSurroundings "ftp://environment") layeredSettings = .error e := by
  -- The layer of the file is what its document says.
  have hfile : (Toml.read? layeredFile).bind ofJson? = some layeredConfig := by decide +kernel
  obtain ⟨j, hread, hconfig⟩ := Option.bind_eq_some_iff.1 hfile
  have hlayer : layeredConfig = (Layer.ofDocument j).config := eq_config_ofDocument hconfig
  have hfrom : ∀ url, (Layer.ofDocument j).IsFrom (layeredSurroundings url).files
      layeredSettings.config (layeredSurroundings url).standardPath :=
    fun url => .document rfl rfl hread hconfig
  have hlayered := fun url => ofSurroundings_layered (hfrom url)
  constructor
  · -- All three layers are accepted, so start-up is not refused.
    have hvalid : layeredConfig.IsValid :=
      ⟨IsAddress.exists_plain ⟨"file", .inl rfl⟩, by decide, by decide⟩
    have hreadable : (layeredSurroundings "https://environment").environment.IsReadable :=
      ⟨nofun, fun s hs => ⟨.always, (Option.some.inj hs).symm⟩,
        fun s hs => isAddress_iff.1 (Option.some.inj hs ▸ by decide), nofun⟩
    cases hresult : ofSurroundings (layeredSurroundings "https://environment") layeredSettings with
    | ok config =>
      rw [((hlayered _).1 config hresult).1, Layer.ofRun, Layer.config, Layer.apply_atop]
      show Except.ok (Layer.apply _ (Layer.ofDocument j).config) = _
      rw [← hlayer]
      rfl
    | error e =>
      obtain hnot | hnot | ⟨url, hurl, hnot⟩ := (hlayered _).2.1 ⟨e, hresult⟩
      · exact absurd (hlayer ▸ hvalid) hnot
      · exact absurd hreadable hnot
      · exact absurd (isAddress_iff.1 (Option.some.inj hurl ▸ by decide)) hnot
  · -- The address of the environment is none, and that is enough to refuse.
    refine (hlayered _).2.2 (.inr (.inl fun hreadable => ?_))
    exact absurd (isAddress_iff.2 (hreadable.apiUrl _ rfl)) (by decide)

end AllSteps

end Config

end Rollout
