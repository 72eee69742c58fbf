import Phrasebook.Proofs.Settings.Texts
import Phrasebook.Settings.Load
/-!
# How the texts of variables arrive

The texts among the settings come from variables: those of the environment from variables of their own names, and those
of the service from variables that are laid over its settings file. What such a variable says is in the field and
nowhere else, and whatever it says, the settings can be read (`Environment.readEnvironment_told`,
`readSettings_told`). But it is there as it was said only if it stays as it is in a variable: a password `007` becomes
`7`, and a version `1.50` becomes `1.5`.
-/

set_option autoImplicit false

namespace Phrasebook.Settings

/-! ## One variable among others -/

/-- What a variable stands for, if it is anything at all, is laid over parts of the settings that lie elsewhere than
at a path. -/
def Leaves (start : Option String) (path : List String) (name : String) : Prop :=
  ∀ key ∈ keyOf? start name, Apart (stepsOf key) path

instance (start : Option String) (path : List String) (name : String) : Decidable (Leaves start path name) :=
  inferInstanceAs (Decidable (∀ key ∈ keyOf? start name, Apart (stepsOf key) path))

section Variables

variable {start : Option String} {path : List String} {name key : String} {after : List (String × String)}

/-- The letter case of the name of a variable does not matter. -/
theorem keyOf?_lower {other : String} (h : lower name = lower other) : keyOf? start name = keyOf? start other := by
  have hsame : name.toList.map Char.toLower = other.toList.map Char.toLower := String.ofList_injective h
  unfold keyOf?
  rw [hsame]

/-- Variables are looked at one by one, in their order. -/
theorem environmentValues_append (front back : List (String × String)) :
    environmentValues start (front ++ back) = environmentValues start front ++ environmentValues start back :=
  List.filterMap_append

/-- A variable that leads to a key tells its text there. -/
theorem environmentValues_cons (h : keyOf? start name = some key) (text : String) (back : List (String × String)) :
    environmentValues start ((name, text) :: back) = (key, told text) :: environmentValues start back := by
  refine List.filterMap_cons_some ?_
  change (keyOf? start name).map (fun key => (key, told text)) = some (key, told text)
  rw [h]
  rfl

/-- What variables lay elsewhere than at a path parts from that path. -/
theorem apart_of_leaves (h : ∀ entry ∈ after, Leaves start path entry.1) :
    ∀ entry ∈ environmentValues start after, Apart (stepsOf entry.1) path := by
  intro entry hentry
  obtain ⟨x, hx, hmap⟩ := List.mem_filterMap.1 hentry
  obtain ⟨key, hkey, rfl⟩ := Option.map_eq_some_iff.1 hmap
  exact h x hx key hkey

/-- **Two texts in one variable.** All that the variables say is the same but for the path. -/
theorem sameBut_told (hkey : keyOf? start name = some key) (hsteps : stepsOf key = path.map .key)
    (hafter : ∀ entry ∈ after, Leaves start path entry.1) (under : Value) (before : List (String × String))
    (text other : String) :
    SameBut (told text) (told other) path
      (under.laySource (environmentValues start (before ++ (name, text) :: after)))
      (under.laySource (environmentValues start (before ++ (name, other) :: after))) := by
  -- the text is laid over what the variables before it say, and those after it are laid over that
  have hlast : ∀ text, under.laySource (environmentValues start (before ++ (name, text) :: after)) =
      (Value.layAt (path.map .key) (told text) (under.laySource (environmentValues start before))).laySource
        (environmentValues start after) := by
    intro text
    rw [environmentValues_append, environmentValues_cons hkey, ← hsteps, Value.laySource, List.foldl_append,
      List.foldl_cons]
    rfl
  rw [hlast, hlast]
  exact (sameBut_layAt (fun _ => rfl) (fun _ => rfl) path _).laySource (apart_of_leaves hafter)

end Variables

/-! ## The environment -/

section Environment

variable {k name : String} {after : List (String × String)}

/-- The variable of a text of the environment is named as the text is, and leads to it and to nothing below it. -/
theorem leads_to_environment (hk : Environment.shape.isText k = true) (hname : lower name = k) :
    keyOf? none name = some k ∧ stepsOf k = [k].map .key := by
  have hall : ∀ k ∈ ["run_mode", "postgres_host", "postgres_user", "postgres_password", "postgres_database",
      "redis_host", "redis_password", "amqp_url", "nats_url"], stepsOf k = [.key k] := by decide
  exact ⟨congrArg some hname, hall k (isText_environment_iff.1 hk)⟩

variable (hk : Environment.shape.isText k = true) (hname : lower name = k)
  (hafter : ∀ entry ∈ after, Leaves none [k] entry.1) (before : List (String × String)) (text : String)

include hk hname hafter

/-- The environment as it is read of two texts in one variable. -/
theorem readEnvironment_change (other : String) :
    (readEnvironment (before ++ (name, other) :: after)).map Environment.fields =
      (readEnvironment (before ++ (name, text) :: after)).map fun e => change k (fun _ => taken other) e.fields := by
  obtain ⟨hkey, hsteps⟩ := leads_to_environment hk hname
  have hsame := sameBut_told hkey hsteps hafter (.table none []) before text other
  rw [readEnvironment, readEnvironment, Environment.ofValue?, Environment.ofValue?, Shape.ofValue?_change hk hsame]
  cases hread : Environment.shape.ofValue? ((Value.table none []).laySource
      (environmentValues none (before ++ (name, text) :: after))) with
  | error e => rfl
  | ok fields =>
    -- the environment is made of the fields one by one
    exact congrArg Except.ok (fields_ofFields_change hk (Shape.lookup_ofValue? hk hsame hread) _)

/-- In an environment that is read, the text has what the variable stands for. -/
theorem lookup_readEnvironment {e : Environment} (h : readEnvironment (before ++ (name, text) :: after) = .ok e) :
    e.fields.lookup k = some (taken text) := by
  obtain ⟨hkey, hsteps⟩ := leads_to_environment hk hname
  have hsame := sameBut_told hkey hsteps hafter (.table none []) before text text
  obtain ⟨fields, hread, rfl⟩ := map_eq_ok (mapError_eq_ok h)
  exact lookup_fields_ofFields hk (Shape.lookup_ofValue? hk hsame hread)

end Environment

/-- An environment that is loaded is what the variables tell with which the host goes on. -/
theorem readEnvironment_of_loadEnvironment {h : Host} {file : String} {e : Environment}
    (hload : (loadEnvironment h file).2.result = .ok e) :
    readEnvironment (loadEnvironment h file).1.variables = .ok e := by
  rcases hvars : variablesWith h file with ⟨notes, f | vars⟩
  · rw [loadEnvironment, hvars] at hload
    cases hload
  · rw [loadEnvironment, hvars] at hload ⊢
    cases hread : readEnvironment vars with
    | error f =>
      simp only [hread] at hload
      cases hload
    | ok env =>
      simp only [hread] at hload ⊢
      obtain ⟨-, -, rfl⟩ := map_eq_ok hload
      rfl

/-- Settings that are loaded are the settings that are read: the checks change nothing about them. -/
theorem readSettings_of_load {h : Host} {folder mode : String} {s : Settings}
    (hload : (load h folder mode).result = .ok s) : readSettings h folder mode = .ok s := by
  unfold load at hload
  cases hread : readSettings h folder mode with
  | error f =>
    rw [hread] at hload
    cases hload
  | ok t =>
    rw [hread] at hload
    obtain ⟨-, -, rfl⟩ := map_eq_ok hload
    rfl

/-! ## The settings of the service -/

/-- The variable for a field of a section. -/
def variableOf (key k : String) : String := overlayStart ++ key ++ "__" ++ k

section Service

variable {key k name : String} {after : List (String × String)}

/-- The variable of a text of a section leads to that text in that section. -/
theorem leads_to_settings (hk : isTextOf key k = true) (hname : lower name = variableOf key k) :
    ∃ found, keyOf? (some overlayStart) name = some found ∧ stepsOf found = [key, k].map .key := by
  have hall : ∀ entry ∈ [("app", "name"), ("app", "version"), ("logging", "level"), ("logging", "file"),
      ("amqp", "server_exchange"), ("nats", "server_subject"), ("cors", "allow_origins"), ("tracer", "url"),
      ("tracer", "service_name")], lower (variableOf entry.1 entry.2) = variableOf entry.1 entry.2 ∧
        (keyOf? (some overlayStart) (variableOf entry.1 entry.2)).map stepsOf =
          some ([entry.1, entry.2].map .key) := by decide
  obtain ⟨hlower, hleads⟩ := hall (key, k) (isTextOf_iff.1 hk)
  rw [← keyOf?_lower (hname.trans hlower.symm)] at hleads
  exact Option.map_eq_some_iff.1 hleads

variable (hk : isTextOf key k = true) (hname : lower name = variableOf key k)
  (hafter : ∀ entry ∈ after, Leaves (some overlayStart) [key, k] entry.1) (files : List (String × Bytes))
  (before : List (String × String)) (text : String) (folder mode : String)

include hk hname hafter

/-- The settings as they are read of two texts in one variable. -/
theorem readSettings_change (other : String) :
    (readSettings ⟨files, before ++ (name, other) :: after⟩ folder mode).map toSections =
      (readSettings ⟨files, before ++ (name, text) :: after⟩ folder mode).map fun s =>
        change key (change k fun _ => taken other) s.toSections := by
  obtain ⟨found, hfound, hsteps⟩ := leads_to_settings hk hname
  -- the settings file is the same one, whatever the variables say
  have hfile : ∀ vars, readFile ⟨files, vars⟩ (folder ++ "/" ++ mode) = readFile ⟨files, []⟩ (folder ++ "/" ++ mode) :=
    fun vars => rfl
  rw [readSettings, readSettings, hfile, hfile (before ++ (name, text) :: after)]
  cases readFile ⟨files, []⟩ (folder ++ "/" ++ mode) with
  | error e => rfl
  | ok file =>
    have hsame := sameBut_told hfound hsteps hafter ((Value.table none []).laySource file) before text other
    simp only [bind, Except.bind]
    rw [ofValue?, ofValue?, sectionsOfValue?_change hk hsame]
    cases hread : sectionsOfValue? (((Value.table none []).laySource file).laySource
        (environmentValues (some overlayStart) (before ++ (name, text) :: after))) with
    | error e => rfl
    | ok secs =>
      obtain ⟨fields, hsec, hfield⟩ := lookup_sectionsOfValue? hk hsame hread
      exact congrArg Except.ok (toSections_ofSections_change hk hsec hfield _)

/-- In settings that are read, the text of the section has what the variable stands for. -/
theorem lookup_readSettings {s : Settings}
    (h : readSettings ⟨files, before ++ (name, text) :: after⟩ folder mode = .ok s) :
    ∃ fields, s.toSections.lookup key = some fields ∧ fields.lookup k = some (taken text) := by
  obtain ⟨found, hfound, hsteps⟩ := leads_to_settings hk hname
  obtain ⟨file, -, hvalue⟩ := bind_eq_ok h
  obtain ⟨secs, hread, rfl⟩ := map_eq_ok (mapError_eq_ok hvalue)
  have hsame := sameBut_told hfound hsteps hafter ((Value.table none []).laySource file) before text text
  obtain ⟨fields, hsec, hfield⟩ := lookup_sectionsOfValue? hk hsame hread
  exact lookup_toSections_ofSections hk hsec hfield

end Service

/-! ## What arrives -/

/-- A text field that was taken from a variable holds what the variable stands for, written out. -/
theorem text?_of_lookup {f : Fields} {k text : String} (h : f.lookup k = some (taken text)) :
    f.text? k = some (Atom.ofVariable text).written := by
  rw [Fields.text?, h, taken]

/-- The text of a field of a section. -/
def textOf? (s : Settings) (key k : String) : Option String := (s.toSections.lookup key).bind (·.text? k)

/-- **How the text of a variable arrives.** A variable that is named, letter case aside, for a text of the environment, or
for a text of a section, and is not contradicted by a later one, tells what that text is. The rest of what is read does
not depend on what it says, nor does it depend on that whether the settings can be read at all; and what has been loaded
is the text of the variable exactly if that stays as it is. Of the numbers only those do that have the plain form. -/
theorem texts_arrive_iff (before after : List (String × String)) (name v : String) :
    (Stays v → (Decimal.readReal? v.toList).isSome = true → Decimal.IsPlainReal v.toList) ∧
    (∀ k, Environment.shape.isText k = true → lower name = k → (∀ x ∈ after, Leaves none [k] x.1) →
      (∀ w, (readEnvironment (before ++ (name, w) :: after)).map Environment.fields =
        (readEnvironment (before ++ (name, v) :: after)).map fun e => change k (fun _ => taken w) e.fields) ∧
      ∀ h file e, (loadEnvironment h file).1.variables = before ++ (name, v) :: after →
        (loadEnvironment h file).2.result = .ok e →
        e.fields.text? k = some (Atom.ofVariable v).written ∧ (e.fields.text? k = some v ↔ Stays v)) ∧
    ∀ key k, isTextOf key k = true → lower name = variableOf key k →
      (∀ x ∈ after, Leaves (some overlayStart) [key, k] x.1) → ∀ files folder mode,
        (∀ w, (readSettings ⟨files, before ++ (name, w) :: after⟩ folder mode).map toSections =
          (readSettings ⟨files, before ++ (name, v) :: after⟩ folder mode).map fun s =>
            change key (change k fun _ => taken w) s.toSections) ∧
        ∀ s, (load ⟨files, before ++ (name, v) :: after⟩ folder mode).result = .ok s →
          s.textOf? key k = some (Atom.ofVariable v).written ∧ (s.textOf? key k = some v ↔ Stays v) := by
  -- the written form of what was read off decides whether the text has arrived
  have harrives : ∀ found : Option String, found = some (Atom.ofVariable v).written →
      (found = some v ↔ Stays v) := by
    rintro _ rfl
    rw [Option.some.injEq, written_ofVariable_eq_iff]
  refine ⟨Stays.isPlainReal, ?_, ?_⟩
  · intro k hk hname hafter
    refine ⟨readEnvironment_change hk hname hafter before v, ?_⟩
    intro h file e hvars hload
    have hread := readEnvironment_of_loadEnvironment hload
    rw [hvars] at hread
    have htext := text?_of_lookup (lookup_readEnvironment hk hname hafter before v hread)
    exact ⟨htext, harrives _ htext⟩
  · intro key k hk hname hafter files folder mode
    refine ⟨readSettings_change hk hname hafter files before v folder mode, ?_⟩
    intro s hload
    obtain ⟨fields, hsec, hfield⟩ :=
      lookup_readSettings hk hname hafter files before v folder mode (readSettings_of_load hload)
    have htext : s.textOf? key k = some (Atom.ofVariable v).written := by
      rw [textOf?, hsec]
      exact text?_of_lookup hfield
    exact ⟨htext, harrives _ htext⟩

/-! ## A password of digits -/

/-- The variables of a host, but for the password. -/
def hostVariables : List (String × String) :=
  [("RUN_MODE", "dev"), ("POSTGRES_HOST", "localhost"), ("POSTGRES_PORT", "5432"), ("POSTGRES_USER", "user"),
    ("POSTGRES_DATABASE", "phrases")]

/-- Variables that tell all that has to be in the settings of a service, but for its version. -/
def serviceVariables : List (String × String) :=
  [("TRANSLATION_APP__NAME", "phrases"), ("TRANSLATION_LOGGING__LEVEL", "info"),
    ("TRANSLATION_LOGGING__CONSOLE", "true"), ("TRANSLATION_LOGGING__ROTATION_MAX_FILES", "1"),
    ("TRANSLATION_HTTP__PORT", "8080"), ("TRANSLATION_GRPC__ENABLED", "false"), ("TRANSLATION_GRPC__PORT", "8081"),
    ("TRANSLATION_AMQP__ENABLED", "false"), ("TRANSLATION_AMQP__SERVER_EXCHANGE", "a"),
    ("TRANSLATION_NATS__ENABLED", "false"), ("TRANSLATION_NATS__SERVER_SUBJECT", "a")]

/-- A service with this version, whose settings file says nothing. -/
def serviceHost (version : String) : Host :=
  ⟨[("conf/dev.json", [0x7B, 0x7D])], ("TRANSLATION_APP__VERSION", version) :: serviceVariables⟩

/-- A password of letters and digits arrives, and a version that reads as a fraction does not. -/
theorem letters_arrive_and_fractions_may_not : Stays "s3cret" ∧ ¬ Stays "1.50" := by
  constructor
  · obtain ⟨-, henvironment, -⟩ := texts_arrive_iff [] hostVariables "POSTGRES_PASSWORD" "s3cret"
    obtain ⟨-, hload⟩ := henvironment "postgres_password" (by decide) (by decide) (by decide)
    exact (hload ⟨[], ("POSTGRES_PASSWORD", "s3cret") :: hostVariables⟩ "common.env" _ rfl rfl).2.1 rfl
  · obtain ⟨-, -, hservice⟩ := texts_arrive_iff [] serviceVariables "TRANSLATION_APP__VERSION" "1.50"
    obtain ⟨-, hload⟩ := hservice "app" "version" (by decide) (by decide) (by decide) (serviceHost "1.50").files
      "conf" "dev"
    have hloaded : (load (serviceHost "1.50") "conf" "dev").result.toOption.bind (·.textOf? "app" "version") =
        some "1.5" := by decide +kernel
    intro hstays
    cases hresult : (load (serviceHost "1.50") "conf" "dev").result with
    | error e =>
      rw [hresult] at hloaded
      cases hloaded
    | ok s =>
      have htext := (hload s hresult).2.2 hstays
      rw [hresult, Except.toOption, Option.bind_some, htext] at hloaded
      exact absurd hloaded (by decide)

/-- A password of digits with zeros in front does not arrive as it was set. -/
theorem leading_zeros_are_lost :
    ¬ ∀ e, (loadEnvironment ⟨[], ("POSTGRES_PASSWORD", "007") :: hostVariables⟩ "common.env").2.result = .ok e →
      e.postgresPassword = "007" := by
  intro h
  have hlost : "7" = "007" := h _ rfl
  exact absurd hlost (by decide)

end Phrasebook.Settings
