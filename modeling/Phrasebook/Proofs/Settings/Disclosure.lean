import Phrasebook.App
import Phrasebook.Settings.Load
import Phrasebook.Proofs.Settings.Redaction
import Phrasebook.Proofs.Text.Quoted
/-!
# What the environment discloses

The environment is shown when it has been read, and the address of a broker when it is connected, or is not. Of
the passwords nothing is shown, and of an address everything but its credentials, provided that it has a scheme.
An address without a scheme is shown as it is, credentials and all, although one of the brokers can be reached at
such an address.

So two environments that differ in nothing but secrets look the same exactly if no address without a scheme is
among what differs (`looks_same_iff`). That they look different otherwise needs that quoted texts can be read in one
way only.
-/

set_option autoImplicit false

namespace Phrasebook

/-! ## Addresses that differ in their credentials -/

namespace Settings

/-- Two addresses differ in their credentials at most. These stand before the last at sign, after the scheme where
there is one. -/
inductive SameButCredentials : String → String → Prop where
  | refl (url : String) : SameButCredentials url url
  | withScheme {scheme host : String} (hscheme : ¬ "://".toList <:+: scheme.toList) (hhost : '@' ∉ host.toList)
      (credentials other : String) : SameButCredentials (scheme ++ "://" ++ credentials ++ "@" ++ host)
        (scheme ++ "://" ++ other ++ "@" ++ host)
  | withoutScheme {credentials other host : String} (hcredentials : ¬ "://".toList <:+: credentials.toList)
      (hother : ¬ "://".toList <:+: other.toList) (hhost : '@' ∉ host.toList) :
      SameButCredentials (credentials ++ "@" ++ host) (other ++ "@" ++ host)

/-- The credentials of an address come after a scheme. -/
def HasScheme (url : String) : Prop :=
  ∃ scheme credentials host : String, url = scheme ++ "://" ++ credentials ++ "@" ++ host

/-- An address does not tell another one that it could be: it is that one, or its credentials come after a scheme. -/
def Hides (url other : String) : Prop := url = other ∨ HasScheme url

/-- An address without the mark of a scheme is shown as it is. -/
theorem redact_of_not_hasScheme {url : String} (h : ¬ HasScheme url) : redact url = url := by
  obtain ⟨cs, rfl⟩ : ∃ cs, url = String.ofList cs := ⟨url.toList, String.ofList_toList.symm⟩
  rw [redact_ofList]
  rcases redactChars_cases cs with ⟨hsame, -⟩ | ⟨scheme, credentials, host, rfl, -⟩
  · rw [hsame]
  · refine absurd ⟨String.ofList scheme, String.ofList credentials, String.ofList host, ?_⟩ h
    rw [← String.toList_inj]
    simp

/-- The credentials before the last at sign are all there is before it. -/
theorem not_hasScheme {credentials host : String} (hcredentials : ¬ "://".toList <:+: credentials.toList)
    (hhost : '@' ∉ host.toList) : ¬ HasScheme (credentials ++ "@" ++ host) := by
  rintro ⟨scheme, other, tail, hurl⟩
  have hlists : credentials.toList ++ '@' :: host.toList =
      (scheme.toList ++ "://".toList ++ other.toList) ++ '@' :: tail.toList := by
    simpa using congrArg String.toList hurl
  rcases List.append_eq_append_iff.1 hlists with ⟨as, hfront, hback⟩ | ⟨bs, hfront, -⟩
  · cases as with
    | nil =>
      rw [List.append_nil] at hfront
      exact hcredentials ⟨scheme.toList, other.toList, hfront⟩
    | cons c as =>
      -- the sign after the scheme would stand in the host
      rw [List.cons_append, List.cons.injEq] at hback
      rw [hback.2] at hhost
      simp at hhost
  · refine hcredentials ⟨scheme.toList, other.toList ++ bs, ?_⟩
    rw [hfront, List.append_assoc _ other.toList]

/-- Two addresses with the same parts but for their credentials are shown alike exactly if the credentials are
hidden in both, or are the same. -/
theorem redact_eq_iff {url other : String} (h : SameButCredentials url other) :
    redact url = redact other ↔ Hides url other := by
  cases h with
  | refl => exact iff_of_true rfl (Or.inl rfl)
  | @withScheme scheme host hscheme hhost credentials other =>
    refine iff_of_true ?_ (Or.inr ⟨scheme, credentials, host, rfl⟩)
    rw [redact_of_credentials hscheme hhost, redact_of_credentials hscheme hhost]
  | @withoutScheme credentials other host hcredentials hother hhost =>
    have hbare := not_hasScheme hcredentials hhost
    rw [redact_of_not_hasScheme hbare, redact_of_not_hasScheme (not_hasScheme hother hhost), Hides, or_iff_left hbare]

end Settings

/-! ## The environment as it is shown -/

namespace Environment

open Settings

/-- Two environments differ in secrets at most: in their passwords, and in the credentials in the addresses of the
brokers. -/
structure SameButSecrets (e other : Environment) : Prop where
  runMode : e.runMode = other.runMode
  postgresHost : e.postgresHost = other.postgresHost
  postgresPortNumber : e.postgresPortNumber = other.postgresPortNumber
  postgresUser : e.postgresUser = other.postgresUser
  postgresDatabase : e.postgresDatabase = other.postgresDatabase
  redisHost : e.redisHost = other.redisHost
  redisDb : e.redisDb = other.redisDb
  amqpUrl : SameButCredentials e.amqpUrl other.amqpUrl
  natsUrl : SameButCredentials e.natsUrl other.natsUrl

/-- What is shown of an environment before the addresses of the brokers. -/
def shownFirst (e : Environment) : List (String × String) := e.shown.take 7

/-- What is shown before the addresses has no secret in it. -/
theorem SameButSecrets.shownFirst_eq {e other : Environment} (h : SameButSecrets e other) :
    e.shownFirst = other.shownFirst := by
  simp only [shownFirst, shown, List.take, h.runMode, h.postgresHost, h.postgresPortNumber, h.postgresUser,
    h.postgresDatabase, h.redisHost, h.redisDb]

/-- A line with two quoted texts in it tells both of them. -/
theorem quoted_pair_inj {front mid back v w v' w' : String} :
    front ++ (Text.quoted v ++ (mid ++ (Text.quoted w ++ back))) =
      front ++ (Text.quoted v' ++ (mid ++ (Text.quoted w' ++ back))) ↔ v = v' ∧ w = w' := by
  constructor
  · intro h
    obtain ⟨hfirst, hrest⟩ := Text.quoted_append_inj ((String.append_right_inj front).1 h)
    obtain ⟨hsecond, -⟩ := Text.quoted_append_inj ((String.append_right_inj mid).1 hrest)
    exact ⟨hfirst, hsecond⟩
  · rintro ⟨rfl, rfl⟩
    rfl

/-- The addresses come last on the line. -/
theorem show_eq (e : Environment) :
    e.show = shape.name ++ " \x7b " ++ ", ".intercalate (e.shownFirst.map fun (n, v) => n ++ ": " ++ v) ++
      (", " ++ "amqp_url" ++ ": ") ++ (Text.quoted (redact e.amqpUrl) ++
        (", " ++ "nats_url" ++ ": " ++ (Text.quoted (redact e.natsUrl) ++ " \x7d"))) := by
  have hlast : ∀ v w, ", ".intercalate ((e.shownFirst.map fun (n, v) => n ++ ": " ++ v) ++ [v, w]) =
      ", ".intercalate (e.shownFirst.map fun (n, v) => n ++ ": " ++ v) ++ ", " ++ v ++ ", " ++ w := fun _ _ => rfl
  have hshow : e.show = shape.name ++ " \x7b " ++ ", ".intercalate ((e.shownFirst.map fun (n, v) => n ++ ": " ++ v) ++
      ["amqp_url" ++ ": " ++ Text.quoted (redact e.amqpUrl), "nats_url" ++ ": " ++ Text.quoted (redact e.natsUrl)]) ++
        " \x7d" := rfl
  rw [hshow, hlast]
  simp only [String.append_assoc]

/-- The addresses come on the last lines. -/
theorem showLines_eq (e : Environment) :
    e.showLines = shape.name ++ " \x7b\n" ++
      String.join (e.shownFirst.map fun (n, v) => "    " ++ n ++ ": " ++ v ++ ",\n") ++
        ("    " ++ "amqp_url" ++ ": ") ++ (Text.quoted (redact e.amqpUrl) ++ (",\n" ++ "    " ++ "nats_url" ++ ": " ++
          (Text.quoted (redact e.natsUrl) ++ (",\n" ++ "\x7d")))) := by
  have hshow : e.showLines = shape.name ++ " \x7b\n" ++
      (String.join (e.shownFirst.map fun (n, v) => "    " ++ n ++ ": " ++ v ++ ",\n") ++
        ("    " ++ "amqp_url" ++ ": " ++ Text.quoted (redact e.amqpUrl) ++ ",\n") ++
          ("    " ++ "nats_url" ++ ": " ++ Text.quoted (redact e.natsUrl) ++ ",\n")) ++ "\x7d" := rfl
  rw [hshow]
  simp only [String.append_assoc]

variable {e other : Environment} (h : SameButSecrets e other)

include h

/-- Two environments that differ only in secrets are shown alike exactly if the secrets in both addresses are
hidden. -/
theorem show_eq_iff : e.show = other.show ↔ Hides e.amqpUrl other.amqpUrl ∧ Hides e.natsUrl other.natsUrl := by
  rw [show_eq, show_eq, h.shownFirst_eq, quoted_pair_inj, redact_eq_iff h.amqpUrl, redact_eq_iff h.natsUrl]

/-- The same of the form in which each field has a line of its own. -/
theorem showLines_eq_iff :
    e.showLines = other.showLines ↔ Hides e.amqpUrl other.amqpUrl ∧ Hides e.natsUrl other.natsUrl := by
  rw [showLines_eq, showLines_eq, h.shownFirst_eq, quoted_pair_inj, redact_eq_iff h.amqpUrl, redact_eq_iff h.natsUrl]

end Environment

/-! ## Where it is shown -/

namespace Settings

/-- The environment that a host reads, whether it is accepted or not. -/
def ReadsAs (h : Host) (file : String) (e : Environment) : Prop :=
  ∃ notes vars, variablesWith h file = (notes, .ok vars) ∧ readEnvironment vars = .ok e

/-- The last thing reported of an environment that has been read is the environment. -/
theorem getLast?_printed {h : Host} {file : String} {e : Environment} (hread : ReadsAs h file e) :
    (loadEnvironment h file).2.printed.getLast? = some ("Common env configuration: " ++ e.show) := by
  obtain ⟨notes, vars, hvars, henv⟩ := hread
  rw [loadEnvironment, hvars]
  dsimp only
  rw [henv]
  exact List.getLast?_concat

end Settings

namespace Broker

open Settings

/-- The line about a connection tells no more of the address than its hidden form. -/
theorem connectedLine_eq_iff (k : Kind) (url other subject : String) :
    k.connectedLine url subject = k.connectedLine other subject ↔ redact url = redact other := by
  cases k <;>
    simp only [Kind.connectedLine, LogLine.mk.injEq, true_and, String.append_assoc, String.append_right_inj,
      String.append_left_inj]

/-- Nor does the failure to connect, whatever the reason given for it. -/
theorem connectFailure_eq_iff (k : Kind) (url other why : String) :
    k.connectFailure url why = k.connectFailure other why ↔ redact url = redact other := by
  have hchain : ∀ s t : String, (⟨s, []⟩ : Chain) = ⟨t, []⟩ ↔ s = t := by simp
  cases k <;>
    refine (hchain _ _).trans ?_ <;> rw [String.append_left_inj, String.append_left_inj, String.append_right_inj]

end Broker

/-! ## What two environments look like -/

open Settings in
/-- **What the environment discloses.** Two environments that differ in secrets at most are shown alike, on one line or
on several, and are reported alike when they are read, exactly if the addresses of both brokers hide what differs in
them: they are the same, or their credentials come after a scheme. And the lines that tell of a connection, or of the
failure to connect, are alike exactly if the address of that broker does. -/
theorem looks_same_iff {e other : Environment} (hsecrets : e.SameButSecrets other) :
    (e.show = other.show ↔ Hides e.amqpUrl other.amqpUrl ∧ Hides e.natsUrl other.natsUrl) ∧
    (e.showLines = other.showLines ↔ Hides e.amqpUrl other.amqpUrl ∧ Hides e.natsUrl other.natsUrl) ∧
    (∀ h h' file file', ReadsAs h file e → ReadsAs h' file' other →
      ((loadEnvironment h file).2.printed.getLast? = (loadEnvironment h' file').2.printed.getLast? ↔
        Hides e.amqpUrl other.amqpUrl ∧ Hides e.natsUrl other.natsUrl)) ∧
    ∀ (s : Settings) (k : Broker.Kind),
      let url := (App.brokerPlace s e k).1
      let otherUrl := (App.brokerPlace s other k).1
      (∀ subject, k.connectedLine url subject = k.connectedLine otherUrl subject ↔ Hides url otherUrl) ∧
        ∀ why, k.connectFailure url why = k.connectFailure otherUrl why ↔ Hides url otherUrl := by
  refine ⟨Environment.show_eq_iff hsecrets, Environment.showLines_eq_iff hsecrets, ?_, ?_⟩
  · intro h h' file file' hread hread'
    rw [getLast?_printed hread, getLast?_printed hread', Option.some.injEq, String.append_right_inj]
    exact Environment.show_eq_iff hsecrets
  · intro s k
    -- each broker shows the URL of its own kind
    have hurl : SameButCredentials (App.brokerPlace s e k).1 (App.brokerPlace s other k).1 := by
      cases k with
      | amqp => exact hsecrets.amqpUrl
      | nats => exact hsecrets.natsUrl
    constructor
    · intro subject
      rw [Broker.connectedLine_eq_iff, redact_eq_iff hurl]
    · intro why
      rw [Broker.connectFailure_eq_iff, redact_eq_iff hurl]

/-- An environment whose brokers are at these addresses. -/
def environmentAt (password amqpUrl natsUrl : String) : Environment where
  runMode := "dev"
  postgresHost := "localhost"
  postgresPortNumber := 5432
  postgresUser := "user"
  postgresPassword := password
  postgresDatabase := "phrases"
  redisHost := ""
  redisPassword := none
  redisDb := 0
  amqpUrl := amqpUrl
  natsUrl := natsUrl

open Settings in
/-- Users and passwords in proper addresses are not shown: two environments with others look the same. -/
theorem guest_looks_like_admin :
    (environmentAt "one" "amqp://guest:g@localhost" "").SameButSecrets
      (environmentAt "two" "amqp://admin:p@s://w@localhost" "") ∧
    (environmentAt "one" "amqp://guest:g@localhost" "").show =
      (environmentAt "two" "amqp://admin:p@s://w@localhost" "").show := by
  have hsecrets : (environmentAt "one" "amqp://guest:g@localhost" "").SameButSecrets
      (environmentAt "two" "amqp://admin:p@s://w@localhost" "") :=
    ⟨rfl, rfl, rfl, rfl, rfl, rfl, rfl,
      @SameButCredentials.withScheme "amqp" "localhost" (by decide) (by decide) "guest:g" "admin:p@s://w", .refl ""⟩
  refine ⟨hsecrets, (looks_same_iff hsecrets).1.2 ⟨Or.inr ⟨"amqp", "guest:g", "localhost", rfl⟩, Or.inl rfl⟩⟩

open Settings in
/-- Credentials in an address without a scheme are shown, so environments that differ only in secrets need not
look alike. -/
theorem bare_credentials_are_disclosed :
    ¬ ∀ e other : Environment, e.SameButSecrets other → e.show = other.show := by
  intro h
  have hsecrets : (environmentAt "" "" "user:pass@localhost:4222").SameButSecrets
      (environmentAt "" "" "user:word@localhost:4222") :=
    ⟨rfl, rfl, rfl, rfl, rfl, rfl, rfl, .refl "",
      @SameButCredentials.withoutScheme "user:pass" "user:word" "localhost:4222" (by decide)
        (by decide) (by decide)⟩
  exact absurd (h _ _ hsecrets) (by decide +kernel)

end Phrasebook
