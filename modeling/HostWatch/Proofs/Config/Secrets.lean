import HostWatch.Config.Rules
import HostWatch.Proofs.Json.Records
set_option autoImplicit false

/-!
# Configuration: secrets stay where they are

A configuration holds four secrets: the mail password, the Mailgun key, the Telegram token and the
password of the server.  The rules ask of a secret at most whether it is there and not empty, and
what is written leaves all four out.  So two configurations that differ in nothing but the values of
their secrets (`MonitorConfig.SameButSecrets`) are written the same and pass or fail the rules with
the same fault, whose text thus tells no secret (`MonitorConfig.secrets_stay`).
-/

namespace HostWatch

/-- Both secrets are missing, both are empty, or neither is. -/
def SameSecret (secret secret' : Option String) : Prop :=
  secret.map String.isEmpty = secret'.map String.isEmpty

/-- Two configurations differ at most in the values of their secrets. -/
structure MonitorConfig.SameButSecrets (c c' : MonitorConfig) : Prop where
  shown : c.withoutSecrets = c'.withoutSecrets
  mailPassword : SameSecret (c.alerting.email.map (·.password)) (c'.alerting.email.map (·.password))
  mailgunKey : SameSecret (c.alerting.mailgun.map (·.apiKey)) (c'.alerting.mailgun.map (·.apiKey))
  telegramToken :
    SameSecret (c.alerting.telegram.map (·.botToken)) (c'.alerting.telegram.map (·.botToken))
  serverPassword : SameSecret (c.server.bind (·.password)) (c'.server.bind (·.password))

section

variable {α : Type} {c c' : α} {section? section?' : Option α}

theorem SameSecret.isEmpty_eq {secret : α → String}
    (h : SameSecret (section?.map secret) (section?'.map secret)) (hc : c ∈ section?)
    (hc' : c' ∈ section?') : (secret c).isEmpty = (secret c').isEmpty := by
  rw [hc, hc'] at h
  exact Option.some.inj h

theorem SameSecret.of_bind {secret : α → Option String}
    (h : SameSecret (section?.bind secret) (section?'.bind secret)) (hc : c ∈ section?)
    (hc' : c' ∈ section?') : SameSecret (secret c) (secret c') := by
  rw [hc, hc'] at h
  exact h

/-- Sections that show the same are checked the same, if what they show settles their check. -/
theorem validateSection_eq {validate : α → Except Fault Unit} {shown : α → α}
    (hshown : section?.map shown = section?'.map shown)
    (hvalidate : ∀ c ∈ section?, ∀ c' ∈ section?', shown c = shown c' → validate c = validate c') :
    validateSection validate section? = validateSection validate section?' := by
  cases section? with
  | none =>
    rw [Option.map_none, eq_comm, Option.map_eq_none_iff] at hshown
    rw [hshown]
  | some c =>
    rw [Option.map_some, eq_comm, Option.map_eq_some_iff] at hshown
    obtain ⟨c', rfl, hsame⟩ := hshown
    exact hvalidate c rfl c' rfl hsame.symm

end

/-! ## The rules of each section -/

/-- The rules for mail do not ask for the password. -/
theorem EmailConfig.validate_eq {c c' : EmailConfig}
    (hshown : c.withoutSecrets = c'.withoutSecrets) : c.validate = c'.validate := by
  show c.withoutSecrets.validate = c'.withoutSecrets.validate
  rw [hshown]

/-- The rules for Mailgun ask whether there is a key. -/
theorem MailgunConfig.validate_eq {c c' : MailgunConfig}
    (hshown : c.withoutSecrets = c'.withoutSecrets) (hkey : c.apiKey.isEmpty = c'.apiKey.isEmpty) :
    c.validate = c'.validate := by
  obtain ⟨_, _, _, _, _⟩ := c
  obtain ⟨_, _, _, _, _⟩ := c'
  simp only [withoutSecrets, mk.injEq, true_and] at hshown
  obtain ⟨rfl, rfl, rfl, rfl⟩ := hshown
  simp only [validate, hkey]

/-- The rules for Telegram ask whether there is a token. -/
theorem TelegramConfig.validate_eq {c c' : TelegramConfig}
    (hshown : c.withoutSecrets = c'.withoutSecrets)
    (htoken : c.botToken.isEmpty = c'.botToken.isEmpty) : c.validate = c'.validate := by
  obtain ⟨_, _, _⟩ := c
  obtain ⟨_, _, _⟩ := c'
  simp only [withoutSecrets, mk.injEq, true_and] at hshown
  obtain ⟨rfl, rfl⟩ := hshown
  simp only [validate, htoken]

/-- The rules for the server ask whether there is a password that is not empty. -/
theorem StatsServerConfig.validate_eq {c c' : StatsServerConfig}
    (hshown : c.withoutSecrets = c'.withoutSecrets)
    (hpassword : SameSecret c.password c'.password) : c.validate = c'.validate := by
  have hany : ∀ password : Option String,
      password.any (! ·.isEmpty) = (password.map String.isEmpty).any (! ·) := by
    intro password
    cases password <;> rfl
  have huser : c.username = c'.username := congrArg (·.username) hshown
  rw [validate, validate, hany, hany, hpassword, huser]

namespace MonitorConfig

variable {c c' : MonitorConfig}

namespace SameButSecrets

theorem email_eq (h : c.SameButSecrets c') :
    validateSection EmailConfig.validate c.alerting.email =
      validateSection EmailConfig.validate c'.alerting.email :=
  validateSection_eq (congrArg (·.alerting.email) h.shown) fun _ _ _ _ => EmailConfig.validate_eq

theorem mailgun_eq (h : c.SameButSecrets c') :
    validateSection MailgunConfig.validate c.alerting.mailgun =
      validateSection MailgunConfig.validate c'.alerting.mailgun :=
  validateSection_eq (congrArg (·.alerting.mailgun) h.shown) fun _ hm _ hm' hshown =>
    MailgunConfig.validate_eq hshown (h.mailgunKey.isEmpty_eq hm hm')

theorem telegram_eq (h : c.SameButSecrets c') :
    validateSection TelegramConfig.validate c.alerting.telegram =
      validateSection TelegramConfig.validate c'.alerting.telegram :=
  validateSection_eq (congrArg (·.alerting.telegram) h.shown) fun _ ht _ ht' hshown =>
    TelegramConfig.validate_eq hshown (h.telegramToken.isEmpty_eq ht ht')

theorem server_eq (h : c.SameButSecrets c') :
    validateSection StatsServerConfig.validate c.server =
      validateSection StatsServerConfig.validate c'.server :=
  validateSection_eq (congrArg (·.server) h.shown) fun _ hs _ hs' hshown =>
    StatsServerConfig.validate_eq hshown (h.serverPassword.of_bind hs hs')

theorem hasChannel_eq (h : c.SameButSecrets c') :
    c.alerting.hasChannel = c'.alerting.hasChannel := by
  have hshown : ∀ a : AlertingConfig, a.withoutSecrets.hasChannel = a.hasChannel := by
    intro a
    simp only [AlertingConfig.hasChannel, AlertingConfig.withoutSecrets, Option.isSome_map]
  rw [← hshown, ← hshown c'.alerting]
  exact congrArg (·.alerting.hasChannel) h.shown

theorem alerting_eq (h : c.SameButSecrets c') : c.alerting.validate = c'.alerting.validate := by
  have henabled : c.alerting.enabled = c'.alerting.enabled :=
    congrArg (·.alerting.enabled) h.shown
  rw [AlertingConfig.validate, AlertingConfig.validate, henabled, h.email_eq, h.mailgun_eq,
    h.telegram_eq, h.hasChannel_eq]

theorem validate_eq (h : c.SameButSecrets c') : c.validate = c'.validate := by
  have hresources : c.resources = c'.resources := congrArg (·.resources) h.shown
  have hendpoints : c.endpoints = c'.endpoints := congrArg (·.endpoints) h.shown
  have hcontainers : c.containers = c'.containers := congrArg (·.containers) h.shown
  have hdispatch : c.alerting.dispatchIntervalSecs = c'.alerting.dispatchIntervalSecs :=
    congrArg (·.alerting.dispatchIntervalSecs) h.shown
  rw [validate, validate, hresources, hendpoints, hcontainers, hdispatch, h.alerting_eq,
    h.server_eq]

theorem toJson_eq (h : c.SameButSecrets c') : c.toJson = c'.toJson := by
  rw [← c.toJson_withoutSecrets, ← c'.toJson_withoutSecrets, h.shown]

end SameButSecrets

/-- **Secrets stay where they are**: configurations that differ at most in the values of their
secrets are written the same, and each of the rules gives the same result, down to the text of its
fault. -/
theorem secrets_stay (c c' : MonitorConfig) (h : c.SameButSecrets c') :
    c.toJson = c'.toJson ∧
      c.validate = c'.validate ∧
      c.alerting.validate = c'.alerting.validate ∧
      validateSection EmailConfig.validate c.alerting.email =
        validateSection EmailConfig.validate c'.alerting.email ∧
      validateSection MailgunConfig.validate c.alerting.mailgun =
        validateSection MailgunConfig.validate c'.alerting.mailgun ∧
      validateSection TelegramConfig.validate c.alerting.telegram =
        validateSection TelegramConfig.validate c'.alerting.telegram ∧
      validateSection StatsServerConfig.validate c.server =
        validateSection StatsServerConfig.validate c'.server :=
  ⟨h.toJson_eq, h.validate_eq, h.alerting_eq, h.email_eq, h.mailgun_eq, h.telegram_eq, h.server_eq⟩

/-- Two configurations with nothing but their secrets apart are refused for the same reason, which
is found behind the Mailgun key. -/
theorem secrets_stay_refused :
    let holding (password key token server : String) : MonitorConfig :=
      { MonitorConfig.initial with
        alerting := { AlertingConfig.initial with
          enabled := true
          email := some ⟨"mail.example.com", 25, "monic", password, "a@b.c", "d@e.f", true⟩
          mailgun := some { MailgunConfig.initial with apiKey := key }
          telegram := some { TelegramConfig.initial with botToken := token } }
        server := some { StatsServerConfig.initial with
          username := some "admin"
          password := some server } }
    let c := holding "hunter2" "key-1" "123:abc" "secret"
    let c' := holding "hunter3" "key-2" "456:def" "other"
    c.SameButSecrets c' ∧ c ≠ c' ∧ c.toJson = c'.toJson ∧
      c.alerting.validate = .error (.channelNotConfigured "mailgun: domain is required") ∧
      c'.alerting.validate = .error (.channelNotConfigured "mailgun: domain is required") := by
  intro holding c c'
  have hsame : c.SameButSecrets c' := by constructor <;> rfl
  have hrefused : c.alerting.validate =
      .error (.channelNotConfigured "mailgun: domain is required") := rfl
  obtain ⟨hjson, _, halerting, _⟩ := secrets_stay c c' hsame
  exact ⟨hsame, by decide, hjson, hrefused, halerting ▸ hrefused⟩

end MonitorConfig

end HostWatch
