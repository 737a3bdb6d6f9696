import Mathlib
import HostWatch.Proofs.Config.Accepted
import HostWatch.Proofs.Number.Value
set_option autoImplicit false

/-!
# Configuration: which ones are accepted

The rules of a configuration are checked section by section, and each check stops at the first
rule that is broken.  What is accepted in the end is told here without the checks
(`MonitorConfig.Acceptable`): thresholds that stand for percentages, intervals that are not zero,
endpoint checks that can be probed and have names of their own, channels that can deliver when
alerting is enabled, and a password for the user name of the server.  The checks accept exactly
this (`MonitorConfig.accepted_iff_acceptable`).
-/

namespace HostWatch.Text

/-! ## Letter case

What the library knows about the case of a character is in no module of Mathlib; it comes with
the whole only. -/

theorem upperAscii_lowerAscii (s : String) : upperAscii (lowerAscii s) = upperAscii s := by
  have hcase : Char.toUpper ∘ Char.toLower = Char.toUpper :=
    funext fun c => c.toUpper_toLower_eq_toUpper
  rw [upperAscii, lowerAscii, String.toList_ofList, List.map_map, hcase]
  rfl

theorem lowerAscii_upperAscii (s : String) : lowerAscii (upperAscii s) = lowerAscii s := by
  have hcase : Char.toLower ∘ Char.toUpper = Char.toLower :=
    funext fun c => c.toLower_toUpper_eq_toLower
  rw [lowerAscii, upperAscii, String.toList_ofList, List.map_map, hcase]
  rfl

theorem eqIgnoreCase_iff {s t : String} :
    eqIgnoreCase s t = true ↔ upperAscii s = upperAscii t := by
  rw [eqIgnoreCase, beq_iff_eq]
  constructor
  · intro h
    rw [← upperAscii_lowerAscii s, h, upperAscii_lowerAscii]
  · intro h
    rw [← lowerAscii_upperAscii s, h, lowerAscii_upperAscii]

theorem startsWith_iff_append {s front : String} :
    startsWith s front = true ↔ ∃ rest, s = front ++ rest := by
  rw [startsWith_iff]
  constructor
  · rintro ⟨rest, hrest⟩
    refine ⟨String.ofList rest, String.toList_inj.1 ?_⟩
    rw [hrest, String.toList_append, String.toList_ofList]
  · rintro ⟨rest, rfl⟩
    exact ⟨rest.toList, String.toList_append⟩

end HostWatch.Text

namespace HostWatch

open HostWatch.Text HostWatch.Number

theorem bne_empty_iff {s : String} : (!s.isEmpty) = true ↔ s ≠ "" := by
  rw [Bool.not_eq_true', ← Bool.not_eq_true, String.isEmpty_iff]

theorem bne_zero_iff {n : UInt64} : (n != 0) = true ↔ 0 < n.toNat := by
  rw [bne_iff_ne, Nat.pos_iff_ne_zero, ne_eq, ne_eq, ← UInt64.toNat_inj]
  rfl

/-! ## Numbers -/

/-- The float stands for a percentage. -/
def IsPercentage (x : Float) : Prop := ∃ r, value? x = some r ∧ 0 ≤ r ∧ r ≤ 100

theorem value?_zero : value? 0.0 = some 0 := rfl

theorem value?_hundred : value? 100.0 = some 100 := by
  have hunpack : (100.0 : Float).toModel.unpack =
      .finite .positive 7036874417766400 (-46) (by decide) := rfl
  rw [value?, hunpack, valueOf?]
  norm_num

/-- **Thresholds** are accepted when they stand for percentages. -/
theorem validateThreshold_eq_ok_iff {name : String} {x : Float} :
    validateThreshold name x = .ok () ↔ IsPercentage x := by
  rw [validateThreshold, require_eq_ok_iff, Bool.and_eq_true, decide_eq_true_eq,
    decide_eq_true_eq]
  exact between_iff value?_zero value?_hundred

/-- **Intervals** are accepted when they are not zero. -/
theorem validateInterval_eq_ok_iff {name : String} {secs : UInt64} :
    validateInterval name secs = .ok () ↔ 0 < secs.toNat := by
  rw [validateInterval, require_eq_ok_iff]
  exact bne_zero_iff

/-! ## Endpoint checks -/

/-- The check can be probed. -/
structure EndpointCheck.Proper (c : EndpointCheck) : Prop where
  name_notBlank : ∃ ch ∈ c.name.toList, isBlank ch = false
  url_scheme : ∃ rest, c.url = "http://" ++ rest ∨ c.url = "https://" ++ rest
  method_allowed : ∃ method ∈ probeMethods, eqIgnoreCase c.method method = true
  timeout_pos : 0 < c.timeoutSecs.toNat
  status_range : 100 ≤ c.expectedStatus.toNat ∧ c.expectedStatus.toNat ≤ 599

namespace EndpointCheck

/-- A method that is allowed up to case is one of the methods in capitals. -/
theorem allows_method_iff {method : String} :
    upperAscii method ∈ probeMethods ↔ ∃ m ∈ probeMethods, eqIgnoreCase method m = true := by
  have hcapitals : ∀ m ∈ probeMethods, upperAscii m = m := by decide
  constructor
  · intro h
    exact ⟨_, h, eqIgnoreCase_iff.2 (hcapitals _ h).symm⟩
  · rintro ⟨m, hm, hsame⟩
    rw [eqIgnoreCase_iff.1 hsame, hcapitals m hm]
    exact hm

/-- **An endpoint check** is accepted when it can be probed. -/
theorem validate_eq_ok_iff {c : EndpointCheck} : c.validate = .ok () ↔ c.Proper := by
  have hname : (!isAllBlank c.name) = true ↔ ∃ ch ∈ c.name.toList, isBlank ch = false := by
    simp [isAllBlank]
  have hurl : (startsWith c.url "http://" || startsWith c.url "https://") = true ↔
      ∃ rest, c.url = "http://" ++ rest ∨ c.url = "https://" ++ rest := by
    rw [Bool.or_eq_true, startsWith_iff_append, startsWith_iff_append, exists_or]
  have hstatus : (decide (100 ≤ c.expectedStatus) && decide (c.expectedStatus ≤ 599)) = true ↔
      100 ≤ c.expectedStatus.toNat ∧ c.expectedStatus.toNat ≤ 599 := by
    rw [Bool.and_eq_true, decide_eq_true_eq, decide_eq_true_eq, UInt16.le_iff_toNat_le,
      UInt16.le_iff_toNat_le]
    rfl
  -- An empty address has no scheme and an empty method is none: these two checks add nothing.
  have hurl' : (∃ rest, c.url = "http://" ++ rest ∨ c.url = "https://" ++ rest) →
      (!c.url.isEmpty) = true := by
    rintro ⟨rest, h | h⟩ <;> simp [h]
  have hmethod : (∃ m ∈ probeMethods, eqIgnoreCase c.method m = true) →
      (!c.method.isEmpty) = true := by
    rintro ⟨m, hm, hsame⟩
    rw [bne_empty_iff]
    intro hempty
    have hnone : ∀ m ∈ probeMethods, eqIgnoreCase "" m = false := by decide
    rw [hempty, hnone m hm] at hsame
    cases hsame
  simp only [validate, bind_eq_ok_iff, require_eq_ok_iff, hname, hurl, bne_zero_iff, hstatus,
    List.contains_iff_mem, allows_method_iff]
  constructor
  · rintro ⟨name, _, url, _, method, timeout, status⟩
    exact ⟨name, url, method, timeout, status⟩
  · rintro ⟨name, url, method, timeout, status⟩
    exact ⟨name, hurl' url, url, hmethod method, method, timeout, status⟩

end EndpointCheck

/-! ## Channels -/

/-- Mail can be sent: there are a server with a port, a sender and a recipient. -/
structure EmailConfig.Complete (c : EmailConfig) : Prop where
  host_ne : c.host ≠ ""
  port_ne : c.port ≠ 0
  sender_ne : c.sender ≠ ""
  recipients_ne : c.recipients ≠ ""

/-- Mailgun can be reached: there are a key, a domain, a sender and a recipient. -/
structure MailgunConfig.Complete (c : MailgunConfig) : Prop where
  apiKey_ne : c.apiKey ≠ ""
  domain_ne : c.domain ≠ ""
  sender_ne : c.sender ≠ ""
  recipients_ne : c.recipients ≠ ""

/-- Telegram can be reached: there are a bot and a chat. -/
structure TelegramConfig.Complete (c : TelegramConfig) : Prop where
  botToken_ne : c.botToken ≠ ""
  chatId_ne : c.chatId ≠ ""

theorem EmailConfig.validate_eq_ok_iff {c : EmailConfig} : c.validate = .ok () ↔ c.Complete := by
  simp only [validate, bind_eq_ok_iff, require_eq_ok_iff, bne_empty_iff, bne_iff_ne]
  constructor
  · rintro ⟨host, port, sender, recipients⟩
    exact ⟨host, port, sender, recipients⟩
  · rintro ⟨host, port, sender, recipients⟩
    exact ⟨host, port, sender, recipients⟩

theorem MailgunConfig.validate_eq_ok_iff {c : MailgunConfig} :
    c.validate = .ok () ↔ c.Complete := by
  simp only [validate, bind_eq_ok_iff, require_eq_ok_iff, bne_empty_iff]
  constructor
  · rintro ⟨apiKey, domain, sender, recipients⟩
    exact ⟨apiKey, domain, sender, recipients⟩
  · rintro ⟨apiKey, domain, sender, recipients⟩
    exact ⟨apiKey, domain, sender, recipients⟩

theorem TelegramConfig.validate_eq_ok_iff {c : TelegramConfig} :
    c.validate = .ok () ↔ c.Complete := by
  simp only [validate, bind_eq_ok_iff, require_eq_ok_iff, bne_empty_iff]
  constructor
  · rintro ⟨botToken, chatId⟩
    exact ⟨botToken, chatId⟩
  · rintro ⟨botToken, chatId⟩
    exact ⟨botToken, chatId⟩

theorem validateSection_eq_ok_iff {α : Type} {validate : α → Except Fault Unit}
    {section? : Option α} :
    validateSection validate section? = .ok () ↔ ∀ c ∈ section?, validate c = .ok () := by
  cases section? with
  | none => simp [validateSection]
  | some c => simp [validateSection]

/-- Alerts can be delivered: some channel is configured, and every configured one is complete. -/
structure AlertingConfig.Deliverable (a : AlertingConfig) : Prop where
  some_channel : a.email ≠ none ∨ a.mailgun ≠ none ∨ a.telegram ≠ none
  email_complete : ∀ c ∈ a.email, c.Complete
  mailgun_complete : ∀ c ∈ a.mailgun, c.Complete
  telegram_complete : ∀ c ∈ a.telegram, c.Complete

theorem AlertingConfig.hasChannel_iff {a : AlertingConfig} :
    a.hasChannel = true ↔ a.email ≠ none ∨ a.mailgun ≠ none ∨ a.telegram ≠ none := by
  rw [hasChannel, Bool.or_eq_true, Bool.or_eq_true, Option.isSome_iff_ne_none,
    Option.isSome_iff_ne_none, Option.isSome_iff_ne_none, or_assoc]

/-- **Alerting** is accepted when alerts can be delivered, or when it is disabled. -/
theorem AlertingConfig.validate_eq_ok_iff {a : AlertingConfig} :
    a.validate = .ok () ↔ (a.enabled = true → a.Deliverable) := by
  rw [validate]
  split
  case isFalse hdisabled => exact iff_of_true rfl fun henabled => absurd henabled hdisabled
  case isTrue henabled =>
    rw [forall_prop_of_true henabled]
    simp only [bind_eq_ok_iff, validateSection_eq_ok_iff, require_eq_ok_iff, hasChannel_iff,
      EmailConfig.validate_eq_ok_iff, MailgunConfig.validate_eq_ok_iff,
      TelegramConfig.validate_eq_ok_iff]
    constructor
    · rintro ⟨email, mailgun, telegram, channel⟩
      exact ⟨channel, email, mailgun, telegram⟩
    · rintro ⟨channel, email, mailgun, telegram⟩
      exact ⟨email, mailgun, telegram, channel⟩

/-! ## The server -/

/-- A user name, even an empty one, comes with a password that is not empty. -/
def StatsServerConfig.Guarded (s : StatsServerConfig) : Prop :=
  ∀ name, s.username = some name → ∃ password, s.password = some password ∧ password ≠ ""

/-- **The server** is accepted when its user name comes with a password. -/
theorem StatsServerConfig.validate_eq_ok_iff {s : StatsServerConfig} :
    s.validate = .ok () ↔ s.Guarded := by
  rw [validate, require_eq_ok_iff, Guarded, Bool.or_eq_true, Option.any_eq_true]
  simp only [bne_empty_iff]
  cases s.username with
  | none => simp
  | some name => simp

/-! ## The whole configuration -/

/-- What a configuration has to be, to be accepted. -/
structure MonitorConfig.Acceptable (c : MonitorConfig) : Prop where
  cpuThreshold : IsPercentage c.resources.cpuThreshold
  memoryThreshold : IsPercentage c.resources.memoryThreshold
  diskThreshold : IsPercentage c.resources.diskThreshold
  resourcesInterval : 0 < c.resources.intervalSecs.toNat
  endpointsInterval : 0 < c.endpoints.intervalSecs.toNat
  containersInterval : 0 < c.containers.intervalSecs.toNat
  dispatchInterval : 0 < c.alerting.dispatchIntervalSecs.toNat
  checks_proper : ∀ check ∈ c.endpoints.checks, check.Proper
  names_distinct : (c.endpoints.checks.map (·.name)).Nodup
  deliverable : c.alerting.enabled = true → c.alerting.Deliverable
  guarded : ∀ s ∈ c.server, s.Guarded

/-- **A configuration is accepted** exactly when it is acceptable. -/
theorem MonitorConfig.accepted_iff_acceptable (c : MonitorConfig) :
    c.validate = .ok () ↔ c.Acceptable := by
  simp only [validate, bind_eq_ok_iff, validateThreshold_eq_ok_iff, validateInterval_eq_ok_iff,
    EndpointCheck.validateAll_eq_ok_iff, EndpointCheck.validate_eq_ok_iff,
    AlertingConfig.validate_eq_ok_iff, validateSection_eq_ok_iff,
    StatsServerConfig.validate_eq_ok_iff]
  constructor
  · rintro ⟨cpu, memory, disk, resources, endpoints, containers, dispatch, ⟨proper, _, distinct⟩,
      deliverable, guarded⟩
    exact ⟨cpu, memory, disk, resources, endpoints, containers, dispatch, proper, distinct,
      deliverable, guarded⟩
  · rintro ⟨cpu, memory, disk, resources, endpoints, containers, dispatch, proper, distinct,
      deliverable, guarded⟩
    exact ⟨cpu, memory, disk, resources, endpoints, containers, dispatch,
      ⟨proper, fun _ _ => List.not_mem_nil, distinct⟩, deliverable, guarded⟩

end HostWatch
