import HostWatch.Notify.Transport
import HostWatch.Proofs.Config.Validation
set_option autoImplicit false

/-!
# Notices: which accepted configurations can start

The rules of a configuration ask that mail has a sender and recipients, and the transport for mail
reads them.  So an accepted configuration gets a transport for each of its sections as long as its
mail addresses can be read and there are connectors (`MonitorConfig.transports_of_accepted`).  With
an address that cannot be read it is accepted all the same, and gets no transport at all: the
failure names the address (`MonitorConfig.accepted_without_transport`).
-/

namespace HostWatch

open HostWatch.Text

/-! ## Mailboxes -/

theorem exists_readMailboxes {texts : List String}
    (h : ∀ a ∈ texts, ∃ m, Mailbox.ofText a = .ok m) :
    ∃ boxes, readMailboxes texts = .ok boxes ∧
      List.Forall₂ (fun a m => Mailbox.ofText a = .ok m) texts boxes := by
  induction texts with
  | nil => exact ⟨[], rfl, .nil⟩
  | cons a rest ih =>
    rw [List.forall_mem_cons] at h
    obtain ⟨⟨m, hm⟩, hrest⟩ := h
    obtain ⟨boxes, hboxes, hall⟩ := ih hrest
    refine ⟨m :: boxes, ?_, .cons hm hall⟩
    rw [readMailboxes, hm, hboxes]
    rfl

theorem readMailboxes_of_unreadable {front rest : List String} {a : String} {f : MailboxFault}
    (hfront : ∀ b ∈ front, ∃ m, Mailbox.ofText b = .ok m) (ha : Mailbox.ofText a = .error f) :
    readMailboxes (front ++ a :: rest) =
      .error (.channelNotConfigured ("email: invalid address '" ++ a ++ "': " ++ f.message)) := by
  induction front with
  | nil => rw [List.nil_append, readMailboxes, ha]
  | cons b front ih =>
    rw [List.forall_mem_cons] at hfront
    obtain ⟨⟨m, hm⟩, hfront⟩ := hfront
    rw [List.cons_append, readMailboxes, hm, ih hfront]
    rfl

/-! ## Mail -/

namespace EmailConfig

/-- The addresses can be read, and somebody is written to. -/
structure Addressed (c : EmailConfig) : Prop where
  sender : ∃ m, Mailbox.ofText c.sender = .ok m
  written : commaList c.recipients ≠ []
  recipients : ∀ a ∈ commaList c.recipients, ∃ m, Mailbox.ofText a = .ok m

/-- The transport sends for these settings, from the sender to every recipient that they name. -/
def SendsOver (c : EmailConfig) (t : Transport) : Prop :=
  ∃ sender recipients, t = .email sender recipients c ∧ Mailbox.ofText c.sender = .ok sender ∧
    List.Forall₂ (fun a m => Mailbox.ofText a = .ok m) (commaList c.recipients) recipients

variable {k : Connectors} {c : EmailConfig}

/-- **Mail with addresses** gets its transport. -/
theorem exists_transportOver (hrelay : k.mailRelay c.host = .ok ()) (h : c.Addressed) :
    ∃ t, c.transportOver k = .ok t ∧ c.SendsOver t := by
  obtain ⟨sender, hsender⟩ := h.sender
  obtain ⟨recipients, hread, hall⟩ := exists_readMailboxes h.recipients
  have hconnected : (if c.useTls then k.mailRelay c.host else .ok ()) = .ok () := by
    rw [hrelay, ite_self]
  refine ⟨.email sender recipients c, ?_, sender, recipients, rfl, hsender, hall⟩
  rw [transportOver, hsender, hread]
  cases recipients with
  | nil => exact absurd (List.forall₂_nil_right_iff.1 hall) h.written
  | cons _ _ => simp only [hconnected]

theorem transportOver_of_unreadable_sender {f : MailboxFault}
    (h : Mailbox.ofText c.sender = .error f) :
    c.transportOver k =
      .error (.channelNotConfigured ("email: invalid from address: " ++ f.message)) := by
  rw [transportOver, h]

theorem transportOver_of_unreadable_recipient {front rest : List String} {a : String}
    {f : MailboxFault} (hsender : ∃ m, Mailbox.ofText c.sender = .ok m)
    (hlist : commaList c.recipients = front ++ a :: rest)
    (hfront : ∀ b ∈ front, ∃ m, Mailbox.ofText b = .ok m) (ha : Mailbox.ofText a = .error f) :
    c.transportOver k =
      .error (.channelNotConfigured ("email: invalid address '" ++ a ++ "': " ++ f.message)) := by
  obtain ⟨sender, hsender⟩ := hsender
  rw [transportOver, hsender, hlist, readMailboxes_of_unreadable hfront ha]

end EmailConfig

/-! ## All transports -/

namespace AlertingConfig

variable {k : Connectors} {a : AlertingConfig}

theorem transportsOver_of_disabled (h : a.enabled = false) : a.transportsOver k = .ok [] := by
  rw [transportsOver, h]
  rfl

/-- With clients for the web the other two sections always get their transports. -/
theorem mapM_overWeb (hweb : ∀ channel, k.webClient channel = .ok ()) (ts : List Transport) :
    ts.mapM (Transport.overWeb k) = .ok ts := by
  have hpure : Transport.overWeb k = fun t => pure (id t) := by
    funext t
    rw [Transport.overWeb, hweb]
    rfl
  rw [hpure, List.mapM_pure, List.map_id]
  rfl

theorem transportsOver_eq (henabled : a.enabled = true)
    (hweb : ∀ channel, k.webClient channel = .ok ()) :
    a.transportsOver k =
      (a.email.toList.mapM (EmailConfig.transportOver k)).map fun email =>
        email ++ a.mailgun.toList.map .mailgun ++ a.telegram.toList.map .telegram := by
  rw [transportsOver, henabled, mapM_overWeb hweb, mapM_overWeb hweb]
  cases a.email.toList.mapM (EmailConfig.transportOver k) <;> rfl

theorem exists_transportsOver (henabled : a.enabled = true)
    (hweb : ∀ channel, k.webClient channel = .ok ())
    (hemail : ∀ e ∈ a.email, ∃ t, e.transportOver k = .ok t ∧ e.SendsOver t) :
    ∃ email, List.Forall₂ EmailConfig.SendsOver a.email.toList email ∧
      a.transportsOver k =
        .ok (email ++ a.mailgun.toList.map .mailgun ++ a.telegram.toList.map .telegram) := by
  rw [transportsOver_eq henabled hweb]
  cases hsection : a.email with
  | none => exact ⟨[], .nil, rfl⟩
  | some e =>
    obtain ⟨t, ht, hsends⟩ := hemail e hsection
    refine ⟨[t], .cons hsends .nil, ?_⟩
    rw [Option.toList_some, List.mapM_cons, ht]
    rfl

theorem transportsOver_of_email_error {e : EmailConfig} {f : Fault} (henabled : a.enabled = true)
    (he : e ∈ a.email) (h : e.transportOver k = .error f) : a.transportsOver k = .error f := by
  rw [transportsOver, henabled, he, Option.toList_some, List.mapM_cons, h]
  rfl

end AlertingConfig

namespace MonitorConfig

theorem deliverable_of_validate {c : MonitorConfig} (h : c.validate = .ok ())
    (henabled : c.alerting.enabled = true) : c.alerting.Deliverable := by
  simp only [validate, bind_eq_ok_iff] at h
  obtain ⟨_, _, _, _, _, _, _, _, halerting, _⟩ := h
  exact AlertingConfig.validate_eq_ok_iff.1 halerting henabled

/-- **An accepted configuration** gets a transport for each configured section, mail first, then
Mailgun, then Telegram, and at least one, as long as its mail addresses can be read; none while
alerting is disabled.  An address that cannot be read is reported instead.  This takes clients for
the web and connections to mail servers that have a name. -/
theorem transports_of_accepted (k : Connectors)
    (hweb : ∀ channel, k.webClient channel = .ok ())
    (hrelay : ∀ host, host ≠ "" → k.mailRelay host = .ok ())
    (c : MonitorConfig) (haccepted : c.validate = .ok ()) :
    (c.alerting.enabled = false → c.alerting.transportsOver k = .ok []) ∧
      (c.alerting.enabled = true → (∀ e ∈ c.alerting.email, e.Addressed) →
        ∃ email, List.Forall₂ EmailConfig.SendsOver c.alerting.email.toList email ∧
          c.alerting.transportsOver k =
            .ok (email ++ c.alerting.mailgun.toList.map .mailgun ++
              c.alerting.telegram.toList.map .telegram) ∧
          email ++ c.alerting.mailgun.toList.map .mailgun ++
            c.alerting.telegram.toList.map .telegram ≠ []) ∧
      (c.alerting.enabled = true → ∀ e ∈ c.alerting.email,
        (∀ f, Mailbox.ofText e.sender = .error f →
          c.alerting.transportsOver k =
            .error (.channelNotConfigured ("email: invalid from address: " ++ f.message))) ∧
        ((∃ m, Mailbox.ofText e.sender = .ok m) → ∀ front a rest f,
          commaList e.recipients = front ++ a :: rest →
          (∀ b ∈ front, ∃ m, Mailbox.ofText b = .ok m) → Mailbox.ofText a = .error f →
          c.alerting.transportsOver k =
            .error (.channelNotConfigured
              ("email: invalid address '" ++ a ++ "': " ++ f.message)))) := by
  refine ⟨AlertingConfig.transportsOver_of_disabled, fun henabled haddressed => ?_,
    fun henabled e he => ⟨fun f hsender => ?_, fun hsender front a rest f hlist hfront ha => ?_⟩⟩
  · have hdeliverable := deliverable_of_validate haccepted henabled
    obtain ⟨email, hall, hok⟩ :=
      AlertingConfig.exists_transportsOver henabled hweb fun e he =>
        EmailConfig.exists_transportOver
          (hrelay _ (hdeliverable.email_complete e he).host_ne) (haddressed e he)
    refine ⟨email, hall, hok, fun hnone => ?_⟩
    -- Without any transport there is no section, and that is not accepted.
    rw [List.append_eq_nil_iff, List.append_eq_nil_iff, List.map_eq_nil_iff,
      List.map_eq_nil_iff] at hnone
    obtain ⟨⟨hemail, hmailgun⟩, htelegram⟩ := hnone
    rw [hemail, List.forall₂_nil_right_iff] at hall
    simp only [Option.toList_eq_nil_iff] at hall hmailgun htelegram
    obtain h | h | h := hdeliverable.some_channel
    · exact h hall
    · exact h hmailgun
    · exact h htelegram
  · exact AlertingConfig.transportsOver_of_email_error henabled he
      (EmailConfig.transportOver_of_unreadable_sender hsender)
  · exact AlertingConfig.transportsOver_of_email_error henabled he
      (EmailConfig.transportOver_of_unreadable_recipient hsender hlist hfront ha)

/-- Mail to two recipients, and a chat besides, where mail servers without a name are refused. -/
theorem transports_of_accepted_two_recipients :
    let k : Connectors :=
      ⟨fun _ => .ok (), fun host => if host = "" then .error "empty host" else .ok ()⟩
    let mail : EmailConfig := { EmailConfig.initial with
      host := "mail.example.com"
      sender := "Monic <monic@example.com>"
      recipients := "ops@example.com, , oncall@example.com" }
    let chat : TelegramConfig := { TelegramConfig.initial with botToken := "1:a", chatId := "7" }
    let c : MonitorConfig := { MonitorConfig.initial with
      alerting := { AlertingConfig.initial with
        enabled := true, email := some mail, telegram := some chat } }
    c.validate = .ok () ∧ mail.Addressed ∧
      ∃ t, mail.SendsOver t ∧ c.alerting.transportsOver k = .ok [t, .telegram chat] := by
  intro k mail chat c
  have haccepted : c.validate = .ok () := by decide +kernel
  have hlist : commaList mail.recipients = ["ops@example.com", "oncall@example.com"] := by
    decide +kernel
  have hsender : Mailbox.ofText mail.sender = .ok ⟨some "Monic", "monic", "example.com"⟩ := by
    decide +kernel
  have hops : Mailbox.ofText "ops@example.com" = .ok ⟨none, "ops", "example.com"⟩ := by
    decide +kernel
  have honcall : Mailbox.ofText "oncall@example.com" = .ok ⟨none, "oncall", "example.com"⟩ := by
    decide +kernel
  have haddressed : mail.Addressed := by
    refine ⟨⟨_, hsender⟩, by simp [hlist], fun a ha => ?_⟩
    rw [hlist, List.mem_pair] at ha
    obtain rfl | rfl := ha
    · exact ⟨_, hops⟩
    · exact ⟨_, honcall⟩
  obtain ⟨_, hstarts, _⟩ :=
    transports_of_accepted k (fun _ => rfl) (fun _ h => if_neg h) c haccepted
  obtain ⟨email, hall, hok, _⟩ := hstarts rfl fun e he => by
    obtain rfl : mail = e := Option.some.inj he
    exact haddressed
  obtain ⟨t, _, hsends, hnone, rfl⟩ := List.forall₂_cons_left_iff.1 hall
  obtain rfl := List.forall₂_nil_left_iff.1 hnone
  exact ⟨haccepted, haddressed, t, hsends, hok⟩

/-- **Acceptance does not read addresses**: a sender that is no address is accepted, and there are
no transports. -/
theorem accepted_without_transport :
    let c : MonitorConfig := { MonitorConfig.initial with
      alerting := { AlertingConfig.initial with
        enabled := true
        email := some { EmailConfig.initial with
          host := "mail.example.com"
          sender := "not an address"
          recipients := "ops@example.com" } } }
    c.validate = .ok () ∧
      c.alerting.transports =
        .error (.channelNotConfigured "email: invalid from address: Invalid input") := by
  decide +kernel

end MonitorConfig

end HostWatch
