import Mathlib.Data.List.Basic
import Mathlib.Data.List.Induction
import HostWatch.Alert.Dispatcher
set_option autoImplicit false

/-!
# Alerts: the cooldown of a kind

Calls to the dispatcher may overlap.  Each of them goes through its batch event by event,
with a time of its own, and between two events of one call any number of events of the
others may be claimed.  An interleaving is a schedule that says which call goes on next
(`Dispatcher.interleave`), and its claims are listed in the order in which they were made.

The dispatcher remembers for each kind the time of the claim that went out last
(`Dispatcher.Remembers`), and every claim keeps that true, whichever call it belongs to.
So the rule for an event can be read off the claims before it, and the times of the calls
need not agree with the order of the claims.
-/

namespace HostWatch

open HostWatch.Time (Instant)

/-- A call to the dispatcher that is under way. -/
structure DispatchCall where
  now : Instant
  /-- what the channels answer to its events -/
  replies : Replies
  /-- the place of the next event in its batch -/
  position : Nat
  /-- the events that it has still to claim -/
  todo : List AlertEvent

/-- What became of one event of a call. -/
structure Claim where
  event : AlertEvent
  /-- the time of its call -/
  now : Instant
  /-- how it was handled; a disabled dispatcher handles nothing -/
  handling : Option Handling
  deriving DecidableEq, Repr, Inhabited

namespace Claim

/-- The event was passed to the channels. -/
def passed (c : Claim) : Bool := c.handling.any fun h => h.verdict = .passed

/-- The channels that the event was passed to. -/
def reached (c : Claim) : List String :=
  (c.handling.toList.flatMap (·.deliveries)).map (·.channel)

/-- The claims of a kind that went out. -/
def passedOf (kind : String) (claims : List Claim) : List Claim :=
  claims.filter fun c => c.passed && c.event.kind = kind

/-- The time of the claim of a kind that went out last. -/
def lastPassed? (kind : String) (claims : List Claim) : Option Instant :=
  (passedOf kind claims).getLast?.map (·.now)

theorem passedOf_append_singleton (kind : String) (claims : List Claim) (c : Claim) :
    passedOf kind (claims ++ [c]) =
      if c.passed = true ∧ c.event.kind = kind then passedOf kind claims ++ [c]
      else passedOf kind claims := by
  unfold passedOf
  rw [List.filter_append]
  by_cases h : c.passed = true ∧ c.event.kind = kind
  · simp [h.1, h.2]
  · rw [if_neg h]
    simpa using h

theorem lastPassed?_append_singleton (kind : String) (claims : List Claim) (c : Claim) :
    lastPassed? kind (claims ++ [c]) =
      if c.passed = true ∧ c.event.kind = kind then some c.now else lastPassed? kind claims := by
  unfold lastPassed?
  rw [passedOf_append_singleton]
  split
  · simp
  · rfl

end Claim

namespace Dispatcher

/-! ## One claim -/

/-- A call claims an event. -/
def claim (d : Dispatcher) (call : DispatchCall) (e : AlertEvent) : Dispatcher × Claim :=
  if d.enabled then
    let r := d.handle e call.now (call.replies call.position)
    (r.1, ⟨e, call.now, some r.2⟩)
  else (d, ⟨e, call.now, none⟩)

/-- The settings of two dispatchers agree. -/
def SameSettings (d d' : Dispatcher) : Prop :=
  d.enabled = d'.enabled ∧ d.levels = d'.levels ∧ d.cooldownSecs = d'.cooldownSecs ∧
    d.channels = d'.channels

/-- The cooldown in nanoseconds. -/
def cooldownNanos (d : Dispatcher) : Int := d.cooldownSecs * 1000000000

theorem admitEvent_snd (d : Dispatcher) (e : AlertEvent) (now : Instant) :
    (d.admitEvent e now).2 = d.decideEvent e now := by
  unfold admitEvent
  split
  · rename_i h
    exact h.symm
  · rfl

theorem sameSettings_admitEvent (d : Dispatcher) (e : AlertEvent) (now : Instant) :
    (d.admitEvent e now).1.SameSettings d := by
  unfold admitEvent
  split <;> exact ⟨rfl, rfl, rfl, rfl⟩

theorem lastSent?_admitEvent (d : Dispatcher) (e : AlertEvent) (now : Instant) (kind : String) :
    (d.admitEvent e now).1.lastSent? kind =
      if d.decideEvent e now = .passed ∧ e.kind = kind then some now else d.lastSent? kind := by
  unfold admitEvent
  split
  · rename_i h
    simp only [h, true_and]
    exact d.lastSent.find?_insert e.kind kind now
  · rename_i h
    rw [if_neg]
    rintro ⟨hpassed, _⟩
    exact h hpassed

/-- An event goes out when its level is allowed and the cooldown of its kind is over. -/
theorem decideEvent_eq_passed_iff (d : Dispatcher) (e : AlertEvent) (now : Instant) :
    d.decideEvent e now = .passed ↔
      (d.levels = [] ∨ e.level ∈ d.levels) ∧
        (d.cooldownSecs = 0 ∨
          ∀ previous, d.lastSent? e.kind = some previous →
            d.cooldownNanos ≤ previous.elapsed now) := by
  have hallows : d.allows e.level = true ↔ d.levels = [] ∨ e.level ∈ d.levels := by
    simp [allows]
  have hcooling : d.isCooling e.kind now = false ↔
      d.cooldownSecs = 0 ∨
        ∀ previous, d.lastSent? e.kind = some previous →
          d.cooldownNanos ≤ previous.elapsed now := by
    unfold isCooling lastSent? cooldownNanos
    cases d.lastSent.find? e.kind with
    | none => simp
    | some previous =>
      simp only [Bool.and_eq_false_iff, bne_eq_false_iff_eq, decide_eq_false_iff_not, Int.not_lt,
        Option.some.injEq, forall_eq']
  unfold decideEvent
  rw [← hallows, ← hcooling]
  cases d.allows e.level <;> cases d.isCooling e.kind now <;> simp

theorem claim_passed_iff (d : Dispatcher) (call : DispatchCall) (e : AlertEvent) :
    (d.claim call e).2.passed = true ↔
      d.enabled = true ∧ d.decideEvent e call.now = .passed := by
  unfold claim
  cases henabled : d.enabled with
  | false => simp [Claim.passed]
  | true => simp [Claim.passed, handle, admitEvent_snd]

/-- An event that is passed reaches every channel, any other one reaches none. -/
theorem claim_reached (d : Dispatcher) (call : DispatchCall) (e : AlertEvent) :
    (d.claim call e).2.reached = if (d.claim call e).2.passed then d.channels else [] := by
  unfold claim
  cases henabled : d.enabled with
  | false => simp [Claim.reached, Claim.passed]
  | true =>
    have hnames : ∀ reply, (d.deliveries reply).map (·.channel) = d.channels := by
      intro reply
      unfold deliveries
      rw [List.map_map]
      exact List.zipIdx_map_fst 0 d.channels
    have hchannels : (d.admitEvent e call.now).1.channels = d.channels :=
      (sameSettings_admitEvent d e call.now).2.2.2
    by_cases hpassed : (d.admitEvent e call.now).2 = .passed
    · simp [Claim.reached, Claim.passed, handle, hpassed, hnames]
    · simp [Claim.reached, Claim.passed, handle, hpassed]

@[simp] theorem claim_event (d : Dispatcher) (call : DispatchCall) (e : AlertEvent) :
    (d.claim call e).2.event = e := by
  unfold claim
  split <;> rfl

@[simp] theorem claim_now (d : Dispatcher) (call : DispatchCall) (e : AlertEvent) :
    (d.claim call e).2.now = call.now := by
  unfold claim
  split <;> rfl

theorem sameSettings_claim (d : Dispatcher) (call : DispatchCall) (e : AlertEvent) :
    (d.claim call e).1.SameSettings d := by
  unfold claim
  split
  · exact sameSettings_admitEvent d e call.now
  · exact ⟨rfl, rfl, rfl, rfl⟩

/-- A claim that goes out starts the cooldown of its kind at the time of its call, and any
other one changes nothing. -/
theorem lastSent?_claim (d : Dispatcher) (call : DispatchCall) (e : AlertEvent) (kind : String) :
    (d.claim call e).1.lastSent? kind =
      if (d.claim call e).2.passed = true ∧ e.kind = kind then some call.now
      else d.lastSent? kind := by
  simp only [claim_passed_iff]
  unfold claim
  cases henabled : d.enabled with
  | false => simp
  | true =>
    simp only [if_true, true_and]
    exact lastSent?_admitEvent d e call.now kind

/-! ## What the dispatcher remembers -/

/-- The dispatcher remembers the last claim of every kind that went out. -/
def Remembers (d : Dispatcher) (claims : List Claim) : Prop :=
  ∀ kind, d.lastSent? kind = Claim.lastPassed? kind claims

/-- The claim went out if and only if the dispatcher is enabled, the level of its event is
allowed, and one cooldown has passed since the last of the earlier claims of its kind that
went out, if there was one; and it reached all channels or none. -/
def Lawful (d : Dispatcher) (earlier : List Claim) (c : Claim) : Prop :=
  (c.passed = true ↔
    d.enabled = true ∧ (d.levels = [] ∨ c.event.level ∈ d.levels) ∧
      (d.cooldownSecs = 0 ∨
        ∀ previous, Claim.lastPassed? c.event.kind earlier = some previous →
          d.cooldownNanos ≤ previous.elapsed c.now)) ∧
    c.reached = if c.passed then d.channels else []

theorem Lawful.of_sameSettings {d d' : Dispatcher} (h : d.SameSettings d') {earlier : List Claim}
    {c : Claim} (hc : d.Lawful earlier c) : d'.Lawful earlier c := by
  obtain ⟨henabled, hlevels, hcooldown, hchannels⟩ := h
  unfold Lawful cooldownNanos at *
  rw [henabled, hlevels, hcooldown, hchannels] at hc
  exact hc

/-- **One claim** obeys the law. -/
theorem lawful_claim {d : Dispatcher} {earlier : List Claim} (h : d.Remembers earlier)
    (call : DispatchCall) (e : AlertEvent) : d.Lawful earlier (d.claim call e).2 := by
  refine ⟨?_, claim_reached d call e⟩
  rw [claim_passed_iff, decideEvent_eq_passed_iff, claim_event, claim_now, ← h e.kind]

/-- **One claim** is remembered. -/
theorem remembers_claim {d : Dispatcher} {earlier : List Claim} (h : d.Remembers earlier)
    (call : DispatchCall) (e : AlertEvent) :
    (d.claim call e).1.Remembers (earlier ++ [(d.claim call e).2]) := by
  intro kind
  rw [lastSent?_claim, Claim.lastPassed?_append_singleton, claim_event, claim_now, h kind]

/-! ## Overlapping calls -/

/-- Calls under way go on one event at a time; the schedule says which of them is next.  A
call without further events, or one that does not exist, does nothing. -/
def interleave (d : Dispatcher) (calls : List DispatchCall) : List Nat → Dispatcher × List Claim
  | [] => (d, [])
  | i :: schedule =>
    match calls[i]? with
    | some ⟨now, replies, position, e :: todo⟩ =>
      let r := d.claim ⟨now, replies, position, e :: todo⟩ e
      let rest := r.1.interleave (calls.set i ⟨now, replies, position + 1, todo⟩) schedule
      (rest.1, r.2 :: rest.2)
    | _ => d.interleave calls schedule

/-- **Any interleaving** leaves the last claims remembered, and each of its claims obeys
the law with respect to all the claims before it. -/
theorem lawful_interleave (schedule : List Nat) :
    ∀ {d : Dispatcher} {earlier : List Claim} (calls : List DispatchCall), d.Remembers earlier →
      (d.interleave calls schedule).1.Remembers (earlier ++ (d.interleave calls schedule).2) ∧
        ∀ before c after, (d.interleave calls schedule).2 = before ++ c :: after →
          d.Lawful (earlier ++ before) c := by
  induction schedule with
  | nil =>
    intro d earlier calls h
    refine ⟨by simpa [interleave] using h, ?_⟩
    intro before c after hsplit
    simp [interleave] at hsplit
  | cons i schedule ih =>
    intro d earlier calls h
    unfold interleave
    split
    · rename_i now replies position e todo _
      have hlaw := lawful_claim h ⟨now, replies, position, e :: todo⟩ e
      have hsettings := sameSettings_claim d ⟨now, replies, position, e :: todo⟩ e
      obtain ⟨hremembers, hlawful⟩ :=
        ih (calls.set i ⟨now, replies, position + 1, todo⟩) (remembers_claim h _ e)
      simp only [List.append_assoc, List.singleton_append] at hremembers hlawful
      refine ⟨hremembers, ?_⟩
      intro before c after hsplit
      cases before with
      | nil =>
        obtain ⟨rfl, _⟩ := List.cons.inj hsplit
        rw [List.append_nil]
        exact hlaw
      | cons first before =>
        obtain ⟨rfl, hrest⟩ := List.cons.inj hsplit
        exact (hlawful before c after hrest).of_sameSettings hsettings
    · exact ih calls h

theorem interleave_alone_cons (d : Dispatcher) (now : Instant) (replies : Replies)
    (position : Nat) (e : AlertEvent) (events : List AlertEvent) :
    let r := d.claim ⟨now, replies, position, e :: events⟩ e
    let rest := r.1.interleave [⟨now, replies, position + 1, events⟩]
      (List.replicate events.length 0)
    d.interleave [⟨now, replies, position, e :: events⟩] (List.replicate (e :: events).length 0) =
      (rest.1, r.2 :: rest.2) := by
  rw [List.length_cons, List.replicate_succ, interleave]
  rfl

/-- The claims of a call that nothing overlaps are the transcript of its dispatch;
`position` is the place of its first event. -/
theorem interleave_alone_from (d : Dispatcher) (now : Instant) (replies : Replies)
    (position : Nat) (events : List AlertEvent) :
    let run := d.interleave [⟨now, replies, position, events⟩] (List.replicate events.length 0)
    (if d.enabled then d.handleAll now replies position events else (d, [])) =
      (run.1, run.2.filterMap (·.handling)) := by
  induction events generalizing d position with
  | nil => split <;> rfl
  | cons e events ih =>
    have hrest := ih (d.claim ⟨now, replies, position, e :: events⟩ e).1 (position + 1)
    simp only [interleave_alone_cons]
    cases henabled : d.enabled with
    | false =>
      have hclaim : ∀ call, d.claim call e = (d, ⟨e, call.now, none⟩) := by
        intro call
        simp [claim, henabled]
      simp only [hclaim, henabled] at hrest ⊢
      exact hrest
    | true =>
      have hclaim : ∀ call, d.claim call e =
          ((d.handle e call.now (call.replies call.position)).1,
            ⟨e, call.now, some (d.handle e call.now (call.replies call.position)).2⟩) := by
        intro call
        simp [claim, henabled]
      have hstill : (d.handle e now (replies position)).1.enabled = true := by
        rw [← henabled]
        exact (sameSettings_admitEvent d e now).1
      simp only [hclaim, hstill, if_true] at hrest ⊢
      simp only [handleAll, hrest]
      rfl

theorem interleave_alone (d : Dispatcher) (now : Instant) (replies : Replies)
    (events : List AlertEvent) :
    let run := d.interleave [⟨now, replies, 0, events⟩] (List.replicate events.length 0)
    d.dispatch events now replies = (run.1, run.2.filterMap (·.handling)) :=
  interleave_alone_from d now replies 0 events

/-! ## The distance of two claims that went out -/

/-- Two spans of at least one cooldown make one of at least a cooldown, also when seconds
are inserted in between. -/
theorem le_elapsed_trans {cooldown : Int} (hlong : 3000000000 ≤ cooldown) {a b c : Instant}
    (hab : cooldown ≤ a.elapsed b) (hbc : cooldown ≤ b.elapsed c) : cooldown ≤ a.elapsed c := by
  have h₁ := (Instant.elapsed_near_count a b).2
  have h₂ := (Instant.elapsed_near_count b c).2
  have h₃ := (Instant.elapsed_near_count a c).1
  omega

/-- Claims that all obey the law are at least one cooldown apart, for each kind. -/
theorem pairwise_passedOf {d : Dispatcher} (hcooldown : d.cooldownSecs ≠ 0)
    (hlong : 3000000000 ≤ d.cooldownNanos) (kind : String) {claims : List Claim}
    (hlawful : ∀ before c after, claims = before ++ c :: after → d.Lawful before c) :
    (Claim.passedOf kind claims).Pairwise fun a b => d.cooldownNanos ≤ a.now.elapsed b.now := by
  induction claims using List.reverseRecOn with
  | nil => exact List.Pairwise.nil
  | append_singleton claims c ih =>
    have hbefore := ih fun before x after hsplit =>
      hlawful before x (after ++ [c]) (by simp [hsplit])
    rw [Claim.passedOf_append_singleton]
    split
    · rename_i hpassed
      obtain ⟨hpassed, rfl⟩ := hpassed
      obtain ⟨_, _, hcool⟩ := (hlawful claims c [] rfl).1.1 hpassed
      have hlast := hcool.resolve_left hcooldown
      rw [List.pairwise_append]
      refine ⟨hbefore, List.pairwise_singleton _ _, ?_⟩
      intro a ha x hx
      rw [List.mem_singleton.1 hx]
      -- The claim keeps its distance from the last one, and that one from all before it.
      obtain hnil | ⟨first, last, hsplit⟩ :=
        (Claim.passedOf c.event.kind claims).eq_nil_or_concat'
      · rw [hnil] at ha
        cases ha
      · have hnear : d.cooldownNanos ≤ last.now.elapsed c.now := by
          apply hlast
          rw [Claim.lastPassed?, hsplit]
          simp
        rw [hsplit] at ha hbefore
        rcases List.mem_append.1 ha with hfirst | hlast'
        · have hfar := (List.pairwise_append.1 hbefore).2.2 a hfirst last List.mem_cons_self
          exact le_elapsed_trans hlong hfar hnear
        · rw [List.mem_singleton.1 hlast']
          exact hnear
    · exact hbefore

theorem le_cooldownSecs {config : AlertingConfig} (h : config.cooldownSecs ≠ 0) :
    60 ≤ config.cooldownSecs := by
  unfold AlertingConfig.cooldownSecs UInt64.size at *
  omega

/-- **Cooldown.**  However calls to a new dispatcher overlap, and whatever their times are:
an event is passed to the channels if and only if alerting is enabled, the level of the
event is allowed, and one cooldown has passed since the last event of its kind was passed,
if one was; it is passed to all channels or to none.  The dispatcher remembers for each
kind when the last event was passed.  With a cooldown, any two events of a kind that were
passed are at least one cooldown apart. -/
theorem interleave_claims (config : AlertingConfig) (channels : List String)
    (calls : List DispatchCall) (schedule : List Nat) :
    let run := (new config channels).interleave calls schedule
    (∀ earlier c later, run.2 = earlier ++ c :: later →
        (c.passed = true ↔
          config.enabled = true ∧ (config.levels = [] ∨ c.event.level ∈ config.levels) ∧
            (config.cooldownSecs = 0 ∨
              ∀ previous, Claim.lastPassed? c.event.kind earlier = some previous →
                (config.cooldownSecs : Int) * 1000000000 ≤ previous.elapsed c.now)) ∧
          c.reached = if c.passed then channels else []) ∧
      (∀ kind, run.1.lastSent? kind = Claim.lastPassed? kind run.2) ∧
      (config.cooldownSecs ≠ 0 → ∀ kind, (Claim.passedOf kind run.2).Pairwise fun a b =>
        (config.cooldownSecs : Int) * 1000000000 ≤ a.now.elapsed b.now) := by
  have hnew : (new config channels).Remembers [] := fun _ => rfl
  obtain ⟨hremembers, hlawful⟩ := lawful_interleave schedule calls hnew
  refine ⟨hlawful, hremembers, ?_⟩
  intro hcooldown kind
  have hsecs := le_cooldownSecs hcooldown
  have hlong : 3000000000 ≤ (new config channels).cooldownNanos := by
    show 3000000000 ≤ (config.cooldownSecs : Int) * 1000000000
    omega
  exact pairwise_passedOf hcooldown hlong kind hlawful

/-- With a cooldown of five minutes: of three calls that began at 240 s, at 0 s and at 300 s
the second claims its event first.  The event of the call of 240 s is held back, and the
one of the call of 300 s goes out, one cooldown after the first. -/
theorem interleave_claims_overlapping :
    let config := { AlertingConfig.initial with enabled := true, cooldownMinutes := 5 }
    let event : AlertEvent := ⟨"cpu", "high", .critical, ⟨0, 0⟩⟩
    let call : Instant → DispatchCall := fun now => ⟨now, fun _ _ => none, 0, [event]⟩
    let first : Claim := ⟨event, ⟨0, 0⟩, some ⟨event, .passed, [⟨"mail", none⟩]⟩⟩
    let second : Claim := ⟨event, ⟨240, 0⟩, some ⟨event, .suppressed, []⟩⟩
    let third : Claim := ⟨event, ⟨300, 0⟩, some ⟨event, .passed, [⟨"mail", none⟩]⟩⟩
    let run := (new config ["mail"]).interleave
      [call ⟨240, 0⟩, call ⟨0, 0⟩, call ⟨300, 0⟩] [1, 0, 2]
    run.2 = [first] ++ second :: [third] ∧
      (second.passed = true ↔ ∀ previous, Claim.lastPassed? "cpu" [first] = some previous →
        (300000000000 : Int) ≤ previous.elapsed ⟨240, 0⟩) ∧
      config.cooldownSecs ≠ 0 ∧
      Claim.passedOf "cpu" run.2 = [first, third] ∧
      (Claim.passedOf "cpu" run.2).Pairwise fun a b =>
        (300000000000 : Int) ≤ a.now.elapsed b.now := by
  intro config event call first second third run
  have hrun : run.2 = [first] ++ second :: [third] := by decide +kernel
  have hcooldown : config.cooldownSecs ≠ 0 := by decide
  have hsecs : config.cooldownSecs = 300 := by decide
  obtain ⟨hclaims, _, hapart⟩ := interleave_claims config ["mail"]
    [call ⟨240, 0⟩, call ⟨0, 0⟩, call ⟨300, 0⟩] [1, 0, 2]
  have hsecond := (hclaims [first] second [third] hrun).1
  have hcpu := hapart hcooldown "cpu"
  rw [hsecs] at hsecond hcpu
  refine ⟨hrun, ?_, hcooldown, ?_, hcpu⟩
  · rw [hsecond]
    simp [config, AlertingConfig.initial, second, event]
  · rw [hrun]
    decide +kernel

end Dispatcher

end HostWatch
