import Mathlib.Data.List.Induction
import HostWatch.Config.Rules
import HostWatch.Proofs.Alert.Cooldown
import HostWatch.Proofs.Monitor.Channels
set_option autoImplicit false

/-!
# Monitor: outages that go on

An outage that goes on has one critical event, and the queue takes it to one dispatch.  There
the cooldown of its kind decides, and it decides for good: an event that is held back does not
come again, and the book has nothing more to say until the outage is over
(`Monitor.ongoing_alert_decided_once`).

The claims of a run are those of its dispatches, in their order.  The dispatcher remembers them
(`Monitor.lawful_claims`), so that what decides about an event can be read off the claims
before it, those of the same dispatch included.  Just there a recovery can stand, and the
recovery from one outage can silence the next one (`Monitor.ongoing_outage_silenced`).
-/

namespace HostWatch

open HostWatch.Time (Instant)

theorem Finding.ofKey_append (key : String) (fs gs : List Finding) :
    ofKey key (fs ++ gs) = ofKey key fs ++ ofKey key gs := List.filter_append fs gs

theorem AlertEvent.ofKind_append (kind : String) (es es' : List AlertEvent) :
    ofKind kind (es ++ es') = ofKind kind es ++ ofKind kind es' := List.filter_append es es'

theorem AlertEvent.mem_ofKind_iff {kind : String} {es : List AlertEvent} {e : AlertEvent} :
    e ∈ ofKind kind es ↔ e ∈ es ∧ e.kind = kind := by
  simp [ofKind]

namespace Episode

/-! ## The episode under way -/

/-- More readings leave the episodes that are over as they are. -/
theorem exists_ended (fs : List Finding) :
    ∀ bad₀ : List Finding, ∃ ended bad, (∀ e ∈ ended, e.recovery.isSome = true) ∧
      ∀ gs, splitFrom bad₀ (fs ++ gs) = ended ++ splitFrom bad gs := by
  induction fs with
  | nil =>
    intro bad₀
    exact ⟨[], bad₀, nofun, fun gs => rfl⟩
  | cons f fs ih =>
    intro bad₀
    cases hf : f.health with
    | critical =>
      obtain ⟨ended, bad, hended, hsplit⟩ := ih (bad₀ ++ [f])
      refine ⟨ended, bad, hended, ?_⟩
      intro gs
      rw [List.cons_append, splitFrom, hf]
      exact hsplit gs
    | ok =>
      obtain ⟨ended, bad, hended, hsplit⟩ := ih []
      by_cases hempty : bad₀.isEmpty = true
      · refine ⟨ended, bad, hended, ?_⟩
        intro gs
        rw [List.cons_append, splitFrom, hf, ← hsplit gs]
        exact if_pos hempty
      · refine ⟨⟨bad₀, some f⟩ :: ended, bad, List.forall_mem_cons.2 ⟨rfl, hended⟩, ?_⟩
        intro gs
        rw [List.cons_append, splitFrom, hf, List.cons_append, ← hsplit gs]
        exact if_neg hempty

theorem splitFrom_of_critical {more : List Finding} (h : ∀ f ∈ more, f.health = .critical) :
    ∀ bad : List Finding, splitFrom bad more = splitFrom (bad ++ more) [] := by
  induction more with
  | nil =>
    intro bad
    rw [List.append_nil]
  | cons f more ih =>
    intro bad
    obtain ⟨hf, hmore⟩ := List.forall_mem_cons.1 h
    rw [List.append_cons, ← ih hmore (bad ++ [f]), splitFrom, hf]

/-- **An episode that goes on** takes in the bad readings that follow, and they leave the
notices of all episodes as they are once it has reached the threshold. -/
theorem notices_split_append {threshold : Nat} {fs more bad : List Finding}
    (hongoing : (split fs).getLast? = some ⟨bad, none⟩) (hpos : 1 ≤ threshold)
    (hreached : threshold ≤ bad.length) (hmore : ∀ f ∈ more, f.health = .critical) :
    ∃ f said, bad[threshold - 1]? = some f ∧
      (split fs).flatMap (notices threshold) = said ++ [f.event .critical] ∧
      (split (fs ++ more)).flatMap (notices threshold) = said ++ [f.event .critical] := by
  obtain ⟨ended, bad', hended, hsplit⟩ := exists_ended fs []
  have hlt : threshold - 1 < bad.length := by omega
  have hbad : bad ≠ [] := by
    rintro rfl
    exact Nat.not_lt_zero _ hlt
  have hnow : split fs = ended ++ splitFrom bad' [] := by
    rw [split, ← hsplit, List.append_nil]
  -- The episode that goes on is none of those that are over.
  have hsame : bad' = bad := by
    rw [hnow, splitFrom] at hongoing
    split at hongoing
    · rw [List.append_nil] at hongoing
      have hover := hended _ (List.mem_of_getLast? hongoing)
      cases hover
    · rw [List.getLast?_append_of_ne_nil _ (List.cons_ne_nil _ _)] at hongoing
      exact congrArg Episode.bad (Option.some.inj hongoing)
  subst hsame
  have hgrown : ∀ readings : List Finding, splitFrom (bad' ++ readings) [] =
      [⟨bad' ++ readings, none⟩] := by
    intro readings
    rw [splitFrom, if_neg]
    rw [List.isEmpty_iff]
    exact List.append_ne_nil_of_left_ne_nil hbad readings
  have hnotices : ∀ readings : List Finding,
      notices threshold ⟨bad' ++ readings, none⟩ = [bad'[threshold - 1].event .critical] := by
    intro readings
    rw [notices, List.getElem?_append_left hlt, List.getElem?_eq_getElem hlt]
    rfl
  have hthen : ∀ readings : List Finding, (∀ f ∈ readings, f.health = .critical) →
      (split (fs ++ readings)).flatMap (notices threshold) =
        ended.flatMap (notices threshold) ++ [bad'[threshold - 1].event .critical] := by
    intro readings hreadings
    rw [split, hsplit, splitFrom_of_critical hreadings, hgrown, List.flatMap_append,
      List.flatMap_singleton, hnotices]
  have hbefore := hthen [] fun _ hf => absurd hf List.not_mem_nil
  rw [List.append_nil] at hbefore
  exact ⟨_, _, List.getElem?_eq_getElem hlt, hbefore, hthen more hmore⟩

end Episode

/-! ## The claims of a dispatch -/

/-- An event that an enabled dispatcher handled. -/
def Claim.ofHandling (now : Instant) (h : Handling) : Claim := ⟨h.event, now, some h⟩

namespace Dispatcher

variable {d : Dispatcher}

theorem claim_of_enabled (henabled : d.enabled = true) (call : DispatchCall) (e : AlertEvent) :
    d.claim call e =
      ((d.handle e call.now (call.replies call.position)).1,
        .ofHandling call.now (d.handle e call.now (call.replies call.position)).2) := by
  rw [claim, if_pos henabled]
  rfl

/-- The events that are handled one after the other are the claims of a call that nothing
overlaps. -/
theorem claims_handleAll (henabled : d.enabled = true) (now : Instant) (replies : Replies)
    (position : Nat) (events : List AlertEvent) :
    (d.handleAll now replies position events).2.map (Claim.ofHandling now) =
      (d.interleave [⟨now, replies, position, events⟩] (List.replicate events.length 0)).2 := by
  induction events generalizing d position with
  | nil => rfl
  | cons e events ih =>
    have hstill : (d.handle e now (replies position)).1.enabled = true := by
      rw [← henabled]
      exact (sameSettings_admitEvent d e now).1
    rw [interleave_alone_cons, handleAll, List.map_cons, ih hstill]
    simp only [claim_of_enabled henabled]

/-- **A dispatch** is remembered, and each of its claims obeys the law with respect to the
claims before it. -/
theorem lawful_dispatch (henabled : d.enabled = true) {earlier : List Claim}
    (h : d.Remembers earlier) (events : List AlertEvent) (now : Instant) (replies : Replies) :
    let r := d.dispatch events now replies
    r.1.Remembers (earlier ++ r.2.map (Claim.ofHandling now)) ∧
      ∀ before c after, r.2.map (Claim.ofHandling now) = before ++ c :: after →
        d.Lawful (earlier ++ before) c := by
  intro r
  have hr : r = d.handleAll now replies 0 events := if_pos henabled
  have hclaims := claims_handleAll henabled now replies 0 events
  have hrun := d.interleave_alone now replies events
  have hafter : r.1 =
      (d.interleave [⟨now, replies, 0, events⟩] (List.replicate events.length 0)).1 :=
    congrArg Prod.fst hrun
  rw [hafter, hr, hclaims]
  exact lawful_interleave _ _ h

theorem sameSettings_dispatch (d : Dispatcher) (events : List AlertEvent) (now : Instant)
    (replies : Replies) : (d.dispatch events now replies).1.SameSettings d := by
  unfold dispatch
  split
  · exact sameSettings_handleAll d now replies 0 events
  · exact ⟨rfl, rfl, rfl, rfl⟩

theorem map_event_dispatch (henabled : d.enabled = true) (events : List AlertEvent)
    (now : Instant) (replies : Replies) :
    (d.dispatch events now replies).2.map (·.event) = events := by
  rw [dispatch, if_pos henabled, map_event_handleAll]

end Dispatcher

/-! ## The claims of a run -/

/-- The claims of a cycle; only a dispatch claims events. -/
def Cycle.claims (mv : Movement) : Cycle → List Claim
  | dispatch now _ => mv.handled.map (Claim.ofHandling now)
  | _ => []

namespace Monitor

/-- The claims of cycles in their order. -/
def claims (m : Monitor) : List Cycle → List Claim
  | [] => []
  | k :: ks =>
    let r := m.act (.cycle k)
    k.claims r.2 ++ r.1.claims ks

variable {m : Monitor}

theorem play_append (m : Monitor) (acts acts' : List Act) :
    m.play (acts ++ acts') =
      (((m.play acts).1.play acts').1, (m.play acts).2 ++ ((m.play acts).1.play acts').2) := by
  induction acts generalizing m with
  | nil => rfl
  | cons a acts ih =>
    rw [List.cons_append, play, ih]
    rfl

theorem claims_append (m : Monitor) (ks ks' : List Cycle) :
    m.claims (ks ++ ks') = m.claims ks ++ (m.play (ks.map .cycle)).1.claims ks' := by
  induction ks generalizing m with
  | nil => rfl
  | cons k ks ih =>
    rw [List.cons_append, claims, ih, ← List.append_assoc]
    rfl

/-- **A cycle** claims what it drains.  Its claims are remembered, and each of them obeys the
law with respect to the claims before it. -/
theorem lawful_act (henabled : m.dispatcher.enabled = true) {earlier : List Claim}
    (h : m.dispatcher.Remembers earlier) (k : Cycle) :
    let r := m.act (.cycle k)
    r.1.dispatcher.SameSettings m.dispatcher ∧
      r.1.dispatcher.Remembers (earlier ++ k.claims r.2) ∧
      (k.claims r.2).map (·.event) = r.2.drained ∧
      ∀ before c after, k.claims r.2 = before ++ c :: after →
        m.dispatcher.Lawful (earlier ++ before) c := by
  intro r
  -- A cycle that is no dispatch claims nothing and leaves the dispatcher alone.
  have hquiet : r.1.dispatcher = m.dispatcher → k.claims r.2 = [] → r.2.drained = [] →
      r.1.dispatcher.SameSettings m.dispatcher ∧
        r.1.dispatcher.Remembers (earlier ++ k.claims r.2) ∧
        (k.claims r.2).map (·.event) = r.2.drained ∧
        ∀ before c after, k.claims r.2 = before ++ c :: after →
          m.dispatcher.Lawful (earlier ++ before) c := by
    intro hsame hclaims hdrained
    rw [hsame, hclaims, hdrained, List.append_nil]
    refine ⟨⟨rfl, rfl, rfl, rfl⟩, h, rfl, ?_⟩
    intro before c after hsplit
    cases List.append_ne_nil_of_right_ne_nil before (List.cons_ne_nil c after) hsplit.symm
  cases k with
  | dispatch now replies =>
    obtain ⟨hremembers, hlawful⟩ :=
      Dispatcher.lawful_dispatch henabled h m.pending.toList now replies
    refine ⟨m.dispatcher.sameSettings_dispatch _ now replies, hremembers, ?_, hlawful⟩
    show ((m.dispatcher.dispatch m.pending.toList now replies).2.map
      (Claim.ofHandling now)).map (·.event) = m.pending.toList
    rw [List.map_map]
    exact Dispatcher.map_event_dispatch henabled m.pending.toList now replies
  | resources outcome => exact hquiet (dispatcher_applyAll m [] _) rfl rfl
  | endpoints outcomes => exact hquiet (dispatcher_applyAll m [] _) rfl rfl
  | containers outcome => exact hquiet (dispatcher_applyAll m [] _) rfl rfl
  | noRuntime => exact hquiet rfl rfl rfl
  | broken d => exact hquiet rfl rfl rfl

/-- **A run** claims what it drains, and each of its claims obeys the law with respect to the
claims before it. -/
theorem lawful_claims (ks : List Cycle) :
    ∀ {m : Monitor} {earlier : List Claim}, m.dispatcher.enabled = true →
      m.dispatcher.Remembers earlier →
      (m.claims ks).map (·.event) = (m.play (ks.map .cycle)).2.flatMap (·.drained) ∧
        ∀ before c after, m.claims ks = before ++ c :: after →
          m.dispatcher.Lawful (earlier ++ before) c := by
  induction ks with
  | nil =>
    intro m earlier _ _
    refine ⟨rfl, ?_⟩
    intro before c after hsplit
    cases List.append_ne_nil_of_right_ne_nil before (List.cons_ne_nil c after) hsplit.symm
  | cons k ks ih =>
    intro m earlier henabled h
    obtain ⟨hsettings, hremembers, hdrained, hfirst⟩ := lawful_act henabled h k
    obtain ⟨hrest, hlawful⟩ := ih (hsettings.1.trans henabled) hremembers
    refine ⟨?_, ?_⟩
    · rw [claims, List.map_append, hdrained, hrest]
      rfl
    · intro before c after hsplit
      rcases List.append_eq_append_iff.1 hsplit with ⟨more, rfl, htail⟩ | ⟨more, hhead, htail⟩
      · rw [← List.append_assoc]
        exact (hlawful more c after htail).of_sameSettings hsettings
      · cases more with
        | nil =>
          rw [List.append_nil] at hhead
          subst hhead
          have hlaw := hlawful [] c after htail.symm
          rw [List.append_nil] at hlaw
          exact hlaw.of_sameSettings hsettings
        | cons c' more =>
          obtain ⟨rfl, _⟩ := List.cons.inj htail
          exact hfirst before c more hhead

theorem mem_pending_of_mem_claims {now : Instant} {replies : Replies} {c : Claim}
    (h : c ∈ (Cycle.dispatch now replies).claims (m.act (.cycle (.dispatch now replies))).2) :
    c.now = now ∧ c.event ∈ m.pending.toList := by
  obtain ⟨handling, hhandling, rfl⟩ := List.mem_map.1 h
  refine ⟨rfl, ?_⟩
  apply (m.dispatcher.map_event_dispatch_sublist m.pending.toList now replies).subset
  exact List.mem_map_of_mem hhandling

/-- **A claim of a run** is made by one of its dispatches, and its event was pending before. -/
theorem exists_dispatch_of_claims (ks : List Cycle) :
    ∀ {front back : List Claim} {c : Claim}, m.claims ks = front ++ c :: back →
      ∃ before now replies after back', ks = before ++ .dispatch now replies :: after ∧
        m.claims (before ++ [.dispatch now replies]) = front ++ c :: back' ∧ back' <+: back ∧
        c.now = now ∧ c.event ∈ (m.play (before.map .cycle)).1.pending.toList := by
  induction ks using List.reverseRecOn with
  | nil =>
    intro front back c h
    cases List.append_ne_nil_of_right_ne_nil front (List.cons_ne_nil c back) h.symm
  | append_singleton ks k ih =>
    intro front back c h
    -- The claim is one of the last cycle, or one of those before it.
    have hlast : ∀ front' : List Claim, front = m.claims ks ++ front' →
        k.claims ((m.play (ks.map .cycle)).1.act (.cycle k)).2 = front' ++ c :: back →
        ∃ before now replies after back',
          ks ++ [k] = before ++ .dispatch now replies :: after ∧
          m.claims (before ++ [.dispatch now replies]) = front ++ c :: back' ∧ back' <+: back ∧
          c.now = now ∧ c.event ∈ (m.play (before.map .cycle)).1.pending.toList := by
      intro front' hfront hclaims
      have hmem : c ∈ k.claims ((m.play (ks.map .cycle)).1.act (.cycle k)).2 := by
        rw [hclaims]
        exact List.mem_append_right _ List.mem_cons_self
      cases k with
      | dispatch now replies =>
        obtain ⟨hnow, hpending⟩ := mem_pending_of_mem_claims hmem
        exact ⟨ks, now, replies, [], back, rfl, h, List.prefix_refl _, hnow, hpending⟩
      | resources outcome => cases hmem
      | endpoints outcomes => cases hmem
      | containers outcome => cases hmem
      | noRuntime => cases hmem
      | broken d => cases hmem
    have hsplit := h
    rw [claims_append, claims, claims, List.append_nil] at hsplit
    rcases List.append_eq_append_iff.1 hsplit with ⟨more, hfront, hk⟩ | ⟨more, hks, hback⟩
    · exact hlast more hfront hk
    · cases more with
      | nil =>
        rw [List.append_nil] at hks
        exact hlast [] (by rw [List.append_nil, hks]) hback.symm
      | cons c' more =>
        obtain ⟨rfl, hmore⟩ := List.cons.inj hback
        obtain ⟨before, now, replies, after, back', rfl, hclaims, hprefix, hnow, hpending⟩ :=
          ih hks
        refine ⟨before, now, replies, after ++ [k], back', ?_, hclaims, ?_, hnow, hpending⟩
        · rw [List.append_assoc, List.cons_append]
        · rw [hmore]
          exact hprefix.trans (List.prefix_append _ _)

theorem exists_last_of_ofKind {kind : String} {said : List AlertEvent} {e : AlertEvent}
    (claims : List Claim) :
    AlertEvent.ofKind kind (claims.map (·.event)) = said ++ [e] →
      ∃ front c back, claims = front ++ c :: back ∧ c.event = e ∧
        ∀ x ∈ back, x.event.kind ≠ kind := by
  induction claims using List.reverseRecOn with
  | nil =>
    intro h
    cases List.append_ne_nil_of_right_ne_nil said (List.cons_ne_nil e []) h.symm
  | append_singleton claims c ih =>
    intro h
    rw [List.map_append, AlertEvent.ofKind_append] at h
    by_cases hkind : c.event.kind = kind
    · rw [AlertEvent.ofKind, AlertEvent.ofKind, List.map_singleton,
        List.filter_cons_of_pos (by simpa using hkind)] at h
      obtain ⟨_, he⟩ := List.append_inj' h rfl
      exact ⟨claims, c, [], rfl, (List.cons.inj he).1, fun _ hx => absurd hx List.not_mem_nil⟩
    · have hnone : AlertEvent.ofKind kind ([c].map (·.event)) = [] :=
        List.filter_cons_of_neg (by simpa using hkind)
      rw [hnone, List.append_nil] at h
      obtain ⟨front, c', back, rfl, he, hback⟩ := ih h
      refine ⟨front, c', back ++ [c], by simp, he, ?_⟩
      intro x hx
      rcases List.mem_append.1 hx with hx | hx
      · exact hback x hx
      · rw [List.mem_singleton.1 hx]
        exact hkind

variable (config : MonitorConfig) (channels : List String) (startedAt : Instant)

/-- **What was claimed and what is pending** about a key are the notices of its episodes. -/
theorem ofKind_claims (henabled : config.alerting.enabled = true) (ks : List Cycle)
    (key : String) :
    AlertEvent.ofKind key (((new config channels startedAt).claims ks).map (·.event)) ++
        AlertEvent.ofKind key
          ((new config channels startedAt).play (ks.map .cycle)).1.pending.toList =
      (Episode.split (Finding.ofKey key (ks.flatMap (Cycle.findings config.resources)))).flatMap
        (Episode.notices AlertBook.defaultThreshold.toNat) := by
  have hqueue := (moves_play (new config channels startedAt) (ks.map .cycle)).queue_eq
  have hnew : (new config channels startedAt).dispatcher.Remembers [] := fun _ => rfl
  rw [← (lawful_claims ks henabled hnew).1, pushed_play_cycles] at hqueue
  have hemitted := AlertBook.ofKind_observeAll AlertBook.defaultThreshold key
    (ks.flatMap (Cycle.findings config.resources))
  rw [← AlertEvent.ofKind_append, hqueue]
  exact hemitted

theorem pending_play_dispatch (m : Monitor) (ks : List Cycle) (now : Instant)
    (replies : Replies) :
    (m.play ((ks ++ [Cycle.dispatch now replies]).map .cycle)).1.pending.toList = [] := by
  rw [List.map_append, play_append]
  rfl

theorem findings_dispatch (checks : ResourceChecks) (ks ks' : List Cycle) (now : Instant)
    (replies : Replies) :
    (ks ++ .dispatch now replies :: ks').flatMap (Cycle.findings checks) =
      ks.flatMap (Cycle.findings checks) ++ ks'.flatMap (Cycle.findings checks) := by
  rw [List.flatMap_append, List.flatMap_cons]
  rfl

theorem ofKind_claims_dispatch (henabled : config.alerting.enabled = true) (ks : List Cycle)
    (now : Instant) (replies : Replies) (key : String) :
    AlertEvent.ofKind key
        (((new config channels startedAt).claims (ks ++ [.dispatch now replies])).map (·.event)) =
      (Episode.split (Finding.ofKey key (ks.flatMap (Cycle.findings config.resources)))).flatMap
        (Episode.notices AlertBook.defaultThreshold.toNat) := by
  have hall := ofKind_claims config channels startedAt henabled (ks ++ [.dispatch now replies]) key
  rw [pending_play_dispatch, findings_dispatch, List.flatMap_nil, List.append_nil] at hall
  rw [← hall]
  exact (List.append_nil _).symm

/-- Where nothing more is emitted about a key, nothing more is claimed about it. -/
theorem ofKind_claims_silent (henabled : config.alerting.enabled = true)
    (earlier later : List Cycle) (now : Instant) (replies : Replies) (key : String)
    (hsilent : (Episode.split (Finding.ofKey key
        (earlier.flatMap (Cycle.findings config.resources)) ++
          Finding.ofKey key (later.flatMap (Cycle.findings config.resources)))).flatMap
        (Episode.notices AlertBook.defaultThreshold.toNat) =
      (Episode.split (Finding.ofKey key
        (earlier.flatMap (Cycle.findings config.resources)))).flatMap
        (Episode.notices AlertBook.defaultThreshold.toNat)) :
    let m := new config channels startedAt
    AlertEvent.ofKind key
      (((m.play ((earlier ++ [Cycle.dispatch now replies]).map .cycle)).1.claims later).map
        (·.event)) = [] := by
  intro m
  have hall := ofKind_claims config channels startedAt henabled
    (earlier ++ .dispatch now replies :: later) key
  rw [findings_dispatch, Finding.ofKey_append, hsilent, List.append_cons, claims_append,
    List.map_append, AlertEvent.ofKind_append,
    ofKind_claims_dispatch config channels startedAt henabled, List.append_assoc] at hall
  exact (List.append_eq_nil_iff.1 (List.append_right_eq_self.1 hall)).1

/-- **An outage that goes on** is decided about once.  With alerting enabled for all levels,
take any cycles of a new monitor after which an episode of a key goes on that has reached the
threshold, then a dispatch, and then any cycles while the episode lasts.  The first dispatch
after the critical event was emitted decides about it: the event is passed to the channels if
and only if there is no cooldown, or one cooldown has passed since the last event of the key
was passed, in an earlier dispatch or before it in this one.  While the episode lasts no later
claim is about the key, so that an event that was held back is lost. -/
theorem ongoing_alert_decided_once (henabled : config.alerting.enabled = true)
    (hlevels : config.alerting.levels = []) (earlier later : List Cycle) (now : Instant)
    (replies : Replies) (key : String) (bad : List Finding)
    (hongoing : (Episode.split (Finding.ofKey key
      (earlier.flatMap (Cycle.findings config.resources)))).getLast? = some ⟨bad, none⟩)
    (hreached : AlertBook.defaultThreshold.toNat ≤ bad.length)
    (hlasts : ∀ f ∈ Finding.ofKey key (later.flatMap (Cycle.findings config.resources)),
      f.health = .critical) :
    let m := new config channels startedAt
    ∃ f before first replies' between front c back rest,
      bad[AlertBook.defaultThreshold.toNat - 1]? = some f ∧
        earlier ++ [.dispatch now replies] = before ++ .dispatch first replies' :: between ∧
        f.event .critical ∈ (m.play (before.map .cycle)).1.pending.toList ∧
        m.claims (before ++ [.dispatch first replies']) = front ++ c :: back ∧
        c.event = f.event .critical ∧
        (c.passed = true ↔
          config.alerting.cooldownSecs = 0 ∨
            ∀ previous, Claim.lastPassed? key front = some previous →
              (config.alerting.cooldownSecs : Int) * 1000000000 ≤ previous.elapsed first) ∧
        m.claims (earlier ++ .dispatch now replies :: later) = front ++ c :: (back ++ rest) ∧
        ∀ x ∈ back ++ rest, x.event.kind ≠ key := by
  intro m
  obtain ⟨f, said, hf, hemitted, hlasting⟩ :=
    Episode.notices_split_append hongoing (by decide) hreached hlasts
  let passed := earlier ++ [Cycle.dispatch now replies]
  have hclaimed : AlertEvent.ofKind key ((m.claims passed).map (·.event)) =
      said ++ [f.event .critical] := by
    rw [← hemitted]
    exact ofKind_claims_dispatch config channels startedAt henabled earlier now replies key
  -- While the episode lasts the book emits no more, and so no more is claimed.
  have hsilent : AlertEvent.ofKind key
      (((m.play (passed.map .cycle)).1.claims later).map (·.event)) = [] :=
    ofKind_claims_silent config channels startedAt henabled earlier later now replies key
      (hlasting.trans hemitted.symm)
  obtain ⟨front, c, back, hclaims, hc, hback⟩ := exists_last_of_ofKind (m.claims passed) hclaimed
  obtain ⟨before, first, replies', between, back', hbefore, hpass, ⟨rest, rfl⟩, hfirst, hpending⟩ :=
    exists_dispatch_of_claims passed hclaims
  have hkind : c.event.kind = key := by
    have hmem : c.event ∈ said ++ [f.event .critical] := by
      rw [hc]
      exact List.mem_append_right _ List.mem_cons_self
    rw [← hclaimed] at hmem
    exact (AlertEvent.mem_ofKind_iff.1 hmem).2
  rw [hc] at hpending
  refine ⟨f, before, first, replies', between, front, c, back',
    rest ++ (m.play (passed.map .cycle)).1.claims later, hf, hbefore, hpending, hpass, hc, ?_, ?_,
    ?_⟩
  · have hnew : m.dispatcher.Remembers [] := fun _ => rfl
    obtain ⟨hlaw, _⟩ := (lawful_claims passed henabled hnew).2 front c (back' ++ rest) hclaims
    rw [List.nil_append, hkind, hfirst] at hlaw
    rw [hlaw]
    constructor
    · rintro ⟨_, _, hcooled⟩
      exact hcooled
    · intro hcooled
      exact ⟨henabled, .inl hlevels, hcooled⟩
  · rw [List.append_cons, claims_append, hclaims]
    simp only [List.append_assoc, List.cons_append]
    rfl
  · intro x hx
    rw [← List.append_assoc] at hx
    rcases List.mem_append.1 hx with hx | hx
    · exact hback x hx
    · intro hkey
      have hmem : x.event ∈ AlertEvent.ofKind key
          (((m.play (passed.map .cycle)).1.claims later).map (·.event)) :=
        AlertEvent.mem_ofKind_iff.2 ⟨List.mem_map_of_mem hx, hkey⟩
      rw [hsilent] at hmem
      cases hmem

/-- With a cooldown of five minutes: the recovery from an outage is held back at 200 s, so that
the next outage is told of at 480 s, six minutes after the first. -/
theorem ongoing_alert_decided_once_relapse :
    let check : EndpointCheck := .initial "api" "http://api"
    let config : MonitorConfig :=
      { MonitorConfig.initial with
        alerting := { AlertingConfig.initial with enabled := true, cooldownMinutes := 5 } }
    let probe : Bool → Int → Cycle := fun success seconds =>
      .endpoints [(check, .ok ⟨"api", "http://api", none, 1, success, none, ⟨seconds, 0⟩⟩)]
    let dispatch : Int → Cycle := fun seconds => .dispatch ⟨seconds, 0⟩ fun _ _ => none
    let earlier := [probe false 0, probe false 60, probe false 120, dispatch 120,
      probe true 180, dispatch 200, probe false 240, probe false 300, probe false 360]
    let later := [probe false 540, dispatch 1000]
    let claims := (new config ["chat"] ⟨0, 0⟩).claims (earlier ++ dispatch 480 :: later)
    claims.map (fun c => (c.event.level, c.now.seconds, c.passed)) =
        [(.critical, 120, true), (.warning, 200, false), (.critical, 480, true)] ∧
      ∃ front c rest, claims = front ++ c :: rest ∧ c.event.time = ⟨360, 0⟩ ∧
        ∀ x ∈ rest, x.event.kind ≠ "http_api" := by
  intro check config probe dispatch earlier later claims
  let bad := [240, 300, 360].map fun seconds =>
    EndpointResult.finding ⟨"api", "http://api", none, 1, false, none, ⟨seconds, 0⟩⟩
  have hongoing : (Episode.split (Finding.ofKey "http_api"
      (earlier.flatMap (Cycle.findings config.resources)))).getLast? = some ⟨bad, none⟩ := by
    decide +kernel
  have hlasts : ∀ f ∈ Finding.ofKey "http_api"
      (later.flatMap (Cycle.findings config.resources)), f.health = .critical := by
    decide +kernel
  obtain ⟨f, _, _, _, _, front, c, back, rest, hf, _, _, _, hc, _, hclaims, hsilent⟩ :=
    ongoing_alert_decided_once config ["chat"] ⟨0, 0⟩ rfl rfl earlier later ⟨480, 0⟩
      (fun _ _ => none) "http_api" bad hongoing (by decide) hlasts
  refine ⟨by decide +kernel, front, c, back ++ rest, hclaims, ?_, hsilent⟩
  rw [hc, ← Option.some.inj hf]
  rfl

/-- **An outage can be silenced for good**, in an accepted configuration with alerting enabled
for all levels and a cooldown of one hour.  The first outage is told of at 120 s and ends at
180 s, and the second one reaches the threshold at 360 s.  The next dispatch is two hours later:
it tells of the recovery, and this recovery holds the second outage back, which is still going
on.  A dispatch hours later has nothing more to tell. -/
theorem ongoing_outage_silenced :
    let check : EndpointCheck := .initial "api" "http://api"
    let config : MonitorConfig :=
      { MonitorConfig.initial with
        endpoints := { EndpointChecks.initial with checks := [check] }
        alerting :=
          { AlertingConfig.initial with
            enabled := true
            cooldownMinutes := 60
            telegram := some ⟨"token", "chat", "https://api.telegram.org"⟩ } }
    let cycle : Int × Option Bool → Cycle := fun (seconds, success?) =>
      success?.elim (.dispatch ⟨seconds, 0⟩ fun _ _ => none) fun success =>
        .endpoints [(check, .ok ⟨"api", "http://api", none, 1, success, none, ⟨seconds, 0⟩⟩)]
    let outages := [(0, some false), (60, some false), (120, some false), (120, none),
      (180, some true), (240, some false), (300, some false), (360, some false)]
    let earlier := outages.map cycle
    let bad := [240, 300, 360].map fun seconds =>
      EndpointResult.finding ⟨"api", "http://api", none, 1, false, none, ⟨seconds, 0⟩⟩
    let critical : AlertEvent := ⟨"http_api", "api is unreachable", .critical, ⟨360, 0⟩⟩
    let m := new config ["chat"] ⟨0, 0⟩
    config.validate = .ok () ∧ config.alerting.enabled = true ∧ config.alerting.levels = [] ∧
      (outages.map Prod.fst ++ [7320, 20000]).Pairwise (· ≤ ·) ∧
      (Episode.split (Finding.ofKey "http_api"
        (earlier.flatMap (Cycle.findings config.resources)))).getLast? = some ⟨bad, none⟩ ∧
      Episode.notices AlertBook.defaultThreshold.toNat ⟨bad, none⟩ = [critical] ∧
      Claim.lastPassed? "http_api" (m.claims earlier) = some ⟨120, 0⟩ ∧
      (config.alerting.cooldownSecs : Int) * 1000000000 ≤ Instant.elapsed ⟨120, 0⟩ ⟨7320, 0⟩ ∧
      Claim.lastPassed? "http_api" (m.claims (earlier ++ [cycle (7320, none)])) =
        some ⟨7320, 0⟩ ∧
      (config.alerting.cooldownSecs : Int) * 1000000000 ≤ Instant.elapsed ⟨7320, 0⟩ ⟨20000, 0⟩ ∧
      ∀ c ∈ m.claims (earlier ++ [cycle (7320, none), cycle (20000, none)]),
        c.event = critical → c.passed = false := by
  decide +kernel

end Monitor

end HostWatch
