import HostWatch.Rehearsal.Script
set_option autoImplicit false

/-!
# Rehearsal: what scripts replay

A script that repeats its last entry answers its calls by its entries, one after the other, and all
later calls by the last of them (`repeating?`).  Probe scripts do this, each for its own endpoint
and whatever other endpoints are probed in between (`ProbeScript.replay_ofScripts`).

A script of resources repeats its last sample (`ResourceScript.replay_ofEntries`), and so it does
not repeat its last entry when that one is a failure and there was a sample before it
(`ResourceScript.repeats_iff_keepsLast`).
-/

namespace HostWatch.Rehearsal

open HostWatch.Time (Instant)

/-! ## Repeating the last entry -/

section

variable {α : Type} {entries rest : List α} {entry : α} {before : Nat}

/-- The entry that answers a call before which so many were answered, in a script that repeats its
last entry. -/
def repeating? (entries : List α) (before : Nat) : Option α :=
  entries[min before (entries.length - 1)]?

theorem repeating?_of_lt (h : before < entries.length) :
    repeating? entries before = entries[before]? := by
  rw [repeating?, Nat.min_eq_left (Nat.le_sub_one_of_lt h)]

theorem repeating?_of_le (h : entries.length ≤ before) :
    repeating? entries before = entries.getLast? := by
  rw [repeating?, Nat.min_eq_right (Nat.le_trans (Nat.sub_le _ _) h), List.getLast?_eq_getElem?]

theorem repeating?_cons (hrest : rest ≠ []) :
    repeating? (entry :: rest) (before + 1) = repeating? rest before := by
  have hlength : 0 < rest.length := List.length_pos_iff.2 hrest
  have hindex : min (before + 1) ((entry :: rest).length - 1) =
      min before (rest.length - 1) + 1 := by
    rw [List.length_cons]
    omega
  rw [repeating?, hindex, List.getElem?_cons_succ, repeating?]

theorem repeating?_singleton : repeating? [entry] before = some entry := by
  rw [repeating?, List.length_singleton, Nat.sub_self, Nat.min_zero]
  rfl

end

/-! ## Resources -/

namespace ResourceScript

variable {entries : List (Except String ResourceSample)} {s : ResourceScript} {now : Instant}

/-- The script to which these entries were pushed. -/
def ofEntries (entries : List (Except String ResourceSample)) : ResourceScript :=
  entries.foldl push empty

/-- The answers to calls at these times, one after the other. -/
def replay (s : ResourceScript) : List Instant → List (Except Fault ResourceSample)
  | [] => []
  | now :: times => (s.collect now).2 :: (s.collect now).1.replay times

/-- An entry as the answer to a call at `now`. -/
def answer (now : Instant) : Except String ResourceSample → Except Fault ResourceSample
  | .ok sample => .ok { sample with time := now }
  | .error reason => .error (.collection reason)

/-- The reason of a script that has no sample to repeat. -/
def noSample : String := "no scripted sample"

/-- What an exhausted script gives whose last sample is known. -/
def exhausted : Option ResourceSample → Except String ResourceSample
  | some sample => .ok sample
  | none => .error noSample

/-- The samples among entries. -/
def samples (entries : List (Except String ResourceSample)) : List ResourceSample :=
  entries.filterMap Except.toOption

/-- The last sample that the script will have given when it is exhausted. -/
def finalSample? (s : ResourceScript) : Option ResourceSample :=
  (samples s.entries).getLast?.or s.last

/-- The entry that comes next. -/
def next (s : ResourceScript) : Except String ResourceSample :=
  s.entries.head?.getD (exhausted s.last)

theorem entries_foldl_push (entries : List (Except String ResourceSample)) (s : ResourceScript) :
    (entries.foldl push s).entries = s.entries ++ entries ∧
      (entries.foldl push s).last = s.last := by
  induction entries generalizing s with
  | nil => exact ⟨(List.append_nil _).symm, rfl⟩
  | cons entry entries ih =>
    obtain ⟨hentries, hlast⟩ := ih (s.push entry)
    exact ⟨by rw [List.foldl_cons, hentries, push, List.append_assoc]; rfl, hlast⟩

theorem collect_answer (s : ResourceScript) (now : Instant) :
    (s.collect now).2 = answer now s.next := by
  obtain ⟨entries, last, calls⟩ := s
  match entries with
  | .ok sample :: rest => rfl
  | .error reason :: rest => rfl
  | [] => cases last <;> rfl

theorem entries_collect (s : ResourceScript) (now : Instant) :
    (s.collect now).1.entries = s.entries.tail := by
  obtain ⟨entries, last, calls⟩ := s
  match entries with
  | .ok sample :: rest => rfl
  | .error reason :: rest => rfl
  | [] => cases last <;> rfl

/-- **A call** leaves the sample that the script will repeat in the end, up to the time on it. -/
theorem answer_finalSample_collect (s : ResourceScript) (now later : Instant) :
    answer later (exhausted (s.collect now).1.finalSample?) =
      answer later (exhausted s.finalSample?) := by
  obtain ⟨entries, last, calls⟩ := s
  match entries with
  | .ok sample :: rest =>
    have hsamples : samples (.ok sample :: rest) = sample :: samples rest := rfl
    show answer later (exhausted ((samples rest).getLast?.or (some { sample with time := now }))) =
      answer later (exhausted ((samples (.ok sample :: rest)).getLast?.or last))
    rw [hsamples, List.getLast?_cons]
    cases (samples rest).getLast? <;> rfl
  | .error reason :: rest => rfl
  | [] => cases last <;> rfl

/-- **The answers of a script**: the entries in their order, and then the last sample. -/
theorem replay_eq (s : ResourceScript) (times : List Instant) (k : Nat) :
    (s.replay times)[k]? = times[k]?.map fun now =>
      answer now (s.entries[k]?.getD (exhausted s.finalSample?)) := by
  induction times generalizing s k with
  | nil => rfl
  | cons now times ih =>
    cases k with
    | zero =>
      have hnext : s.next = s.entries[0]?.getD (exhausted s.finalSample?) := by
        rw [next, List.head?_eq_getElem?]
        cases hentries : s.entries with
        | nil => simp [finalSample?, samples, hentries]
        | cons entry rest => rfl
      rw [replay, List.getElem?_cons_zero, List.getElem?_cons_zero, collect_answer, hnext]
      rfl
    | succ k =>
      have hentry : (s.collect now).1.entries[k]? = s.entries[k + 1]? := by
        rw [entries_collect, List.getElem?_tail]
      rw [replay, List.getElem?_cons_succ, List.getElem?_cons_succ, ih, hentry]
      refine congrArg (times[k]?.map ·) (funext fun later => ?_)
      cases s.entries[k + 1]? with
      | some entry => rfl
      | none => exact s.answer_finalSample_collect now later

/-- **The answers of a script of entries**: the entries in their order, and then the last of the
samples among them. -/
theorem replay_ofEntries (entries : List (Except String ResourceSample)) (times : List Instant)
    (k : Nat) :
    ((ofEntries entries).replay times)[k]? = times[k]?.map fun now =>
      answer now (entries[k]?.getD (exhausted (samples entries).getLast?)) := by
  obtain ⟨hentries, hlast⟩ := entries_foldl_push entries empty
  have hfinal : (ofEntries entries).finalSample? = (samples entries).getLast? := by
    rw [finalSample?, ofEntries, hentries, hlast]
    exact Option.or_none
  rw [replay_eq, hfinal, ofEntries, hentries]
  rfl

/-- A script of these entries repeats the last one: every call is answered by the entry that is its
turn, with the time of the call on it. -/
def Repeats (entries : List (Except String ResourceSample)) : Prop :=
  ∀ (times : List Instant) (k : Nat) (now : Instant), times[k]? = some now →
    ((ofEntries entries).replay times)[k]? = (repeating? entries k).map (answer now)

/-- The last entry is a sample; or it fails like a script without samples, and there are none. -/
def KeepsLast (entries : List (Except String ResourceSample)) : Prop :=
  (∃ sample, entries.getLast? = some (.ok sample)) ∨
    entries.getLast? = some (.error noSample) ∧ samples entries = []

theorem getLast?_samples_of_ok {sample : ResourceSample}
    (h : entries.getLast? = some (.ok sample)) : (samples entries).getLast? = some sample := by
  obtain ⟨before, rfl⟩ := List.getLast?_eq_some_iff.1 h
  rw [samples, List.filterMap_append]
  exact List.getLast?_concat

/-- **A script of resources repeats its last entry** exactly when it keeps it: a failure at the end
is not repeated when there was a sample before it. -/
theorem repeats_iff_keepsLast (hentries : entries ≠ []) :
    Repeats entries ↔ KeepsLast entries := by
  obtain ⟨entry, hlast⟩ := Option.ne_none_iff_exists'.1 (mt List.getLast?_eq_none_iff.1 hentries)
  constructor
  · intro hrepeats
    -- The first call after all entries are used up.
    let now : Instant := ⟨0, 0⟩
    have htimes : (List.replicate (entries.length + 1) now)[entries.length]? = some now :=
      List.getElem?_replicate_of_lt (Nat.lt_succ_self _)
    have hcall := hrepeats _ _ now htimes
    rw [replay_ofEntries, htimes, repeating?_of_le (Nat.le_refl _), hlast,
      List.getElem?_eq_none (Nat.le_refl _)] at hcall
    have hsame : answer now (exhausted (samples entries).getLast?) = answer now entry :=
      Option.some.inj hcall
    cases entry with
    | ok sample => exact .inl ⟨sample, hlast⟩
    | error reason =>
      cases hsamples : (samples entries).getLast? with
      | some sample =>
        rw [hsamples] at hsame
        cases hsame
      | none =>
        rw [hsamples] at hsame
        obtain rfl : noSample = reason := by
          injection hsame with hfault
          injection hfault
        exact .inr ⟨hlast, List.getLast?_eq_none_iff.1 hsamples⟩
  · intro hkeeps times k now htime
    rw [replay_ofEntries, htime]
    by_cases hk : k < entries.length
    · rw [repeating?_of_lt hk, List.getElem?_eq_getElem hk]
      rfl
    · have hlate : entries.length ≤ k := Nat.le_of_not_lt hk
      rw [repeating?_of_le hlate, List.getElem?_eq_none hlate]
      rcases hkeeps with ⟨sample, hsample⟩ | ⟨hfailure, hnone⟩
      · rw [hsample, getLast?_samples_of_ok hsample]
        rfl
      · rw [hfailure, hnone]
        rfl

end ResourceScript

/-! ## Endpoints -/

namespace ProbeScript

variable {scripts : List (String × List (Option UInt16))} {s : ProbeScript} {name : String}
  {script : List (Option UInt16)}

/-- The script that was extended like this, one endpoint after the other. -/
def ofScripts (scripts : List (String × List (Option UInt16))) : ProbeScript :=
  scripts.foldl (fun s entry => s.extend entry.1 entry.2) empty

/-- All statuses that are scripted for an endpoint. -/
def scriptOf (scripts : List (String × List (Option UInt16))) (name : String) :
    List (Option UInt16) :=
  (scripts.filter fun entry => entry.1 = name).flatMap (·.2)

/-- The results of probes of these endpoints at these times, one after the other. -/
def replay (s : ProbeScript) : List (EndpointCheck × Instant) → List EndpointResult
  | [] => []
  | call :: calls => (s.probe call.1 call.2).2 :: (s.probe call.1 call.2).1.replay calls

/-- How many probes of an endpoint come before one of the calls. -/
def probesBefore (calls : List (EndpointCheck × Instant)) (i : Nat) (name : String) : Nat :=
  (calls.take i).countP fun call => call.1.name = name

theorem probesBefore_cons {call : EndpointCheck × Instant} {calls : List (EndpointCheck × Instant)}
    {i : Nat} : probesBefore (call :: calls) (i + 1) name =
      probesBefore calls i name + if call.1.name = name then 1 else 0 := by
  rw [probesBefore, List.take_succ_cons, List.countP_cons]
  simp only [decide_eq_true_eq]
  rfl

theorem find?_foldl_extend (scripts : List (String × List (Option UInt16))) (s : ProbeScript)
    (name : String) :
    ((scripts.foldl (fun s entry => s.extend entry.1 entry.2) s).scripts.find? name).getD [] =
      (s.scripts.find? name).getD [] ++ scriptOf scripts name := by
  induction scripts generalizing s with
  | nil => exact (List.append_nil _).symm
  | cons entry scripts ih =>
    rw [List.foldl_cons, ih, extend, KeyMap.find?_insert, scriptOf, scriptOf, List.filter_cons]
    by_cases hname : entry.1 = name
    · simp [hname]
    · simp [hname]

theorem find?_ofScripts (h : scriptOf scripts name ≠ []) :
    (ofScripts scripts).scripts.find? name = some (scriptOf scripts name) := by
  have hscript := find?_foldl_extend scripts empty name
  rw [show (empty.scripts.find? name).getD [] = [] from rfl, List.nil_append] at hscript
  rw [ofScripts]
  cases hfound : (scripts.foldl (fun s entry => s.extend entry.1 entry.2) empty).scripts.find?
      name with
  | none =>
    rw [hfound] at hscript
    exact absurd hscript.symm h
  | some script =>
    rw [hfound] at hscript
    exact congrArg some hscript

/-- **One status of a script** is given, and the rest goes on where the script was. -/
theorem nextStatus_repeating (h : script ≠ []) :
    repeating? script 0 = some (nextStatus script).1 ∧ (nextStatus script).2 ≠ [] ∧
      ∀ before, repeating? (nextStatus script).2 before = repeating? script (before + 1) := by
  match script with
  | [] => exact absurd rfl h
  | [status] =>
    refine ⟨rfl, List.cons_ne_nil _ _, fun before => ?_⟩
    exact repeating?_singleton.trans repeating?_singleton.symm
  | status :: status' :: rest =>
    have hrest : status' :: rest ≠ [] := List.cons_ne_nil _ _
    exact ⟨rfl, hrest, fun before => (repeating?_cons hrest).symm⟩

theorem probe_of_find? {check : EndpointCheck} (h : s.scripts.find? check.name = some script)
    (now : Instant) :
    (s.probe check now).2 = resultOf check (nextStatus script).1 now ∧
      (s.probe check now).1.scripts = s.scripts.insert check.name (nextStatus script).2 := by
  rw [probe]
  simp only [h]
  exact ⟨trivial, trivial⟩

theorem find?_probe_of_ne {check : EndpointCheck} (hne : check.name ≠ name) (now : Instant) :
    (s.probe check now).1.scripts.find? name = s.scripts.find? name := by
  rw [probe]
  cases hscript : s.scripts.find? check.name with
  | none => rfl
  | some script => exact KeyMap.find?_insert_of_ne _ _ hne

/-- **Any probes, one after the other**: each is answered by the entry of its endpoint's script that
is its turn, whatever was probed before. -/
theorem replay_eq {calls : List (EndpointCheck × Instant)} {i : Nat} {check : EndpointCheck}
    {now : Instant} (hscript : s.scripts.find? check.name = some script) (hsome : script ≠ [])
    (hcall : calls[i]? = some (check, now)) :
    ∃ status, repeating? script (probesBefore calls i check.name) = some status ∧
      (s.replay calls)[i]? = some (resultOf check status now) := by
  induction calls generalizing s script i with
  | nil => cases hcall
  | cons call calls ih =>
    cases i with
    | zero =>
      obtain rfl : call = (check, now) := Option.some.inj hcall
      refine ⟨_, (nextStatus_repeating hsome).1, ?_⟩
      rw [replay, List.getElem?_cons_zero, (probe_of_find? hscript now).1]
    | succ i =>
      rw [List.getElem?_cons_succ] at hcall
      rw [replay, List.getElem?_cons_succ]
      by_cases hname : call.1.name = check.name
      · obtain ⟨_, hrest, hlater⟩ := nextStatus_repeating hsome
        have hfound : (s.probe call.1 call.2).1.scripts.find? check.name =
            some (nextStatus script).2 := by
          rw [← hname] at hscript ⊢
          rw [(probe_of_find? hscript call.2).2, KeyMap.find?_insert_self]
        obtain ⟨status, hstatus, hresult⟩ := ih hfound hrest hcall
        refine ⟨status, ?_, hresult⟩
        rw [probesBefore_cons, if_pos hname, ← hlater]
        exact hstatus
      · have hfound := (find?_probe_of_ne hname call.2).trans hscript
        obtain ⟨status, hstatus, hresult⟩ := ih hfound hsome hcall
        refine ⟨status, ?_, hresult⟩
        rw [probesBefore_cons, if_neg hname]
        exact hstatus

theorem success_resultOf_iff {check : EndpointCheck} {status : Option UInt16} {now : Instant} :
    (resultOf check status now).success = true ↔ status = some check.expectedStatus := by
  unfold resultOf
  cases status with
  | none => simp
  | some code =>
    by_cases hcode : code = check.expectedStatus
    · simp [hcode]
    · simp [hcode]

/-- **The results of probe scripts**: the probes of an endpoint meet its statuses in their order,
and after them the last one again and again. -/
theorem replay_ofScripts {calls : List (EndpointCheck × Instant)} {i : Nat} {check : EndpointCheck}
    {now : Instant} (hcall : calls[i]? = some (check, now))
    (hscript : scriptOf scripts check.name ≠ []) :
    ∃ result, ((ofScripts scripts).replay calls)[i]? = some result ∧
      repeating? (scriptOf scripts check.name) (probesBefore calls i check.name) =
        some result.status ∧
      (result.success = true ↔ result.status = some check.expectedStatus) := by
  obtain ⟨status, hstatus, hresult⟩ := replay_eq (find?_ofScripts hscript) hscript hcall
  exact ⟨_, hresult, hstatus, success_resultOf_iff⟩

end ProbeScript

/-! ## Both kinds of scripts -/

/-- **Scripts repeat their last entry.**  A script of resources answers every call by the entry that
is its turn, and all calls after the last entry by that one, if and only if it keeps its last entry:
when it ends with a failure and there was a sample before, the sample is repeated instead.  A script
of statuses always does so, whatever other endpoints are probed in between, and a probe succeeds
exactly when the status is the one that its check expects. -/
theorem scripts_repeat_last_iff (entries : List (Except String ResourceSample))
    (scripts : List (String × List (Option UInt16))) :
    (entries ≠ [] → (ResourceScript.Repeats entries ↔ ResourceScript.KeepsLast entries)) ∧
    ∀ (calls : List (EndpointCheck × Instant)) (i : Nat) (check : EndpointCheck) (now : Instant),
      calls[i]? = some (check, now) → ProbeScript.scriptOf scripts check.name ≠ [] →
        ∃ result, ((ProbeScript.ofScripts scripts).replay calls)[i]? = some result ∧
          repeating? (ProbeScript.scriptOf scripts check.name)
            (ProbeScript.probesBefore calls i check.name) = some result.status ∧
          (result.success = true ↔ result.status = some check.expectedStatus) := by
  refine ⟨ResourceScript.repeats_iff_keepsLast, ?_⟩
  intro calls i check now hcall hscript
  exact ProbeScript.replay_ofScripts hcall hscript

/-- A script of resources that fails in between and ends with a sample gives this sample to the
fifth call; and the third probe of an endpoint with two statuses meets the second of them, though
another endpoint is probed before. -/
theorem scripts_repeat_last_iff_mixed :
    let memory : MemoryUsage := ⟨16, 4, 12, 25.0⟩
    let sample : ResourceSample := ⟨⟨0, 0⟩, 95.0, memory, []⟩
    let entries : List (Except String ResourceSample) :=
      [.ok ⟨⟨0, 0⟩, 10.0, memory, []⟩, .error "no /proc", .ok sample]
    let times : List Instant := [⟨1, 0⟩, ⟨2, 0⟩, ⟨3, 0⟩, ⟨4, 0⟩, ⟨5, 0⟩]
    let api : EndpointCheck := ⟨"api", "https://api.example.com", "GET", 10, 200⟩
    let web : EndpointCheck := ⟨"web", "https://example.com", "GET", 10, 200⟩
    let scripts : List (String × List (Option UInt16)) :=
      [("api", [some 200, none]), ("web", [some 404])]
    let calls : List (EndpointCheck × Instant) :=
      [(api, ⟨1, 0⟩), (web, ⟨1, 0⟩), (api, ⟨2, 0⟩), (web, ⟨2, 0⟩), (api, ⟨3, 0⟩)]
    entries ≠ [] ∧ ResourceScript.KeepsLast entries ∧ times[4]? = some ⟨5, 0⟩ ∧
      ((ResourceScript.ofEntries entries).replay times)[4]? =
        some (.ok { sample with time := ⟨5, 0⟩ }) ∧
      calls[4]? = some (api, ⟨3, 0⟩) ∧ ProbeScript.scriptOf scripts api.name ≠ [] ∧
      ∃ result, ((ProbeScript.ofScripts scripts).replay calls)[4]? = some result ∧
        result.status = none ∧ result.success = false := by
  intro memory sample entries times api web scripts calls
  have hentries : entries ≠ [] := List.cons_ne_nil _ _
  have hkeeps : ResourceScript.KeepsLast entries := .inl ⟨sample, rfl⟩
  have hcall : calls[4]? = some (api, ⟨3, 0⟩) := rfl
  have hscript : ProbeScript.scriptOf scripts api.name = [some 200, none] := rfl
  obtain ⟨hresources, hprobes⟩ := scripts_repeat_last_iff entries scripts
  have hanswer := (hresources hentries).2 hkeeps times 4 ⟨5, 0⟩ rfl
  have hnonempty : ProbeScript.scriptOf scripts api.name ≠ [] := by
    rw [hscript]
    exact List.cons_ne_nil _ _
  obtain ⟨result, hresult, hstatus, hsuccess⟩ := hprobes calls 4 api ⟨3, 0⟩ hcall hnonempty
  have hnone : result.status = none := (Option.some.inj hstatus).symm
  refine ⟨hentries, hkeeps, rfl, hanswer, hcall, hnonempty, result, hresult, hnone, ?_⟩
  rw [← Bool.not_eq_true, hsuccess, hnone]
  exact nofun

/-- A failure that comes after a sample is not repeated: the third call gets the sample again. -/
theorem failure_at_the_end_forgotten :
    let sample : ResourceSample := ⟨⟨0, 0⟩, 10.0, ⟨16, 4, 12, 25.0⟩, []⟩
    let entries : List (Except String ResourceSample) := [.ok sample, .error "gone"]
    let times : List Instant := [⟨1, 0⟩, ⟨2, 0⟩, ⟨3, 0⟩]
    ((ResourceScript.ofEntries entries).replay times)[2]? =
        some (.ok { sample with time := ⟨3, 0⟩ }) ∧
      (repeating? entries 2).map (ResourceScript.answer ⟨3, 0⟩) =
        some (.error (.collection "gone")) ∧
      ((ResourceScript.ofEntries entries).replay times)[2]? ≠
        (repeating? entries 2).map (ResourceScript.answer ⟨3, 0⟩) := by
  refine ⟨rfl, rfl, ?_⟩
  intro hsame
  cases hsame

end HostWatch.Rehearsal
