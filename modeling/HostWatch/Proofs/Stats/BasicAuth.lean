import HostWatch.Proofs.Stats.Access
import HostWatch.Proofs.Text.Base64
import HostWatch.Proofs.Text.Utf8
set_option autoImplicit false

/-!
# Stats: the pair that is let in

A request gives a user name and a password as one text, in base 64, with a colon between them
(`basicValue`).  The text is read back whole, and its first colon ends the user name
(`ofAuthorization?_basicValue`).  The password may hold colons, blanks and any other characters,
and so may the user name, but no colon: a server whose user name holds one lets nobody in
(`admits_basic_iff`, `refuses_name_with_colon`).
-/

namespace HostWatch.Stats

open HostWatch.Text
open HostWatch.Time (Instant)

/-- The value of an authorization that gives a text. -/
def basicValue (text : String) : String :=
  "Basic " ++ String.ofList (encodeBase64 text.toUTF8.toList)

/-! ## Reading the value -/

theorem not_isBlank_of_isPlain {c : Char} (h : IsPlain c) : isBlank c = false := by
  obtain ⟨hlow, hhigh⟩ := h
  simp only [isBlank, Bool.or_eq_false_iff, Bool.and_eq_false_iff, decide_eq_false_iff_not,
    beq_eq_false_iff_ne]
  omega

theorem trim_of_isPlain {cs : List Char} (h : ∀ c ∈ cs, IsPlain c) :
    trim (String.ofList cs) = String.ofList cs := by
  have hkept : trimChars cs = cs := by
    refine trimChars_of_ends ?_ ?_
    · rw [Option.all_eq_true]
      intro c hc
      rw [not_isBlank_of_isPlain (h c (List.mem_of_mem_head? hc))]
      rfl
    · rw [Option.all_eq_true]
      intro c hc
      rw [not_isBlank_of_isPlain (h c (List.mem_of_getLast? hc))]
      rfl
  rw [trim, String.toList_ofList, hkept]

/-- **The text that an authorization gives** is read back, and cut at its first colon. -/
theorem ofAuthorization?_basicValue (text : String) :
    Credentials.ofAuthorization? (basicValue text) =
      (splitOnce ':' text.toList).map fun p => ⟨String.ofList p.1, String.ofList p.2⟩ := by
  have htrim : trim (String.ofList (encodeBase64 text.toUTF8.toList)) =
      String.ofList (encodeBase64 text.toUTF8.toList) :=
    trim_of_isPlain isPlain_of_mem_encodeBase64
  unfold Credentials.ofAuthorization? basicValue
  simp only [afterFront?_append, Option.bind_eq_bind, Option.bind_some, htrim,
    String.toList_ofList, decodeBase64?_encodeBase64, decode?_toUTF8]
  cases splitOnce ':' text.toList <;> rfl

/-- An authorization gives a pair exactly when its text is the pair with a colon between, and
the colon is the first one. -/
theorem ofAuthorization?_basicValue_eq_some_iff {text name password : String} :
    Credentials.ofAuthorization? (basicValue text) = some ⟨name, password⟩ ↔
      text = name ++ ":" ++ password ∧ ':' ∉ name.toList := by
  have htext : text = name ++ ":" ++ password ↔
      text.toList = name.toList ++ ':' :: password.toList := by
    rw [← String.toList_inj, String.toList_append, String.toList_append, List.append_assoc]
    rfl
  rw [ofAuthorization?_basicValue, htext, ← splitOnce_eq_some_iff, Option.map_eq_some_iff]
  constructor
  · rintro ⟨⟨before, after⟩, hcut, hpair⟩
    obtain ⟨rfl, rfl⟩ := Credentials.mk.inj hpair
    simpa only [String.toList_ofList] using hcut
  · intro hcut
    exact ⟨_, hcut, by simp only [String.ofList_toList]⟩

/-! ## Asking with a pair -/

/-- The request asks for what the monitor knows, and its authorization has the given value. -/
structure Request.Presents (r : Request) (value : String) : Prop where
  method_eq : r.method = "GET"
  path_eq : r.path = "/stats"
  authorization_eq :
    (r.headers.find? fun header => eqIgnoreCase header.1 "authorization").map (·.2) = some value

/-- The first header with the name is the one that counts. -/
theorem Request.presents_of_headers (r : Request) (before : List (String × String))
    {after : List (String × String)} {name value : String} (hmethod : r.method = "GET")
    (hpath : r.path = "/stats") (hheaders : r.headers = before ++ (name, value) :: after)
    (hother : ∀ header ∈ before, eqIgnoreCase header.1 "authorization" = false)
    (hname : eqIgnoreCase name "authorization" = true) : r.Presents value := by
  refine ⟨hmethod, hpath, ?_⟩
  have hnone : before.find? (fun header => eqIgnoreCase header.1 "authorization") = none := by
    rw [List.find?_eq_none]
    intro header hheader
    rw [hother header hheader]
    exact Bool.false_ne_true
  rw [hheaders, List.find?_append, hnone, Option.none_or, List.find?_cons, hname]
  rfl

theorem Request.Presents.given?_eq {r : Request} {text : String}
    (h : r.Presents (basicValue text)) :
    r.given? = Credentials.ofAuthorization? (basicValue text) := by
  have hplain : (basicValue text).toList.all
      (fun c => c = '\t' || (0x20 ≤ c.toNat && c.toNat < 0x7F)) = true := by
    rw [basicValue, String.toList_append, List.all_append, Bool.and_eq_true]
    refine ⟨by decide, List.all_eq_true.2 fun c hc => ?_⟩
    rw [String.toList_ofList] at hc
    obtain ⟨hlow, hhigh⟩ := isPlain_of_mem_encodeBase64 c hc
    simp [Nat.le_of_lt hlow, hhigh]
  rw [Request.given?, Request.header?, h.authorization_eq, Option.filter_some, if_pos hplain,
    Option.bind_some]

theorem Request.Presents.respond_eq {r : Request} {value : String} (h : r.Presents value)
    {s : ServerState} {c : Credentials} (hcredentials : s.credentials = some c) (now : Instant) :
    respond s r now =
      if r.given? = some c then ⟨200, some "application/json", none, .json (view s now)⟩
      else unauthorized := by
  have hclosed : isOpen r.path = false := by
    rw [h.path_eq]
    decide
  have hauthorized : isAuthorized s.credentials r = true ↔ r.given? = some c := by
    rw [hcredentials, isAuthorized_some_iff, hclosed]
    simp
  unfold respond
  by_cases hgiven : r.given? = some c
  · rw [if_pos (hauthorized.2 hgiven), if_pos hgiven, route, h.path_eq, h.method_eq]
    rfl
  · rw [if_neg (mt hauthorized.1 hgiven), if_neg hgiven, h.method_eq]
    rfl

/-- **Who is let in.**  Take a server with a user name that is not empty and a password, and a
request for what the monitor knows whose authorization gives some text.  The request is shown what
the monitor knows exactly when the text is the user name, a colon and the password, and the user
name holds no colon itself; any other request is refused. -/
theorem admits_basic_iff (server : StatsServerConfig) (name password : String)
    (hname : server.username = some name) (hne : name ≠ "")
    (hpassword : server.password = some password) (monitor : Monitor) (host : HostInfo)
    (r : Request) (text : String) (hr : r.Presents (basicValue text)) (now : Instant) :
    let s : ServerState := .new monitor host server
    (respond s r now = ⟨200, some "application/json", none, .json (view s now)⟩ ↔
        text = name ++ ":" ++ password ∧ ':' ∉ name.toList) ∧
      (¬ (text = name ++ ":" ++ password ∧ ':' ∉ name.toList) →
        respond s r now = unauthorized) := by
  intro s
  have hcredentials : s.credentials = some ⟨name, password⟩ :=
    Credentials.ofConfig?_eq_some hname hpassword hne
  have hgiven : r.given? = some ⟨name, password⟩ ↔
      text = name ++ ":" ++ password ∧ ':' ∉ name.toList := by
    rw [hr.given?_eq, ofAuthorization?_basicValue_eq_some_iff]
  rw [hr.respond_eq hcredentials]
  constructor
  · constructor
    · intro hshown
      by_contra hother
      rw [if_neg (mt hgiven.1 hother)] at hshown
      cases hshown
    · intro hpair
      rw [if_pos (hgiven.2 hpair)]
  · intro hother
    rw [if_neg (mt hgiven.1 hother)]

/-- A password with colons, blanks and letters beyond ASCII. -/
theorem admits_basic_colons_in_password :
    let server : StatsServerConfig :=
      { StatsServerConfig.initial with username := some "j. döe", password := some ":p:ä ß " }
    let s : ServerState := .new default default server
    let r : Request :=
      ⟨"GET", "/stats", [("Accept", "*/*"), ("AUTHORIZATION", basicValue "j. döe::p:ä ß ")]⟩
    r.Presents (basicValue "j. döe::p:ä ß ") ∧
      respond s r ⟨0, 0⟩ = ⟨200, some "application/json", none, .json (view s ⟨0, 0⟩)⟩ := by
  intro server s r
  have hr : r.Presents (basicValue "j. döe::p:ä ß ") :=
    r.presents_of_headers [("Accept", "*/*")] rfl (by decide) rfl (by decide) (by decide)
  exact ⟨hr, (admits_basic_iff server "j. döe" ":p:ä ß " rfl (by decide) rfl default default r
    "j. döe::p:ä ß " hr ⟨0, 0⟩).1.2 ⟨by decide, by decide⟩⟩

/-- **A colon in the user name** locks everybody out: the configuration is accepted, and the
request that gives the very pair of it is refused. -/
theorem refuses_name_with_colon :
    let server : StatsServerConfig :=
      { StatsServerConfig.initial with username := some "a:b", password := some "c" }
    let config : MonitorConfig := { MonitorConfig.initial with server := some server }
    let s : ServerState := .new (.new config [] ⟨0, 0⟩) default server
    let text := "a:b" ++ ":" ++ "c"
    let r : Request := ⟨"GET", "/stats", [("Authorization", basicValue text)]⟩
    config.validate = .ok () ∧ config.server = some server ∧ r.Presents (basicValue text) ∧
      respond s r ⟨0, 0⟩ = unauthorized := by
  intro server config s text r
  have hr : r.Presents (basicValue text) :=
    r.presents_of_headers [] rfl (by decide) rfl (by decide) (by decide)
  have hother : r.given? ≠ some ⟨"a:b", "c"⟩ := by
    rw [hr.given?_eq, Ne, ofAuthorization?_basicValue_eq_some_iff]
    exact fun hpair => absurd hpair.2 (by decide)
  refine ⟨by decide +kernel, rfl, hr, ?_⟩
  rw [hr.respond_eq (c := ⟨"a:b", "c"⟩) rfl, if_neg hother]

end HostWatch.Stats
