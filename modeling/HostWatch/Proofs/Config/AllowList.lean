import HostWatch.Alert.Dispatcher
import HostWatch.Config.Overrides
set_option autoImplicit false

/-!
# Configuration: the levels that may go out

A variable can replace the levels of the file.  Its value is a list of names, of which those that
name no level are left out, and a dispatcher without levels lets everything through.  So as long
as one name is left, the dispatcher lets through exactly what is named.  When none is left, it lets
through everything, whatever the file allows: a level that is misspelt opens the filter
(`MonitorConfig.allows_exactly_named_iff`).
-/

namespace HostWatch.Text

/-! ## Trimming -/

theorem head?_dropWhile_isBlank (cs : List Char) :
    (cs.dropWhile isBlank).head?.all (fun c => !isBlank c) = true := by
  have hhead := List.head?_dropWhile_not isBlank cs
  cases hfirst : (cs.dropWhile isBlank).head? with
  | none => rfl
  | some c =>
    rw [hfirst] at hhead
    simpa using hhead

theorem trimChars_trimChars (cs : List Char) : trimChars (trimChars cs) = trimChars cs := by
  refine trimChars_of_ends ?_ ?_
  · -- The blanks behind the text are dropped from a list that starts with none.
    have hfront := head?_dropWhile_isBlank cs
    obtain ⟨blanks, hblanks⟩ := List.dropWhile_suffix isBlank (l := (cs.dropWhile isBlank).reverse)
    have hparts : trimChars cs ++ blanks.reverse = cs.dropWhile isBlank := by
      rw [trimChars, ← List.reverse_append, hblanks, List.reverse_reverse]
    cases htrim : trimChars cs with
    | nil => rfl
    | cons c rest =>
      rw [← hparts, htrim] at hfront
      exact hfront
  · rw [trimChars, List.getLast?_reverse]
    exact head?_dropWhile_isBlank _

theorem trim_ofList_trimChars (cs : List Char) :
    trim (String.ofList (trimChars cs)) = trim (String.ofList cs) := by
  rw [trim, trim, String.toList_ofList, String.toList_ofList, trimChars_trimChars]

end HostWatch.Text

namespace HostWatch

open HostWatch.Text

/-! ## Names of levels -/

theorem AlertLevel.ofName?_eq_some_iff {name : String} {level : AlertLevel} :
    ofName? name = some level ↔ name = level.text := by
  constructor
  · intro h
    unfold ofName? at h
    split at h
    case isTrue hname =>
      obtain rfl := Option.some.inj h
      exact hname
    case isFalse =>
      split at h
      case isTrue hname =>
        obtain rfl := Option.some.inj h
        exact hname
      case isFalse => cases h
  · rintro rfl
    exact ofName?_text level

/-- A text is read as a level when it is the level's name, blanks around it and letter case
aside. -/
theorem AlertLevel.toOption_ofText_eq_some_iff {s : String} {level : AlertLevel} :
    (ofText s).toOption = some level ↔ lowerAscii (trim s) = level.text := by
  rw [← ofName?_eq_some_iff]
  simp only [ofText]
  cases ofName? (lowerAscii (trim s)) with
  | none => exact iff_of_false nofun nofun
  | some named => exact Iff.rfl

/-- One of the names between the commas of a text is the level's, blanks around it and letter case
aside. -/
def NamesLevel (value : String) (level : AlertLevel) : Prop :=
  ∃ name ∈ splitAt ',' value.toList, lowerAscii (trim (String.ofList name)) = level.text

/-- **The levels of a list** are the ones that it names: what is dropped because it is blank names
none. -/
theorem mem_levelsOf_commaList_iff {value : String} {level : AlertLevel} :
    level ∈ levelsOf (commaList value) ↔ NamesLevel value level := by
  have hblank : ∀ name : List Char, lowerAscii (trim (String.ofList name)) = level.text →
      (!(trimChars name).isEmpty) = true := by
    intro name hname
    cases htrim : trimChars name with
    | cons c rest => rfl
    | nil =>
      rw [← trim_ofList_trimChars, htrim] at hname
      revert hname
      cases level <;> decide
  simp only [levelsOf, commaList, List.mem_filterMap, List.mem_map, List.mem_filter,
    AlertLevel.toOption_ofText_eq_some_iff]
  constructor
  · rintro ⟨_, ⟨_, ⟨⟨name, hname, rfl⟩, _⟩, rfl⟩, hlevel⟩
    exact ⟨name, hname, by rwa [trim_ofList_trimChars] at hlevel⟩
  · rintro ⟨name, hname, hlevel⟩
    refine ⟨_, ⟨_, ⟨⟨name, hname, rfl⟩, hblank name hlevel⟩, rfl⟩, ?_⟩
    rwa [trim_ofList_trimChars]

/-! ## The filter -/

theorem Dispatcher.allows_new_iff {config : AlertingConfig} {channels : List String}
    {level : AlertLevel} :
    (new config channels).allows level = true ↔ config.levels = [] ∨ level ∈ config.levels := by
  rw [allows, Bool.or_eq_true, List.isEmpty_iff, List.contains_iff_mem]
  rfl

namespace MonitorConfig

variable {env : Environment} {value : String}

theorem levels_overriddenBy (h : env.get? "ALERTING_LEVELS" = some value) (c : MonitorConfig) :
    (c.overriddenBy env).alerting.levels = levelsOf (commaList value) := by
  have hlist : env.list? "ALERTING_LEVELS" = some (commaList value) := by
    rw [Environment.list?, h]
    rfl
  show overlay ((env.list? "ALERTING_LEVELS").map levelsOf) c.alerting.levels = _
  rw [hlist]
  rfl

/-- **The filter under a variable** lets through what the variable names, and everything when it
names no level. -/
theorem allows_overriddenBy_iff (h : env.get? "ALERTING_LEVELS" = some value) (c : MonitorConfig)
    (channels : List String) (level : AlertLevel) :
    (Dispatcher.new (c.overriddenBy env).alerting channels).allows level = true ↔
      NamesLevel value level ∨ ∀ other, ¬ NamesLevel value other := by
  rw [Dispatcher.allows_new_iff, levels_overriddenBy h, mem_levelsOf_commaList_iff, or_comm,
    List.eq_nil_iff_forall_not_mem]
  simp only [mem_levelsOf_commaList_iff]

/-- **Exactly the named levels** pass the filter of a dispatcher, whatever the file allows, if the
variable names a level, and only then. -/
theorem allows_exactly_named_iff (h : env.get? "ALERTING_LEVELS" = some value) (c : MonitorConfig)
    (channels : List String) :
    (∀ level, (Dispatcher.new (c.overriddenBy env).alerting channels).allows level = true ↔
        NamesLevel value level) ↔
      ∃ level, NamesLevel value level := by
  simp only [allows_overriddenBy_iff h]
  constructor
  · intro hexact
    refine Classical.byContradiction fun hnone => ?_
    have hall : ∀ other, ¬ NamesLevel value other := not_exists.1 hnone
    exact hall .critical ((hexact .critical).1 (.inr hall))
  · rintro ⟨named, hnamed⟩ level
    exact or_iff_left fun hall => hall named hnamed

/-- One of two names is misspelt, and the file allows recoveries only. -/
theorem allows_exactly_named_iff_misspelt_pair :
    let file : MonitorConfig :=
      { MonitorConfig.initial with
        alerting := { AlertingConfig.initial with levels := [.warning] } }
    let env : Environment := .ofEntries [("MONIC_ALERTING_LEVELS", " CRITICAL ,wraning")]
    let d := Dispatcher.new (file.overriddenBy env).alerting ["mail"]
    env.get? "ALERTING_LEVELS" = some " CRITICAL ,wraning" ∧
      d.allows .critical = true ∧ d.allows .warning = false := by
  intro file env d
  have hset : env.get? "ALERTING_LEVELS" = some " CRITICAL ,wraning" := by decide +kernel
  have hcritical : NamesLevel " CRITICAL ,wraning" .critical :=
    ⟨" CRITICAL ".toList, by decide +kernel, by decide +kernel⟩
  have hwarning : ¬ NamesLevel " CRITICAL ,wraning" .warning := by
    unfold NamesLevel
    decide +kernel
  have hexact := (allows_exactly_named_iff hset file ["mail"]).2 ⟨.critical, hcritical⟩
  refine ⟨hset, (hexact .critical).2 hcritical, ?_⟩
  rw [← Bool.not_eq_true]
  exact fun hallowed => hwarning ((hexact .warning).1 hallowed)

/-- **A misspelt level opens the filter**: the file allows outages only, the variable names nothing
else, and yet recoveries pass. -/
theorem allows_warning_misspelt :
    let file : MonitorConfig :=
      { MonitorConfig.initial with
        alerting := { AlertingConfig.initial with levels := [.critical] } }
    let env : Environment := .ofEntries [("MONIC_ALERTING_LEVELS", "critcal")]
    env.get? "ALERTING_LEVELS" = some "critcal" ∧ ¬ NamesLevel "critcal" .warning ∧
      (Dispatcher.new file.alerting ["mail"]).allows .warning = false ∧
      (Dispatcher.new (file.overriddenBy env).alerting ["mail"]).allows .warning = true := by
  refine ⟨by decide +kernel, ?_, by decide, by decide +kernel⟩
  unfold NamesLevel
  decide +kernel

end MonitorConfig

end HostWatch
