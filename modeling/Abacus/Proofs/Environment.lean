import Abacus.CommandLine

/-!
# Environment — settings from variables

Each setting can be given any value by a variable of its own, so the settings that a command may run
under are all settings whose log level is known:

* `Settings.Spells`, `Settings.environmentValue?_cons` — which variable counts for a name;
* `Settings.toEnvironment`, `Settings.read_toEnvironment` — variables that give settings;
* `CommandLine.prepare_toEnvironment` — hence settings that a command runs under.
-/

namespace Abacus

namespace Settings

/-! ## Variables -/

/-- The name of a variable is that of a setting after the start of all names, in any case. -/
def Spells (entry name : String) : Prop :=
  entry.toList.map smallLetter = variableStart ++ name.toList

instance (entry name : String) : Decidable (Spells entry name) :=
  inferInstanceAs (Decidable (_ = _))

@[simp] theorem environmentValue?_nil (name : String) : environmentValue? [] name = none := rfl

/-- A variable counts unless a later one has the same name. -/
theorem environmentValue?_cons {entry spelled : String} (hspelled : Spells entry spelled)
    (name value : String) (environment : List (String × String)) :
    environmentValue? ((entry, value) :: environment) name =
      (environmentValue? environment name).or (if spelled = name then some value else none) := by
  have hname : (entry.toList.map smallLetter == variableStart ++ name.toList) =
      decide (spelled = name) := by
    rw [hspelled, Bool.eq_iff_iff]
    simp [String.toList_inj]
  unfold environmentValue?
  dsimp only
  rw [List.reverse_cons, List.find?_append, Option.map_or, List.find?_cons]
  dsimp only
  rw [hname]
  by_cases h : spelled = name
  · simp [h]
  · simp [h]

/-- Without direct values, those of the environment are read. -/
theorem given?_nil (environment : List (String × String)) (name : String) :
    given? [] environment name = (environmentValue? environment name).map .text :=
  rfl

/-! ## All settings -/

/-- The word for a flag. -/
def flagWord (flag : Bool) : String := if flag then "true" else "false"

theorem readFlag_flagWord (flag : Bool) : readFlag (.text (flagWord flag)) = .ok flag := by
  have htrue : trueWords.contains "true".toLower = true := by decide +kernel
  have hfalse : trueWords.contains "false".toLower = false ∧
      falseWords.contains "false".toLower = true := by decide +kernel
  cases flag with
  | true => simp only [flagWord, readFlag, if_true, htrue]
  | false =>
      simp only [flagWord, readFlag, Bool.false_eq_true, if_false, if_true, hfalse.1, hfalse.2]

/-- The variables that give settings. -/
def toEnvironment (settings : Settings) : List (String × String) :=
  [("STACK_CALC_STRICT_SCANNER", flagWord settings.strictScanner),
    ("STACK_CALC_PLACEHOLDER_TEXT", settings.placeholderText),
    ("STACK_CALC_ERROR_MESSAGE", settings.errorMessage),
    ("STACK_CALC_LOG_LEVEL", settings.logLevel),
    ("STACK_CALC_APP_TITLE", settings.appTitle),
    ("STACK_CALC_APP_VERSION", settings.appVersion)]

theorem read_toEnvironment (settings : Settings) :
    read [] settings.toEnvironment = .ok settings := by
  have hstrict : Spells "STACK_CALC_STRICT_SCANNER" "strict_scanner" := by decide +kernel
  have hplaceholder : Spells "STACK_CALC_PLACEHOLDER_TEXT" "placeholder_text" := by decide +kernel
  have herror : Spells "STACK_CALC_ERROR_MESSAGE" "error_message" := by decide +kernel
  have hlevel : Spells "STACK_CALC_LOG_LEVEL" "log_level" := by decide +kernel
  have htitle : Spells "STACK_CALC_APP_TITLE" "app_title" := by decide +kernel
  have hversion : Spells "STACK_CALC_APP_VERSION" "app_version" := by decide +kernel
  -- Each name is compared with the six that are spelled, and only its own is left.
  unfold read
  simp [given?_nil, toEnvironment, environmentValue?_cons hstrict,
    environmentValue?_cons hplaceholder, environmentValue?_cons herror,
    environmentValue?_cons hlevel, environmentValue?_cons htitle, environmentValue?_cons hversion,
    setting, readText, readFlag_flagWord]

end Settings

/-- All settings with a known log level are those of a command in some environment. -/
theorem CommandLine.prepare_toEnvironment {settings : Settings} {threshold : Log.Level}
    (hlevel : settings.threshold = .ok threshold) :
    prepare settings.toEnvironment = .ok (settings, threshold) := by
  unfold prepare
  rw [settings.read_toEnvironment]
  simp only [hlevel]

end Abacus
