/-
# What is wrong with the settings, and what is said about it

Settings are read from three variables in two rounds.  The first round turns texts into values: the
depth into a number, the format into yes or no.  The second round makes settings of the values, and
checks what can be checked of values only: that the depth is at least one, and that there is a level
of that name.  Only the first round knows which variable a value came from.

* `Setting.Admits` says which texts are right for a variable, in one place and without the rounds.
  Settings are loaded exactly if all three texts are right (`Loads`, `loads`).
* **Faults of the first round name their variable, faults of the second round do not**
  (`load_names_variable_iff`): the message about the depth has no name of a variable in it, and the
  message about the level has one only if the user wrote it there.
-/
import Mathlib
import ScriptTemplate.Settings

namespace ScriptTemplate

/-! ## 1. Right texts -/

/-- The names of levels. -/
def Log.Level.known : List Text :=
  ["CRITICAL", "FATAL", "ERROR", "WARNING", "WARN", "INFO", "DEBUG", "NOTSET"]

/-- **A level has a name exactly if the name is known**, in any case. -/
theorem Log.Level.isSome_ofName?_iff {name : Text} :
    (ofName? name).isSome ↔ Text.upper name ∈ known := by
  rw [ofName?, ofUpperName?, List.findSome?_isSome_iff]
  simp [spellings, known, or_assoc]

namespace Settings

/-- What can be set by a variable. -/
inductive Setting
  | depth
  | level
  | format
deriving DecidableEq

namespace Setting

/-- The variable of a setting. -/
def variableName : Setting → Text
  | depth => depthVariable
  | level => levelVariable
  | format => formatVariable

/-- **A text is right for a setting.**  Blanks around it do not count, and are gone already. -/
def Admits : Setting → Text → Prop
  | depth, text => text = [] ∨ ∃ n, Text.integer text = .ok n ∧ 1 ≤ n
  | level, text => text = [] ∨ Text.upper text ∈ Log.Level.known
  | format, text => Text.lower text ∈ trueWords ∨ Text.lower text ∈ falseWords

/-- The variable of a setting has a right value, or none. -/
def IsValid (setting : Setting) (environ : Dictionary Text) : Prop :=
  setting.Admits (valueOf environ setting.variableName)

end Setting

/-- The variable of the depth holds a number, whichever, or nothing. -/
def DepthIsNumber (environ : Dictionary Text) : Prop :=
  valueOf environ depthVariable = [] ∨ ∃ n, Text.integer (valueOf environ depthVariable) = .ok n

/-! ## 2. How loading ends -/

/-- **How loading ends**, the faults in the order in which they are found. -/
inductive Loads (environ : Dictionary Text) : Except SettingsFault Settings → Prop
  | depthNotInteger (garbled : ¬ DepthIsNumber environ) :
    Loads environ (.error (.depthNotInteger (valueOf environ depthVariable)))
  | formatNotBoolean (number : DepthIsNumber environ)
    (unclear : ¬ Setting.format.IsValid environ) :
    Loads environ (.error (.formatNotBoolean (Text.lower (valueOf environ formatVariable))))
  | depthTooSmall (number : DepthIsNumber environ) (small : ¬ Setting.depth.IsValid environ)
    (clear : Setting.format.IsValid environ) : Loads environ (.error .depthTooSmall)
  | unknownLevel (deep : Setting.depth.IsValid environ) (clear : Setting.format.IsValid environ)
    (unknown : ¬ Setting.level.IsValid environ) :
    Loads environ (.error (.unknownLevel (valueOf environ levelVariable)))
  | loaded {settings : Settings} (valid : ∀ setting : Setting, setting.IsValid environ)
    (deep : ∀ depth ∈ settings.maxDepth, 1 ≤ depth)
    (known : Text.upper settings.logLevel ∈ Log.Level.known) : Loads environ (.ok settings)

theorem of_readDepth_error {text : Text} {fault : SettingsFault}
    (h : readDepth text = .error fault) :
    fault = .depthNotInteger text ∧ text ≠ [] ∧ ∀ n, Text.integer text ≠ .ok n := by
  unfold readDepth at h
  split at h
  · cases h
  · next given =>
    split at h
    · cases h
    · next read =>
      cases h
      refine ⟨rfl, fun empty => given (by rw [empty]; rfl), fun n number => ?_⟩
      rw [read] at number
      cases number

theorem of_readDepth_ok {text : Text} {depth : Option Int} (h : readDepth text = .ok depth) :
    text = [] ∧ depth = none ∨ text ≠ [] ∧ ∃ n, Text.integer text = .ok n ∧ depth = some n := by
  unfold readDepth at h
  split at h
  · next empty =>
    cases h
    exact .inl ⟨List.isEmpty_iff.mp empty, rfl⟩
  · next given =>
    split at h
    · next n read =>
      cases h
      exact .inr ⟨fun empty => given (by rw [empty]; rfl), n, read, rfl⟩
    · cases h

/-- The number that was read decides whether the depth is right. -/
theorem admits_depth_iff {text : Text} {depth : Option Int} (h : readDepth text = .ok depth) :
    Setting.depth.Admits text ↔ ∀ d ∈ depth, 1 ≤ d := by
  rcases of_readDepth_ok h with ⟨rfl, rfl⟩ | ⟨given, n, read, rfl⟩
  · exact ⟨nofun, fun _ => .inl rfl⟩
  · simp [Setting.Admits, given, read]

theorem of_readFormat_error {text : Text} {fault : SettingsFault}
    (h : readFormat text = .error fault) :
    fault = .formatNotBoolean (Text.lower text) ∧ ¬ Setting.format.Admits text := by
  simp only [readFormat] at h
  split at h
  · cases h
  · next notTrue =>
    split at h
    · cases h
    · next notFalse =>
      cases h
      rw [List.contains_iff_mem] at notTrue notFalse
      exact ⟨rfl, fun admitted => admitted.elim notTrue notFalse⟩

theorem admits_of_readFormat {text : Text} {json : Bool} (h : readFormat text = .ok json) :
    Setting.format.Admits text := by
  simp only [readFormat] at h
  split at h
  · next isTrue => exact .inl (List.contains_iff_mem.mp isTrue)
  · split at h
    · next isFalse => exact .inr (List.contains_iff_mem.mp isFalse)
    · cases h

/-- The level that counts: the one that is given, if there is one. -/
def levelFrom (environ : Dictionary Text) : Text :=
  if (valueOf environ levelVariable).isEmpty then defaultLevel else valueOf environ levelVariable

theorem levelFrom_of_not_isValid {environ : Dictionary Text}
    (unknown : ¬ Setting.level.IsValid environ) :
    levelFrom environ = valueOf environ levelVariable := by
  refine if_neg fun empty => unknown (.inl ?_)
  exact List.isEmpty_iff.mp empty

/-- The level that counts where none is given is known, so giving none is right. -/
theorem isValid_level_iff {environ : Dictionary Text} :
    Setting.level.IsValid environ ↔ Text.upper (levelFrom environ) ∈ Log.Level.known := by
  by_cases empty : valueOf environ levelVariable = []
  · have known : Text.upper defaultLevel ∈ Log.Level.known := by
      rw [show Text.upper defaultLevel = defaultLevel by cbv]
      decide
    rw [levelFrom, empty]
    exact ⟨fun _ => known, fun _ => .inl empty⟩
  · rw [levelFrom, if_neg (by rwa [List.isEmpty_iff])]
    exact or_iff_right empty

/-- **The checks of values**, the depth before the level. -/
theorem make_cases (depth : Option Int) (level : Text) (json : Bool) :
    (¬ ∀ d ∈ depth, 1 ≤ d) ∧ make depth level json = .error .depthTooSmall ∨
    (∀ d ∈ depth, 1 ≤ d) ∧ Text.upper level ∉ Log.Level.known ∧
      make depth level json = .error (.unknownLevel level) ∨
    (∀ d ∈ depth, 1 ≤ d) ∧ Text.upper level ∈ Log.Level.known ∧
      make depth level json = .ok ⟨depth, level, json⟩ := by
  have small_iff : depth.any (· < 1) ↔ ¬ ∀ d ∈ depth, 1 ≤ d := by
    cases depth <;> simp
  have unknown_iff : (Log.Level.ofName? level).isNone ↔ Text.upper level ∉ Log.Level.known := by
    rw [← Log.Level.isSome_ofName?_iff, Option.not_isSome_iff_eq_none, Option.isNone_iff_eq_none]
  unfold make
  split_ifs with small unknown
  · exact .inl ⟨small_iff.mp small, rfl⟩
  · exact .inr (.inl ⟨not_not.mp (mt small_iff.mpr small), unknown_iff.mp unknown, rfl⟩)
  · exact .inr (.inr ⟨not_not.mp (mt small_iff.mpr small),
      not_not.mp (mt unknown_iff.mpr unknown), rfl⟩)

/-- **Loading ends in one of the five ways.** -/
theorem loads (environ : Dictionary Text) : Loads environ (load environ) := by
  unfold load
  cases depthRead : readDepth (valueOf environ depthVariable) with
  | error fault =>
    obtain ⟨rfl, given, garbled⟩ := of_readDepth_error depthRead
    refine .depthNotInteger ?_
    rintro (empty | ⟨n, number⟩)
    · exact given empty
    · exact garbled n number
  | ok depth =>
    have number : DepthIsNumber environ := by
      rcases of_readDepth_ok depthRead with ⟨empty, -⟩ | ⟨-, n, number, -⟩
      · exact .inl empty
      · exact .inr ⟨n, number⟩
    have deep_iff : Setting.depth.IsValid environ ↔ ∀ d ∈ depth, 1 ≤ d :=
      admits_depth_iff depthRead
    cases formatRead : readFormat (valueOf environ formatVariable) with
    | error fault =>
      obtain ⟨rfl, unclear⟩ := of_readFormat_error formatRead
      exact .formatNotBoolean number unclear
    | ok json =>
      have clear : Setting.format.IsValid environ := admits_of_readFormat formatRead
      show Loads environ (make depth (levelFrom environ) json)
      rcases make_cases depth (levelFrom environ) json with
        ⟨small, made⟩ | ⟨deep, unknown, made⟩ | ⟨deep, known, made⟩
      · rw [made]
        exact .depthTooSmall number (mt deep_iff.mp small) clear
      · have unknown := mt isValid_level_iff.mp unknown
        rw [made, levelFrom_of_not_isValid unknown]
        exact .unknownLevel (deep_iff.mpr deep) clear unknown
      · rw [made]
        refine .loaded ?_ deep known
        rintro (_ | _ | _)
        · exact deep_iff.mpr deep
        · exact isValid_level_iff.mpr known
        · exact clear

/-! ## 3. What the messages name -/

/-- What starts with a character that a text has not got is not to be found in it. -/
theorem infix_append_iff {c : CodePoint} {name before after : Text} (absent : c ∉ before) :
    c :: name <:+: before ++ after ↔ c :: name <:+: after := by
  induction before with
  | nil => rfl
  | cons first rest ih =>
    rw [List.mem_cons, not_or] at absent
    rw [List.cons_append, List.infix_cons_iff, List.cons_prefix_cons, ih absent.2]
    exact or_iff_right fun front => absent.1 front.1

/-- All names of variables start alike. -/
theorem exists_variableName_eq (setting : Setting) :
    ∃ rest, setting.variableName = .char 'A' :: rest := by
  cases setting <;> exact ⟨_, rfl⟩

/-- The message about a small depth names no variable. -/
theorem not_infix_depthTooSmall (setting : Setting) :
    ¬ setting.variableName <:+: SettingsFault.depthTooSmall.message := by
  obtain ⟨rest, name⟩ := exists_variableName_eq setting
  have absent : CodePoint.char 'A' ∉ SettingsFault.depthTooSmall.message := by decide
  rw [name, ← List.append_nil SettingsFault.depthTooSmall.message, infix_append_iff absent]
  exact fun found => nomatch List.infix_nil.mp found

/-- The message about a level names a variable only where the level does. -/
theorem infix_unknownLevel_iff {setting : Setting} {level : Text} :
    setting.variableName <:+: (SettingsFault.unknownLevel level).message ↔
      setting.variableName <:+: level := by
  obtain ⟨rest, name⟩ := exists_variableName_eq setting
  have absent : CodePoint.char 'A' ∉ ("Unknown log level: " : Text) := by decide
  rw [name]
  exact infix_append_iff absent

/-- The first round names the variable in front. -/
theorem infix_depthNotInteger (text : Text) :
    Setting.depth.variableName <:+: (SettingsFault.depthNotInteger text).message :=
  ⟨[], _, (List.append_assoc _ _ _).symm⟩

theorem infix_formatNotBoolean (text : Text) :
    Setting.format.variableName <:+: (SettingsFault.formatNotBoolean text).message :=
  ⟨[], _, (List.append_assoc _ _ _).symm⟩

theorem depthIsNumber_of_isValid {environ : Dictionary Text}
    (deep : Setting.depth.IsValid environ) : DepthIsNumber environ := by
  rcases deep with empty | ⟨n, number, -⟩
  · exact .inl empty
  · exact .inr ⟨n, number⟩

/-- A fault means that some value is wrong. -/
theorem Loads.exists_not_isValid {environ : Dictionary Text} {fault : SettingsFault}
    (ends : Loads environ (.error fault)) : ∃ setting : Setting, ¬ setting.IsValid environ := by
  cases ends with
  | depthNotInteger garbled => exact ⟨.depth, mt depthIsNumber_of_isValid garbled⟩
  | formatNotBoolean _ unclear => exact ⟨.format, unclear⟩
  | depthTooSmall _ small _ => exact ⟨.depth, small⟩
  | unknownLevel _ _ unknown => exact ⟨.level, unknown⟩

/-- **The faults that name a variable with a wrong value.** -/
theorem Loads.names_iff {environ : Dictionary Text} {fault : SettingsFault}
    (ends : Loads environ (.error fault)) :
    (∃ setting : Setting, ¬ setting.IsValid environ ∧
        setting.variableName <:+: fault.message) ↔
      ¬ DepthIsNumber environ ∨ ¬ Setting.format.IsValid environ ∨
        Setting.depth.IsValid environ ∧ levelVariable <:+: valueOf environ levelVariable := by
  cases ends with
  | depthNotInteger garbled =>
    refine ⟨fun _ => .inl garbled, fun _ => ⟨.depth, ?_, infix_depthNotInteger _⟩⟩
    exact mt depthIsNumber_of_isValid garbled
  | formatNotBoolean _ unclear =>
    exact ⟨fun _ => .inr (.inl unclear), fun _ => ⟨.format, unclear, infix_formatNotBoolean _⟩⟩
  | depthTooSmall number small clear =>
    constructor
    · rintro ⟨setting, -, named⟩
      exact absurd named (not_infix_depthTooSmall setting)
    · rintro (garbled | unclear | ⟨deep, -⟩)
      · exact absurd number garbled
      · exact absurd clear unclear
      · exact absurd deep small
  | unknownLevel deep clear unknown =>
    constructor
    · -- The other two values are right, so the one that is named is the level's.
      rintro ⟨setting, wrong, named⟩
      cases setting with
      | depth => exact absurd deep wrong
      | format => exact absurd clear wrong
      | level => exact .inr (.inr ⟨deep, infix_unknownLevel_iff.mp named⟩)
    · rintro (garbled | unclear | ⟨-, named⟩)
      · exact absurd (depthIsNumber_of_isValid deep) garbled
      · exact absurd clear unclear
      · exact ⟨.level, unknown, infix_unknownLevel_iff.mpr named⟩

/-- **When a message names a variable with a wrong value.**  Loading succeeds exactly if all values
are right, and then the depth is at least one if there is one, and the level is known.  If it fails,
then the message names a variable whose value is wrong in three cases only: the depth is no number,
the format is no word for yes or no, or the depth is fine and the level that nobody knows has the
name of its variable in it. -/
theorem load_names_variable_iff (environ : Dictionary Text) :
    ((∃ settings, load environ = .ok settings) ↔
      ∀ setting : Setting, setting.IsValid environ) ∧
    (∀ settings, load environ = .ok settings →
      (∀ depth ∈ settings.maxDepth, 1 ≤ depth) ∧
        Text.upper settings.logLevel ∈ Log.Level.known) ∧
    ∀ fault, load environ = .error fault →
      ((∃ setting : Setting, ¬ setting.IsValid environ ∧
          setting.variableName <:+: fault.message) ↔
        ¬ DepthIsNumber environ ∨ ¬ Setting.format.IsValid environ ∨
          Setting.depth.IsValid environ ∧ levelVariable <:+: valueOf environ levelVariable) := by
  have ends := loads environ
  cases outcome : load environ with
  | ok settings =>
    rw [outcome] at ends
    cases ends with
    | loaded valid deep known =>
      refine ⟨⟨fun _ => valid, fun _ => ⟨settings, rfl⟩⟩, ?_, nofun⟩
      rintro _ ⟨⟩
      exact ⟨deep, known⟩
  | error fault =>
    rw [outcome] at ends
    obtain ⟨setting, wrong⟩ := ends.exists_not_isValid
    refine ⟨⟨nofun, fun valid => absurd (valid setting) wrong⟩, nofun, ?_⟩
    rintro _ ⟨⟩
    exact ends.names_iff

/-- The variable of the level is set to a name that no level has. -/
def loudLevel : Dictionary Text := [(levelVariable, " loud ")]

/-- Neither this name nor the message about it says which variable is meant. -/
theorem load_names_variable_iff_loudLevel :
    load loudLevel = .error (.unknownLevel "loud") ∧
    ¬ ∃ setting : Setting, ¬ setting.IsValid loudLevel ∧
      setting.variableName <:+: (SettingsFault.unknownLevel "loud").message := by
  have refused : load loudLevel = .error (.unknownLevel "loud") := by cbv
  have text : valueOf loudLevel levelVariable = "loud" := by cbv
  have noDepth : valueOf loudLevel depthVariable = [] := by cbv
  have noFormat : valueOf loudLevel formatVariable = [] := by cbv
  have clear : Setting.format.IsValid loudLevel := by
    rw [Setting.IsValid, Setting.variableName, noFormat]
    exact .inr (by decide)
  refine ⟨refused, fun named => ?_⟩
  rcases ((load_names_variable_iff loudLevel).2.2 _ refused).mp named with
    garbled | unclear | ⟨-, found⟩
  · exact garbled (.inl noDepth)
  · exact unclear clear
  · rw [text] at found
    exact absurd found.length_le (by decide)

/-- The variable of the depth is set to zero. -/
def zeroDepth : Dictionary Text := [(depthVariable, "0")]

/-- **Not every fault names a variable**: a depth of zero is refused, and the message has no name of
a variable in it. -/
theorem zeroDepth_refused_unnamed :
    ¬ ∀ environ : Dictionary Text,
      (∃ settings, load environ = .ok settings ∧ (∀ depth ∈ settings.maxDepth, 1 ≤ depth) ∧
        Text.upper settings.logLevel ∈ Log.Level.known) ∨
      ∃ fault, load environ = .error fault ∧ ∃ setting : Setting,
        ¬ setting.IsValid environ ∧ setting.variableName <:+: fault.message := by
  intro named
  have refused : load zeroDepth = .error .depthTooSmall := by cbv
  rcases named zeroDepth with ⟨settings, loaded, -⟩ | ⟨fault, failed, setting, -, found⟩
  · rw [refused] at loaded
    cases loaded
  · obtain rfl := Except.error.inj (refused.symm.trans failed)
    exact not_infix_depthTooSmall setting found

end Settings

end ScriptTemplate
