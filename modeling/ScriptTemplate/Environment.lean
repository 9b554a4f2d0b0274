/-
# Environments (`CompilationEnvironment`)

An environment says which scripts there are, what their names and variables mean, and which
scripts are being compiled at the moment (the ancestry).  A script is handed out only if it is
there, is not among its own ancestors, and does not exceed the ceiling on their number.

Going down into a script makes the ancestry longer by an id that was not in it.  So the number of
scripts that are not in the ancestry (`pending`) falls, and compilation ends
(`pending_descend_lt`).
-/
import ScriptTemplate.Dictionary
import ScriptTemplate.Vocabulary

namespace ScriptTemplate

/-- Which evaluation capabilities are at hand. -/
structure Capabilities where
  machine : Bool := true
  stateConstructor : Bool := true
deriving DecidableEq, Repr, Inhabited

/-- Whether evaluations can run. -/
def Capabilities.canEvaluate (c : Capabilities) : Bool := c.machine && c.stateConstructor

/-- Everything that a compilation may consult. -/
structure Environment where
  /-- Script texts by id; an entry without a text is known by name only. -/
  scripts : Dictionary (Option Text) := []
  variableKinds : Dictionary VariableKind := []
  lockingTypes : Dictionary LockingType := []
  /-- The locking script that an unlocking script unlocks. -/
  unlocks : Dictionary (Option Text) := []
  timeLocks : Dictionary TimeLock := []
  /-- The scripts being compiled, outermost first. -/
  ancestry : List Text := []
  /-- The most scripts that may be under compilation at a time. -/
  ceiling : Option Int := none
  capabilities : Capabilities := {}
deriving DecidableEq, Repr, Inhabited

/-- Why a script is not compiled. -/
inductive Refusal
  | unknown (id : Text)
  | circular (id : Text) (ancestry : List Text)
  | tooDeep (id : Text) (ancestry : List Text) (ceiling : Int)
deriving DecidableEq, Repr, Inhabited

/-- How the scripts under compilation are listed. -/
def chain (ancestry : List Text) : Text := Text.join " → " ancestry

/-- The text of a refusal. -/
def Refusal.message : Refusal → Text
  | .unknown id =>
    "No script with an ID of \"" ++ id ++ "\" was provided in the compilation environment."
  | .circular id ancestry =>
    "A circular dependency was encountered: script \"" ++ id
      ++ "\" relies on itself to be generated. (Source scripts: " ++ chain ancestry ++ ")"
  | .tooDeep id ancestry ceiling =>
    "Compiling script \"" ++ id ++ "\" exceeds the maximum script dependency depth of "
      ++ toString ceiling ++ ". (Source scripts: " ++ chain ancestry ++ ")"

namespace Environment

/-- The text of a script. -/
def script? (env : Environment) (id : Text) : Option Text := (env.scripts.lookup id).join

/-- Whether a name is a script's, with or without a text. -/
def hasScript (env : Environment) (id : Text) : Bool := (env.scripts.lookup id).isSome

/-- The locking type of a script. -/
def lockingType (env : Environment) (id : Text) : LockingType :=
  (env.lockingTypes.lookup id).getD .standard

/-- The script that a script unlocks. -/
def unlocked? (env : Environment) (id : Text) : Option Text := (env.unlocks.lookup id).join

/-- The kind of locktime that a script requires. -/
def timeLock (env : Environment) (id : Text) : TimeLock := (env.timeLocks.lookup id).getD .none

/-- The ceiling, if the ancestry has reached it. -/
def fullAt? (env : Environment) : Option Int :=
  match env.ceiling with
  | none => none
  | some ceiling => if ceiling ≤ env.ancestry.length then some ceiling else none

/-- The text of a script that may be compiled now, or why it may not. -/
def locate (env : Environment) (id : Text) : Except Refusal Text :=
  match env.script? id with
  | none => .error (.unknown id)
  | some text =>
    if id ∈ env.ancestry then .error (.circular id env.ancestry)
    else
      match env.fullAt? with
      | some ceiling => .error (.tooDeep id env.ancestry ceiling)
      | none => .ok text

/-- The environment inside a script: the ancestry is longer by its id. -/
def descend (env : Environment) (id : Text) : Environment :=
  { env with ancestry := env.ancestry ++ [id] }

/-- An environment of its own for other scripts: the ceiling and the state constructor are kept,
classifications and ancestry are not. -/
def derive (env : Environment) (scripts : Dictionary (Option Text))
    (variableKinds : Dictionary VariableKind) (machine : Bool) : Environment :=
  { scripts, variableKinds, ceiling := env.ceiling,
    capabilities := ⟨machine, env.capabilities.stateConstructor⟩ }

/-! ## Descending ends -/

/-- The scripts that are not under compilation. -/
def waiting (env : Environment) : Dictionary (Option Text) :=
  env.scripts.filter fun entry => entry.1 ∉ env.ancestry

/-- How many scripts are not under compilation. -/
def pending (env : Environment) : Nat := env.waiting.length

/-- A name that is looked up successfully has an entry. -/
theorem exists_mem_of_script? {env : Environment} {id text : Text}
    (h : env.script? id = some text) : ∃ entry ∈ env.scripts, entry.1 = id := by
  unfold script? at h
  have found : env.scripts.lookup id ≠ none := by
    intro e
    simp [e] at h
  have key : ∀ entries : Dictionary (Option Text), entries.lookup id ≠ none →
      ∃ entry ∈ entries, entry.1 = id := by
    intro entries
    induction entries with
    | nil => simp
    | cons entry rest ih =>
      intro hl
      by_cases he : id == entry.1
      · exact ⟨entry, by simp, (beq_iff_eq.mp he).symm⟩
      · obtain ⟨name, value⟩ := entry
        simp only [List.lookup_cons, he] at hl
        obtain ⟨e, hm, hn⟩ := ih hl
        exact ⟨e, by simp [hm], hn⟩
  exact key _ found

/-- A script that is handed out is there and is not under compilation. -/
theorem of_locate {env : Environment} {id text : Text} (h : env.locate id = .ok text) :
    env.script? id = some text ∧ id ∉ env.ancestry ∧ env.fullAt? = none := by
  unfold locate at h
  split at h
  · cases h
  · next found hs =>
    split at h
    · cases h
    · next fresh =>
      split at h
      · cases h
      · next roomLeft =>
        cases h
        exact ⟨hs, fresh, roomLeft⟩

/-- **Descending leaves fewer scripts.** -/
theorem pending_descend_lt {env : Environment} {id text : Text}
    (h : env.locate id = .ok text) : (env.descend id).pending < env.pending := by
  obtain ⟨hs, fresh, -⟩ := of_locate h
  obtain ⟨entry, hm, rfl⟩ := exists_mem_of_script? hs
  have inside : entry ∈ env.waiting := by simp [waiting, hm, fresh]
  have fewer : (env.descend entry.1).waiting = env.waiting.filter fun e => e.1 ≠ entry.1 := by
    simp only [waiting, descend, List.filter_filter]
    congr 1
    funext e
    simp [not_or, Bool.and_comm]
  unfold pending
  rw [fewer]
  exact List.length_filter_lt_length_iff_exists.mpr ⟨entry, inside, by simp⟩

end Environment

end ScriptTemplate
