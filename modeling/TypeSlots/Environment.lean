import TypeSlots.Text.Utf8

/-!
# Environment variables

An environment gives some names a value. Names and values are strings of octets, which need not be
text; a text is a name by the octets that encode it. What an environment holds is seen through
`get?`; each operation has one law about it.
-/

set_option autoImplicit false

namespace TypeSlots

/-- The name of a variable. -/
structure VariableName where
  octets : List UInt8
  deriving DecidableEq

instance : Coe String VariableName where
  coe text := ⟨Text.utf8 text.toList⟩

/-- Variables with their values, at most one value to a name. -/
structure Environment where
  bindings : List (VariableName × List UInt8)

namespace Environment

/-- The variable that names the version a table of slots is wanted for. -/
def targetVariable : String := "PYSLOTS_PYTHON_VERSION"

/-- The environment without variables. -/
def empty : Environment where
  bindings := []

/-- The value of a variable, if it is set. -/
def get? (env : Environment) (name : VariableName) : Option (List UInt8) :=
  env.bindings.lookup name

/-- The environment without the variables whose names satisfy a condition. -/
def erase (env : Environment) (p : VariableName → Bool) : Environment where
  bindings := env.bindings.filter fun v => !p v.1

/-- The environment without the variables whose names are texts that satisfy a condition. -/
def eraseAll (env : Environment) (p : String → Bool) : Environment :=
  env.erase fun name => (Text.text? name.octets).any p

/-- The environment without one variable. -/
def unset (env : Environment) (name : VariableName) : Environment :=
  env.erase (· == name)

/-- The environment with a variable set to a value. -/
def set (env : Environment) (name : VariableName) (value : List UInt8) : Environment where
  bindings := (name, value) :: (env.unset name).bindings

/-- No variable is set in the empty environment. -/
@[simp] theorem get?_empty (name : VariableName) : empty.get? name = none := rfl

/-- Erasing takes away exactly the variables with the condition. -/
@[simp] theorem get?_erase (env : Environment) (p : VariableName → Bool) (name : VariableName) :
    (env.erase p).get? name = if p name then none else env.get? name := by
  obtain ⟨vars⟩ := env
  simp only [get?, erase]
  induction vars with
  | nil => simp
  | cons v vs ih =>
    obtain ⟨n, b⟩ := v
    by_cases hn : name = n
    · subst hn
      by_cases hp : p name
      · simpa [hp] using ih
      · simp [hp]
    · have hb : (name == n) = false := by simp [hn]
      by_cases hp : p n <;> simp [List.lookup_cons, hb, hp, ih]

/-- Unsetting a variable changes no other. -/
@[simp] theorem get?_unset (env : Environment) (erased name : VariableName) :
    (env.unset erased).get? name = if name = erased then none else env.get? name := by
  simp [unset]

/-- Setting a variable changes no other. -/
@[simp] theorem get?_set (env : Environment) (changed name : VariableName) (value : List UInt8) :
    (env.set changed value).get? name = if name = changed then some value else env.get? name := by
  by_cases h : name = changed
  · simp [get?, set, h]
  · have hb : (name == changed) = false := by simp [h]
    have hu := get?_unset env changed name
    simpa [get?, set, List.lookup_cons, hb, h] using hu

end Environment

end TypeSlots
