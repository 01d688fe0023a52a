import EntityMapping.Settings.Basic
import EntityMapping.Text.Pieces
import EntityMapping.Text.Word

/-!
# Checking settings

The check of settings gives a warning for each setting that would generate names or lengths that are
not well-formed.
-/

namespace EntityMapping

open Text

/-- Whether a value is an identifier; only texts can be asked. -/
def Value.isIdentifier (v : Value) : Except Fault Bool :=
  match v with
  | .text s => .ok (Text.isIdentifier s)
  | v => .error (.noAttribute v.kind "isidentifier")

/-- Whether a value is a whole number above zero; truth values count as numbers. -/
def Value.isPositiveInt : Value → Bool
  | .int n => 0 < n
  | .bool b => b
  | _ => false

/-- Whether the parts of a namespace are identifiers; null is no namespace. -/
def Value.isNamespace (v : Value) : Except Fault Bool :=
  match v with
  | .null => .ok true
  | .text s => .ok ((pieces '.' s).all Text.isIdentifier)
  | v => .error (.noAttribute v.kind "split")

/-- The warning on a setting. -/
def warningOn (s : Settings) (k : Setting) : String :=
  "Invalid " ++ k.key ++ ": " ++ (s.get k).display

namespace Settings

/-- The warnings on settings. -/
def check (s : Settings) : Except Fault (List String) := do
  let base ← s.baseClassName.isIdentifier
  let suffix ← if s.entitySuffix.truthy then s.entitySuffix.isIdentifier else pure true
  let space ← s.namespaceName.isNamespace
  return [(base, Setting.baseClassName), (suffix, .entitySuffix),
    (s.defaultStringLength.isPositiveInt, .defaultStringLength), (space, .namespaceName)].filterMap
      fun (good, k) => if good then none else some (warningOn s k)

end Settings

end EntityMapping
