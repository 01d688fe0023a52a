import EntityMapping.Journal
import EntityMapping.Schema
import EntityMapping.Value.Fault
import EntityMapping.Value.Printer

/-!
# Sorting properties

The properties of an entity are audit fields, which the shared base configures, eligible ones, which
get a configuration of their own, or excluded.  Each list keeps the declaration order.
-/

namespace EntityMapping

/-- The names that are reserved for audit fields unless something else is configured. -/
def auditFieldNames : List String := ["CreatedAt", "UpdatedAt", "CreatedBy", "ModifiedBy"]

/-- What is done with a property. -/
inductive Share where
  /-- The shared base configures it. -/
  | audit
  /-- The configuration of its entity configures it. -/
  | eligible
  /-- Nothing configures it. -/
  | excluded
deriving DecidableEq, Repr

/-- The name of a property as a key. -/
def Property.nameKey (p : Property) : Key :=
  match p.name with
  | some s => .text s
  | none => .null

/-- What is done with a property, given the reserved names.  Whether it is mappable is asked first,
then whether its name is reserved, and only then for its type. -/
def share (reserved : List Key) (p : Property) : Share :=
  if !p.isMappable then .excluded
  else if reserved.any (·.same p.nameKey) then .audit
  else if p.type.isSupported then .eligible
  else .excluded

/-- The properties of an entity, sorted. -/
structure Partition where
  /-- The audit fields. -/
  audit : List Property
  /-- The eligible properties. -/
  eligible : List Property
  /-- The excluded properties. -/
  excluded : List Property

/-- Sorts properties. -/
def classify (reserved : List Key) (ps : List Property) : Partition where
  audit := ps.filter (share reserved · = .audit)
  eligible := ps.filter (share reserved · = .eligible)
  excluded := ps.filter (share reserved · = .excluded)

/-- The reserved names that a value lists. -/
def reservedNames (v : Value) : Except Fault (List Key) := do
  let items ← v.elements
  items.mapM (·.toKey)

/-- The notes on mappable properties that have no supported type. -/
def classifyNotes (reserved : List Key) (ps : List Property) : List Note :=
  (ps.filter fun p => p.isMappable ∧ share reserved p = .excluded).map fun p =>
    ⟨.debug, .classification,
      "Skipping property " ++ (nameValue p.name).display ++ ": unsupported type " ++ p.shownType⟩

end EntityMapping
