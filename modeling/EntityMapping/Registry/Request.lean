import EntityMapping.Registry

/-!
# Requests to the registry

Who registers a target may give any values for its name and aliases.  Only texts are names; what
comes before the first value that is none is still registered.
-/

namespace EntityMapping.Registry

/-- The value as the name of a target or an alias. -/
def nameOf (v : Value) : Except Fault String := v.toText "lower"

/-- The names at the start of a list of values, and the fault of the value that ends them. -/
def spanNames : List Value → List String × Option Fault
  | [] => ([], none)
  | v :: r =>
    match nameOf v with
    | .error e => ([], some e)
    | .ok name =>
      let (names, fault) := spanNames r
      (name :: names, fault)

/-- The aliases that a value lists; what counts as false lists none. -/
def listedAliases (v : Value) : List String × Option Fault :=
  if v.truthy then
    match v.elements with
    | .ok items => spanNames items
    | .error e => ([], some e)
  else ([], none)

/-- Registers what is offered under a name with aliases, all of them any values. -/
def registerValues (r : Registry) (name : Value) (offer : Offer) (aliases : Value)
    (replace : Bool) : Option Failure × Registry :=
  match offer, nameOf name with
  | .foreign shown, _ => (some (.registry (.notGenerator shown)), r)
  | .generator _, .error e => (some (.fault e), r)
  | .generator _, .ok key =>
    let keeps := Assoc.has (Text.lowered key) r.targets && !replace
    let (names, fault) := listedAliases aliases
    match r.register key offer names replace with
    | (some e, r) => (some (.registry e), r)
    | (none, r) => (if keeps then none else fault.map .fault, r)

end EntityMapping.Registry
