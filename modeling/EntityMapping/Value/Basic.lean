import EntityMapping.Decimal.Binary64

/-!
# Values

Settings, manifests and directive arguments are values of a data format: null, truth values, whole
and binary64 numbers, texts, lists and objects.  An object is a list of fields in the order in which
the keys first occurred.  Its keys are scalars, and two keys that are equal as numbers are one key.
-/

namespace EntityMapping

open Decimal

/-- The key of an object's field. -/
inductive Key where
  /-- The null key. -/
  | null
  /-- A truth value, which counts as the number one or zero. -/
  | bool (b : Bool)
  /-- A whole number. -/
  | int (n : Int)
  /-- A binary64 number. -/
  | float (x : Binary64)
  /-- A text; every key of a document is one. -/
  | text (s : String)
deriving DecidableEq, Repr, Inhabited

/-- A value of the data format. -/
inductive Value where
  /-- The absence of a value. -/
  | null
  /-- A truth value. -/
  | bool (b : Bool)
  /-- A whole number. -/
  | int (n : Int)
  /-- A binary64 number. -/
  | float (x : Binary64)
  /-- A text. -/
  | text (s : String)
  /-- A list. -/
  | list (items : List Value)
  /-- An object: its fields in order. -/
  | object (fields : List (Key × Value))
deriving Inhabited

/-- The fields of an object. -/
abbrev Fields := List (Key × Value)

/-- The value of a truth value as a number. -/
def boolInt (b : Bool) : Int := if b then 1 else 0

/-- Whether two keys are one: numbers are compared by value, whatever their kind. -/
def Key.same : Key → Key → Bool
  | .null, .null => true
  | .text s, .text t => s == t
  | .bool a, .bool b => a == b
  | .bool a, .int n | .int n, .bool a => boolInt a == n
  | .int m, .int n => m == n
  | .bool a, .float x | .float x, .bool a => x.isWhole (boolInt a)
  | .int n, .float x | .float x, .int n => x.isWhole n
  | .float x, .float y => x.same y
  | _, _ => false

/-- The key as a value. -/
def Key.toValue : Key → Value
  | .null => .null
  | .bool b => .bool b
  | .int n => .int n
  | .float x => .float x
  | .text s => .text s

namespace Fields

/-- The value under a key. -/
def get? : Fields → Key → Option Value
  | [], _ => none
  | (k, v) :: r, key => if k.same key then some v else get? r key

/-- The value under a text key. -/
def at? (fs : Fields) (name : String) : Option Value := get? fs (.text name)

/-- Sets the value under a key: an existing field keeps its place, a new one comes last. -/
def set : Fields → Key → Value → Fields
  | [], key, value => [(key, value)]
  | (k, v) :: r, key, value => if k.same key then (k, value) :: r else (k, v) :: set r key value

/-- Sets every field of the second list in the first one. -/
def update (fs gs : Fields) : Fields := gs.foldl (fun acc (k, v) => set acc k v) fs

/-- The object with the given fields, the last value of a repeated key counting. -/
def ofPairs (ps : List (Key × Value)) : Fields := update [] ps

@[simp] theorem get?_nil (key : Key) : get? [] key = none := rfl

@[simp] theorem update_nil (fs : Fields) : update fs [] = fs := rfl

end Fields

namespace Value

/-- Whether a value counts as true: null, false, zero and what is empty do not. -/
def truthy : Value → Bool
  | .null => false
  | .bool b => b
  | .int n => n != 0
  | .float x => !x.isZero
  | .text s => s != ""
  | .list items => !items.isEmpty
  | .object fields => !fields.isEmpty

/-- The first value, if it counts as true, else the second. -/
def orElse (v w : Value) : Value := if v.truthy then v else w

/-- The name of the kind of a value. -/
def kind : Value → String
  | .null => "NoneType"
  | .bool _ => "bool"
  | .int _ => "int"
  | .float _ => "float"
  | .text _ => "str"
  | .list _ => "list"
  | .object _ => "dict"

/-- The scalar as a key; lists and objects are none. -/
def toKey? : Value → Option Key
  | .null => some .null
  | .bool b => some (.bool b)
  | .int n => some (.int n)
  | .float x => some (.float x)
  | .text s => some (.text s)
  | _ => none

mutual

/-- Whether two values are equal: numbers by value, objects without regard to the order of their
fields. -/
def same : Value → Value → Bool
  | .list xs, .list ys => sameAll xs ys
  | .object fs, .object gs => fs.length == gs.length && sameFields fs gs
  | .null, .null => true
  | .bool a, w => w.toKey?.any (Key.same (.bool a))
  | .int n, w => w.toKey?.any (Key.same (.int n))
  | .float x, w => w.toKey?.any (Key.same (.float x))
  | .text s, .text t => s == t
  | _, _ => false

/-- Whether two lists are equal item by item. -/
def sameAll : List Value → List Value → Bool
  | [], [] => true
  | x :: xs, y :: ys => same x y && sameAll xs ys
  | _, _ => false

/-- Whether every field of the first object stands in the second one too. -/
def sameFields : List (Key × Value) → List (Key × Value) → Bool
  | [], _ => true
  | (k, v) :: r, gs =>
    (match Fields.get? gs k with
      | some w => same v w
      | none => false)
      && sameFields r gs

end

mutual

/-- How many lists and objects stand inside each other in a value, at most. -/
def depth : Value → Nat
  | .list items => depthOfItems items + 1
  | .object fields => depthOfFields fields + 1
  | _ => 0

/-- The greatest depth of items. -/
def depthOfItems : List Value → Nat
  | [] => 0
  | v :: r => max (depth v) (depthOfItems r)

/-- The greatest depth of the values of fields. -/
def depthOfFields : List (Key × Value) → Nat
  | [] => 0
  | (_, v) :: r => max (depth v) (depthOfFields r)

end

/-- Whether a value differs from another one; `nan` differs from everything. -/
def differs (v w : Value) : Bool :=
  match v with
  | .float .nan => true
  | v => !v.same w

end Value

end EntityMapping
