import EntityMapping.Text.Quoted
import EntityMapping.Value.Basic

/-!
# Unfit values

Settings may hold any value under any name.  A fault says which use of a value failed because of
its kind; the use itself names the fault, so that a caller can report it or give up.
-/

namespace EntityMapping

/-- Why a value could not be used as it was meant to be. -/
inductive Fault where
  /-- The kind of value has no such property. -/
  | noAttribute (kind property : String)
  /-- The kind of value has no elements. -/
  | notIterable (kind : String)
  /-- The kind of value is no key. -/
  | unhashable (kind : String)
  /-- The kind of value is no path. -/
  | notPath (kind : String)
  /-- The kind of value is no beginning of a text. -/
  | notBeginning (kind : String)
  /-- The kinds of two values have no common order. -/
  | unordered (left right : String)
  /-- An element that should be a key and a value has no elements. -/
  | notPair (index : Nat)
  /-- An element that should be a key and a value has another number of elements than two. -/
  | pairLength (index length : Nat)
  /-- A whole number of a document has too many digits. -/
  | tooManyDigits (count : Nat)
  /-- A whole number has too many digits to be printed. -/
  | tooManyDigitsToWrite
  /-- A document has too many lists and objects inside each other. -/
  | nestedTooDeep (kind : String)
  /-- The host part of an address is malformed. -/
  | badHost (host : String)
  /-- A name denotes something else than a level of severity. -/
  | notLevel (name : String)
  /-- The kind of value is no level of severity. -/
  | levelKind (shown : String)
  /-- There is no setting of a name. -/
  | noSetting (name : String)
  /-- A variable has a name that is taken. -/
  | takenName (name : String)
  /-- The kind of value is no text. -/
  | notText (kind : String)
  /-- The kind of value is nothing that can be carried out. -/
  | notCallable (kind : String)
  /-- A value has too many others inside each other to be copied. -/
  | copiedTooDeep
  /-- A template has too many loops inside each other. -/
  | loopsTooDeep
  /-- A template has too many branches and loops inside each other. -/
  | blocksTooDeep
  /-- A template has far too many branches and loops inside each other. -/
  | templateTooDeep
deriving DecidableEq, Repr

namespace Fault

/-- The kind of fault. -/
inductive Class where
  /-- A value of the wrong kind. -/
  | kind
  /-- A property that a value lacks. -/
  | property
  /-- A value of the right kind that is out of range. -/
  | range
  /-- Something with too many others inside each other. -/
  | depth
  /-- Loops that cannot be carried out inside each other. -/
  | nesting
  /-- Blocks that cannot be written inside each other. -/
  | indentation
deriving DecidableEq, Repr

/-- The kind of a fault. -/
def cls : Fault → Class
  | .noAttribute .. => .property
  | .pairLength .. | .tooManyDigits _ | .tooManyDigitsToWrite | .badHost _ | .notLevel _ => .range
  | .nestedTooDeep _ | .copiedTooDeep | .templateTooDeep => .depth
  | .loopsTooDeep => .nesting
  | .blocksTooDeep => .indentation
  | _ => .kind

/-- The text of a fault. -/
def message : Fault → String
  | .noAttribute kind property =>
    "'" ++ kind ++ "' object has no attribute '" ++ property ++ "'"
  | .notIterable kind => "'" ++ kind ++ "' object is not iterable"
  | .unhashable kind => "unhashable type: '" ++ kind ++ "'"
  | .notPath kind => "expected str, bytes or os.PathLike object, not " ++ kind
  | .notBeginning kind => "startswith first arg must be str or a tuple of str, not " ++ kind
  | .unordered left right =>
    "'<' not supported between instances of '" ++ left ++ "' and '" ++ right ++ "'"
  | .notPair index =>
    "cannot convert dictionary update sequence element #" ++ toString index ++ " to a sequence"
  | .pairLength index length =>
    "dictionary update sequence element #" ++ toString index ++ " has length " ++ toString length
      ++ "; 2 is required"
  | .tooManyDigits count =>
    "Exceeds the limit (4300 digits) for integer string conversion: value has " ++ toString count
      ++ " digits; use sys.set_int_max_str_digits() to increase the limit"
  | .tooManyDigitsToWrite =>
    "Exceeds the limit (4300 digits) for integer string conversion; "
      ++ "use sys.set_int_max_str_digits() to increase the limit"
  | .nestedTooDeep kind =>
    "maximum recursion depth exceeded while decoding a JSON " ++ kind ++ " from a unicode string"
  | .badHost host => "Invalid host: " ++ host
  | .notLevel name => "Unknown level: " ++ Text.quotedText name
  | .levelKind shown => "Level not an integer or a valid string: " ++ shown
  | .noSetting name => "got an unexpected keyword argument " ++ Text.quotedText name
  | .takenName name => "got multiple values for argument " ++ Text.quotedText name
  | .notText kind => "expected string or bytes-like object, got '" ++ kind ++ "'"
  | .notCallable kind => "'" ++ kind ++ "' object is not callable"
  | .copiedTooDeep => "maximum recursion depth exceeded"
  | .loopsTooDeep => "too many statically nested blocks"
  | .blocksTooDeep => "too many levels of indentation"
  | .templateTooDeep => "maximum recursion depth exceeded"

end Fault

namespace Value

/-- The value as a text; `property` is what is needed of it, which only texts have. -/
def toText (property : String) : Value → Except Fault String
  | .text s => .ok s
  | v => .error (.noAttribute v.kind property)

/-- The value as a text, for a use that takes nothing else. -/
def toPlainText : Value → Except Fault String
  | .text s => .ok s
  | v => .error (.notText v.kind)

/-- The scalar as a key. -/
def toKey (v : Value) : Except Fault Key :=
  match v.toKey? with
  | some k => .ok k
  | none => .error (.unhashable v.kind)

/-- The elements of a value: the items of a list, the letters of a text, the keys of an
object. -/
def elements : Value → Except Fault (List Value)
  | .list items => .ok items
  | .text s => .ok ((Text.letters s.toList).map fun l => .text (String.ofList l.written))
  | .object fields => .ok (fields.map fun f => f.1.toValue)
  | v => .error (.notIterable v.kind)

/-- One element of a list of fields as a key and a value. -/
def toPair (index : Nat) (v : Value) : Except Fault (Key × Value) :=
  match v.elements with
  | .error _ => .error (.notPair index)
  | .ok [k, w] =>
    match k.toKey with
    | .ok key => .ok (key, w)
    | .error e => .error e
  | .ok items => .error (.pairLength index items.length)

/-- The value as an object: an object itself, or a list of keys with their values. -/
def toFields : Value → Except Fault Fields
  | .object fields => .ok fields
  | v =>
    match v.elements with
    | .error e => .error e
    | .ok items =>
      match (items.zipIdx.mapM fun (w, i) => toPair i w) with
      | .ok pairs => .ok (Fields.ofPairs pairs)
      | .error e => .error e

end Value

end EntityMapping
