import EntityMapping.Template.Method
import EntityMapping.Value.Fault
import EntityMapping.Value.Printer

/-!
# Template data

What a template can name: values, lists and objects of data, records of the program with their
fields, members of its enumerations, turns of loops, types, and tools of the program such as
methods.
-/

namespace EntityMapping.Template

open Text

/-- An enumeration that is declared in a module, with its members and their keywords. -/
structure Enumeration where
  /-- The module. -/
  home : String
  /-- The name of the enumeration. -/
  name : String
  /-- The names of the members with their keywords. -/
  members : List (String × String)
deriving Inhabited

/-- Something that a template can name. -/
inductive Datum where
  /-- A value. -/
  | value (v : Value)
  /-- A list. -/
  | list (items : List Datum)
  /-- An object. -/
  | object (fields : List (String × Datum))
  /-- A record of a type that is declared in a module, with the names of its methods.  What was
  attached to the record later is no field and is not shown with it. -/
  | record (home type : String) (methods : List String) (fields attached : List (String × Datum))
  /-- A member of an enumeration. -/
  | member (e : Enumeration) (name keyword : String)
  /-- The turn of a loop with a number, counted from zero, of a number of turns, and what comes
  before and after the element of the turn. -/
  | turn (index count : Nat) (before after : Option Datum)
  /-- A type that is declared in a module. -/
  | type (home name : String)
  /-- An enumeration itself. -/
  | enumeration (e : Enumeration)
  /-- A tool, of which a template can do no more than show it. -/
  | tool (home kind shown : String)
deriving Inhabited

/-- The variables of a template. -/
abbrev Context := List (String × Datum)

/-- The module of the types that are always there. -/
def builtinHome : String := "builtins"

/-- The module of the types that belong to rendering. -/
def renderingHome : String := "jinja2.runtime"

namespace Datum

/-- A text. -/
def text (s : String) : Datum := .value (.text s)

/-- A whole number. -/
def nat (n : Nat) : Datum := .value (.int n)

/-- A truth value. -/
def truth (b : Bool) : Datum := .value (.bool b)

/-- Whether a datum counts as true. -/
def truthy : Datum → Bool
  | .value v => v.truthy
  | .list items => !items.isEmpty
  | .object fields => !fields.isEmpty
  | _ => true

/-- The module and the name of the type of a datum. -/
def typeName : Datum → String × String
  | .value v => (builtinHome, v.kind)
  | .list _ => (builtinHome, "list")
  | .object _ => (builtinHome, "dict")
  | .record home name _ _ _ => (home, name)
  | .member e _ _ => (e.home, e.name)
  | .turn .. => (renderingHome, "LoopContext")
  | .type .. => (builtinHome, "type")
  | .enumeration _ => ("enum", "EnumType")
  | .tool home kind _ => (home, kind)

/-- The name of the kind of a datum. -/
def kind (d : Datum) : String := d.typeName.2

/-- The name of a type with the module it is declared in, unless it is always there. -/
def fullName (home name : String) : String :=
  if home = builtinHome then name else home ++ "." ++ name

mutual

/-- The shown form of a datum. -/
def shown : Datum → String
  | .value v => v.shown
  | .list items => "[" ++ shownItems items ++ "]"
  | .object fields => "\x7b" ++ shownFields fields ++ "\x7d"
  | .record _ name _ fields _ => name ++ "(" ++ shownParts fields ++ ")"
  | .member e name keyword =>
    "<" ++ e.name ++ "." ++ name ++ ": " ++ Text.quotedText keyword ++ ">"
  | .turn index count _ _ =>
    "<LoopContext " ++ toString (index + 1) ++ "/" ++ toString count ++ ">"
  | .type home name => "<class " ++ Text.quotedText (fullName home name) ++ ">"
  | .enumeration e => "<enum " ++ Text.quotedText e.name ++ ">"
  | .tool _ _ shown => shown

/-- The shown forms of list items with commas between them. -/
def shownItems : List Datum → String
  | [] => ""
  | [d] => d.shown
  | d :: e :: r => d.shown ++ ", " ++ shownItems (e :: r)

/-- The shown forms of the fields of an object with commas between them. -/
def shownFields : List (String × Datum) → String
  | [] => ""
  | [(k, d)] => Text.quotedText k ++ ": " ++ d.shown
  | (k, d) :: f :: r => Text.quotedText k ++ ": " ++ d.shown ++ ", " ++ shownFields (f :: r)

/-- The shown forms of the fields of a record with commas between them. -/
def shownParts : List (String × Datum) → String
  | [] => ""
  | [(k, d)] => k ++ "=" ++ d.shown
  | (k, d) :: f :: r => k ++ "=" ++ d.shown ++ ", " ++ shownParts (f :: r)

end

/-- The text of a datum. -/
def display : Datum → String
  | .value v => v.display
  | .member e memberName _ => e.name ++ "." ++ memberName
  | d => d.shown

/-- How messages name a datum that lacks a part. -/
def ownerText (d : Datum) : String :=
  match d with
  | .value .null => "None"
  | d => fullName d.typeName.1 d.typeName.2 ++ " object"

/-- The type of a datum. -/
def typeDatum (d : Datum) : Datum :=
  match d with
  | .member e _ _ => .enumeration e
  | d => .type d.typeName.1 d.typeName.2

/-- The names that the kind of a datum keeps for itself, besides those that every kind keeps. -/
def ownNames (d : Datum) : OwnNames :=
  match d with
  | .value (.object _) | .object _ => objectNames
  | .value (.list _) | .list _ => listNames
  | .value (.text _) => textNames
  | .value (.int _) | .value (.bool _) => intNames
  | .value (.float _) => floatNames
  | .value .null => nullNames
  | .record _ _ methods _ _ => { methods }
  | .turn .. => { methods := ["changed", "cycle"], operators := ["__iter__", "__len__"] }
  | _ => {}

/-- The method of a datum with a name. -/
def method (d : Datum) (name : String) : Datum :=
  match d with
  | .record .. | .turn .. =>
    .tool builtinHome "method"
      ("<bound method " ++ d.kind ++ "." ++ name ++ " of " ++ d.shown ++ ">")
  | d =>
    .tool builtinHome "builtin_function_or_method"
      ("<built-in method " ++ name ++ " of " ++ d.kind ++ " object>")

/-- The operator of a datum with a name. -/
def operator (d : Datum) (name : String) : Datum :=
  .tool builtinHome "method-wrapper"
    ("<method-wrapper " ++ Text.quotedText name ++ " of " ++ d.kind ++ " object>")

/-- What a datum has under a name that its kind keeps for itself. -/
def own? (d : Datum) (name : String) : Option Datum :=
  if name = "__class__" then some d.typeDatum
  else if name ∈ d.ownNames.methods ∨ name ∈ commonNames.methods then some (d.method name)
  else if name ∈ d.ownNames.operators ∨ name ∈ commonNames.operators then some (d.operator name)
  else if name = "__hash__" then some (.value .null)
  else none

/-- The part of a whole number with a name: it is a fraction and a complex number as well. -/
def intPart? (n : Int) (name : String) : Option Datum :=
  if name = "real" ∨ name = "numerator" then some (.value (.int n))
  else if name = "imag" then some (.value (.int 0))
  else if name = "denominator" then some (.value (.int 1))
  else none

/-- The part of a value with a name: what its kind keeps for itself under that name, or the value
under a key. -/
def valuePart? (v : Value) (name : String) : Option Datum :=
  match own? (.value v) name with
  | some d => some d
  | none =>
    match v with
    | .object fields => (Fields.at? fields name).map .value
    | .int n => intPart? n name
    | .bool b => intPart? (boolInt b) name
    | .float x =>
      if name = "real" then some (.value (.float x))
      else if name = "imag" then some (.value (.float (.ofDecimal false 0 0)))
      else none
    | _ => none

/-- The part of a record with a name: a field, something attached, or what its type has. -/
def recordPart? (home typeName : String) (methods : List String)
    (fields attached : List (String × Datum)) (name : String) : Option Datum :=
  match (fields ++ attached).lookup name with
  | some d => some d
  | none =>
    if name = "__dict__" then some (.object (fields ++ attached))
    else if name = "__module__" then some (text home)
    else own? (.record home typeName methods fields attached) name

/-- The member of an enumeration with a name. -/
def memberNamed? (e : Enumeration) (name : String) : Option Datum :=
  (e.members.lookup name).map (.member e name)

/-- The part of a member of an enumeration with a name; the other members are parts of it too. -/
def memberPart? (e : Enumeration) (memberName keyword name : String) : Option Datum :=
  if name = "value" ∨ name = "_value_" then some (text keyword)
  else if name = "name" ∨ name = "_name_" then some (text memberName)
  else if name = "__module__" then some (text e.home)
  else memberNamed? e name <|> own? (.member e memberName keyword) name

/-- The part of a turn that is the element before it. -/
def turnBefore : String := "previtem"

/-- The part of a turn that is the element after it. -/
def turnAfter : String := "nextitem"

/-- The part of a turn with a name.  Its number is counted from one and from zero, from either
end. -/
def turnPart? (index count : Nat) (before after : Option Datum) (name : String) : Option Datum :=
  if name = "index" then some (nat (index + 1))
  else if name = "index0" then some (nat index)
  else if name = "revindex" then some (nat (count - index))
  else if name = "revindex0" then some (nat (count - index - 1))
  else if name = "first" then some (truth (index = 0))
  else if name = "last" then some (truth (index + 1 = count))
  else if name = "length" then some (nat count)
  else if name = "depth" then some (nat 1)
  else if name = "depth0" then some (nat 0)
  else if name = turnBefore then before
  else if name = turnAfter then after
  else own? (.turn index count before after) name

/-- The part of a type with a name. -/
def typePart? (d : Datum) (home typeName name : String) : Option Datum :=
  if name = "__name__" ∨ name = "__qualname__" then some (text typeName)
  else if name = "__module__" then some (text home)
  else if name = "__class__" then some d.typeDatum
  else none

/-- The part of a datum with a name. -/
def part? (d : Datum) (name : String) : Option Datum :=
  match d with
  | .value v => valuePart? v name
  | .list _ => d.own? name
  | .object fields => d.own? name <|> fields.lookup name
  | .record home typeName methods fields attached =>
    recordPart? home typeName methods fields attached name
  | .member e memberName keyword => memberPart? e memberName keyword name
  | .turn index count before after => turnPart? index count before after name
  | .type home typeName => d.typePart? home typeName name
  | .enumeration e => memberNamed? e name <|> d.typePart? e.home e.name name
  | .tool .. => d.own? name

/-- The element of a datum at a place: an item of a list, a letter of a text, or the value under a
number as the key. -/
def element? (d : Datum) (place : Nat) : Option Datum :=
  match d with
  | .list items => items[place]?
  | .value (.list items) => items[place]?.map .value
  | .value (.text s) => (letters s.toList)[place]?.map fun l => text (String.ofList l.written)
  | .value (.object fields) => (Fields.get? fields (.int place)).map .value
  | _ => none

/-- The elements of a datum: the items of a list, the characters of a text, the keys of an
object. -/
def elements : Datum → Except Fault (List Datum)
  | .value v => v.elements.map (·.map .value)
  | .list items => .ok items
  | .object fields => .ok (fields.map fun f => text f.1)
  | .enumeration e => .ok (e.members.map fun (name, keyword) => .member e name keyword)
  | d => .error (.notIterable d.kind)

/-- The elements of a loop, each with its turn. -/
def turns (items : List Datum) : List (Datum × Datum) :=
  ((none :: items.map some).zip (items.zip (items.map some ++ [none]).tail)).zipIdx.map
    fun ((before, d, after), i) => (d, .turn i items.length before after)

end Datum

end EntityMapping.Template
