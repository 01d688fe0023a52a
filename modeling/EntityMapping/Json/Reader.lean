import EntityMapping.Decimal.Notation
import EntityMapping.Text.Digit
import EntityMapping.Text.Letter
import EntityMapping.Value.Fault

/-!
# Reading documents

The reader of JSON documents, as a descent on the characters that are left.  Besides the standard
it takes `NaN`, `Infinity` and `-Infinity`; whole numbers may be of any size up to 4300 digits, and
of fields with one key the last value counts.  Lists and objects may stand inside each other only up
to a depth.  A problem points to the text that is left where it was found, from which line and
column are computed.
-/

namespace EntityMapping.Json

open Decimal Text

/-- What is wrong with a document. -/
inductive Problem where
  /-- The document starts with a byte order mark. -/
  | byteOrderMark
  /-- No value starts here. -/
  | value
  /-- A key is missing. -/
  | key
  /-- The colon after a key is missing. -/
  | colon
  /-- A comma or a closing bracket is missing. -/
  | comma
  /-- Something follows the document. -/
  | extra
  /-- A text does not end. -/
  | unterminated
  /-- A text holds a control character. -/
  | control
  /-- A backslash is followed by no known letter. -/
  | escape
  /-- Four hexadecimal digits and a further character are missing. -/
  | unicodeEscape
deriving DecidableEq, Repr

/-- The text of a problem. -/
def Problem.message : Problem → String
  | .byteOrderMark => "Unexpected UTF-8 BOM (decode using utf-8-sig)"
  | .value => "Expecting value"
  | .key => "Expecting property name enclosed in double quotes"
  | .colon => "Expecting ':' delimiter"
  | .comma => "Expecting ',' delimiter"
  | .extra => "Extra data"
  | .unterminated => "Unterminated string starting at"
  | .control => "Invalid control character at"
  | .escape => "Invalid \\escape"
  | .unicodeEscape => "Invalid \\uXXXX escape"

/-- Why a document cannot be read. -/
inductive Refusal where
  /-- A problem, with the text that is left where it was found. -/
  | malformed (problem : Problem) (rest : List Char)
  /-- A value that cannot be held. -/
  | unfit (fault : Fault)
deriving DecidableEq, Repr

/-- The result of reading a part of a document: what was read, and the text that is left. -/
abbrev Reading (α : Type) := Except Refusal (α × List Char)

/-- Whether a character may stand between the parts of a document. -/
def isSpace (c : Char) : Bool := c = ' ' || c = '\t' || c = '\n' || c = '\r'

/-- Skips what may stand between the parts. -/
def skipSpace (s : List Char) : List Char := s.dropWhile isSpace

/-- The number that four hexadecimal digits spell. -/
def hexNumber? (a b c d : Char) : Option Nat := do
  let a ← hexValue? a
  let b ← hexValue? b
  let c ← hexValue? c
  let d ← hexValue? d
  return ((a * 16 + b) * 16 + c) * 16 + d

/-- The character for the letter after a backslash. -/
def escapeChar? : Char → Option Char
  | '"' => some '"'
  | '\\' => some '\\'
  | '/' => some '/'
  | 'b' => some '\x08'
  | 'f' => some '\x0c'
  | 'n' => some '\n'
  | 'r' => some '\r'
  | 't' => some '\t'
  | _ => none

/-- Puts a code unit before the ones that were read. -/
def consUnit (n : Nat) : Reading (List Nat) → Reading (List Nat)
  | .ok (ns, rest) => .ok (n :: ns, rest)
  | .error e => .error e

/-- The code units of a text after its opening quote.  `opening` is what is left at the quote.
Something has to follow the digits of an escape. -/
def readUnits (opening : List Char) : List Char → Reading (List Nat)
  | [] => .error (.malformed .unterminated opening)
  | '"' :: r => .ok ([], r)
  | '\\' :: 'u' :: a :: b :: c :: d :: r =>
    match hexNumber? a b c d with
    | some n =>
      if r.isEmpty then .error (.malformed .unicodeEscape ('u' :: a :: b :: c :: d :: r))
      else consUnit n (readUnits opening r)
    | none => .error (.malformed .unicodeEscape ('u' :: a :: b :: c :: d :: r))
  | '\\' :: 'u' :: r => .error (.malformed .unicodeEscape ('u' :: r))
  | '\\' :: c :: r =>
    match escapeChar? c with
    | some e => consUnit e.toNat (readUnits opening r)
    | none => .error (.malformed .escape ('\\' :: c :: r))
  | ['\\'] => .error (.malformed .unterminated opening)
  | c :: r =>
    if c.toNat < 0x20 then .error (.malformed .control (c :: r))
    else consUnit c.toNat (readUnits opening r)

/-- A text after its opening quote. -/
def readText (opening s : List Char) : Reading (List Char) :=
  match readUnits opening s with
  | .ok (ns, rest) => .ok (ofLetters (Letter.ofUnits ns), rest)
  | .error e => .error e

/-- The digits at the start of a text, and what follows. -/
def spanDigits (s : List Char) : List Char × List Char :=
  (s.takeWhile Char.isDigit, s.dropWhile Char.isDigit)

/-- The digits before the point: a zero alone, or digits that do not start with one. -/
def spanWhole : List Char → List Char × List Char
  | '0' :: r => (['0'], r)
  | s => spanDigits s

/-- The digits after a point, if there is at least one. -/
def spanFraction : List Char → List Char × List Char
  | '.' :: r =>
    match spanDigits r with
    | ([], _) => ([], '.' :: r)
    | found => found
  | s => ([], s)

/-- The sign of an exponent and what follows. -/
def spanSign : List Char → Bool × List Char
  | '-' :: r => (true, r)
  | '+' :: r => (false, r)
  | s => (false, s)

/-- The exponent, if there is one with at least one digit. -/
def spanExponent (s : List Char) : Option Int × List Char :=
  match s with
  | [] => (none, s)
  | c :: r =>
    if c = 'e' ∨ c = 'E' then
      let (negative, r) := spanSign r
      match spanDigits r with
      | ([], _) => (none, s)
      | (ds, rest) =>
        (some (if negative then -(digitsNumber ds : Int) else digitsNumber ds), rest)
    else (none, s)

/-- Whether a number has a minus sign, and what follows. -/
def spanMinus : List Char → Bool × List Char
  | '-' :: r => (true, r)
  | s => (false, s)

/-- A number.  One with a fraction or an exponent is a binary64 number. -/
def readNumber (s : List Char) : Reading Value :=
  let (negative, r) := spanMinus s
  match spanWhole r with
  | ([], _) => .error (.malformed .value s)
  | (whole, r) =>
    let (fraction, r) := spanFraction r
    let (exponent, r) := spanExponent r
    if fraction.isEmpty ∧ exponent.isNone then
      if maxDigits < whole.length then .error (.unfit (.tooManyDigits whole.length))
      else
        let n : Int := digitsNumber whole
        .ok (.int (if negative then -n else n), r)
    else
      let e := exponent.getD 0 - fraction.length
      .ok (.float (.ofDecimal negative (digitsNumber (whole ++ fraction)) e), r)

/-- The words of the format with their values. -/
def words : List (String × Value) := [
  ("null", .null), ("true", .bool true), ("false", .bool false), ("NaN", .float .nan),
  ("Infinity", .float (.infinite false)), ("-Infinity", .float (.infinite true))]

/-- The word at the start of a text. -/
def readWord? (s : List Char) : Option (Value × List Char) :=
  words.findSome? fun (w, v) =>
    if w.toList.isPrefixOf s then some (v, s.drop w.length) else none

/-- The greatest depth of lists and objects inside each other. -/
def maxDepth : Nat := 989

mutual

/-- The value at the start of a text.  `fuel` bounds the depth of the descent, and `room` is how
many lists and objects may still stand inside each other. -/
def readValue (room : Nat) : Nat → List Char → Reading Value
  | 0, s => .error (.malformed .value s)
  | fuel + 1, s =>
    match s with
    | '"' :: r =>
      match readText s r with
      | .ok (cs, rest) => .ok (.text (String.ofList cs), rest)
      | .error e => .error e
    | '[' :: r =>
      match room with
      | 0 => .error (.unfit (.nestedTooDeep "array"))
      | room + 1 =>
        match skipSpace r with
        | ']' :: rest => .ok (.list [], rest)
        | r =>
          match readItems room fuel r with
          | .ok (items, rest) => .ok (.list items, rest)
          | .error e => .error e
    | '\x7b' :: r =>
      match room with
      | 0 => .error (.unfit (.nestedTooDeep "object"))
      | room + 1 =>
        match skipSpace r with
        | '\x7d' :: rest => .ok (.object [], rest)
        | r =>
          match readFields room fuel r with
          | .ok (fields, rest) => .ok (.object (Fields.ofPairs fields), rest)
          | .error e => .error e
    | _ =>
      match readWord? s with
      | some found => .ok found
      | none => readNumber s

/-- The items of a list from the first one to the closing bracket. -/
def readItems (room : Nat) : Nat → List Char → Reading (List Value)
  | 0, s => .error (.malformed .value s)
  | fuel + 1, s =>
    match readValue room fuel s with
    | .error e => .error e
    | .ok (v, rest) =>
      match skipSpace rest with
      | ']' :: r => .ok ([v], r)
      | ',' :: r =>
        match readItems room fuel (skipSpace r) with
        | .ok (vs, rest) => .ok (v :: vs, rest)
        | .error e => .error e
      | r => .error (.malformed .comma r)

/-- The fields of an object from the first key to the closing brace. -/
def readFields (room : Nat) : Nat → List Char → Reading (List (Key × Value))
  | 0, s => .error (.malformed .value s)
  | fuel + 1, s =>
    match s with
    | '"' :: r =>
      match readText s r with
      | .error e => .error e
      | .ok (cs, rest) =>
        match skipSpace rest with
        | ':' :: r =>
          match readValue room fuel (skipSpace r) with
          | .error e => .error e
          | .ok (v, rest) =>
            let field := (Key.text (String.ofList cs), v)
            match skipSpace rest with
            | '\x7d' :: r => .ok ([field], r)
            | ',' :: r =>
              match readFields room fuel (skipSpace r) with
              | .ok (fields, rest) => .ok (field :: fields, rest)
              | .error e => .error e
            | r => .error (.malformed .comma r)
        | r => .error (.malformed .colon r)
    | _ => .error (.malformed .key s)

end

/-- The value that a document holds.  Every step of the descent but one in two takes a character,
which bounds its depth. -/
def read (s : List Char) : Except Refusal Value :=
  match s with
  | '\ufeff' :: _ => .error (.malformed .byteOrderMark s)
  | _ =>
    match readValue maxDepth (2 * s.length + 2) (skipSpace s) with
    | .error e => .error e
    | .ok (v, rest) =>
      match skipSpace rest with
      | [] => .ok v
      | r => .error (.malformed .extra r)

/-- The line, column and character number of the place that a text stops before `rest`. -/
def place (s rest : List Char) : Nat × Nat × Nat :=
  let before := s.take (s.length - rest.length)
  (before.count '\n' + 1, (before.reverse.takeWhile (· ≠ '\n')).length + 1, before.length)

/-- The text of a problem and its place. -/
def problemText (s : List Char) (problem : Problem) (rest : List Char) : String :=
  let (line, column, char) := place s rest
  problem.message ++ ": line " ++ toString line ++ " column " ++ toString column ++ " (char "
    ++ toString char ++ ")"

end EntityMapping.Json
