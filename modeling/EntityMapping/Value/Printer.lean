import EntityMapping.Decimal.Notation
import EntityMapping.Text.Quoted
import EntityMapping.Value.Basic

/-!
# The text of a value

`Value.display` is what a value contributes to generated text and to messages.  A text contributes
itself; inside lists and objects, and wherever a message shows a value, texts are quoted
(`Value.shown`).
-/

namespace EntityMapping

open Decimal Text

/-- The text of a truth value. -/
def boolText (b : Bool) : String := if b then "True" else "False"

/-- The shown form of a key. -/
def Key.shown : Key → String
  | .null => "None"
  | .bool b => boolText b
  | .int n => intText n
  | .float x => x.text plainFormat
  | .text s => quotedText s

namespace Value

mutual

/-- The shown form of a value. -/
def shown : Value → String
  | .null => "None"
  | .bool b => boolText b
  | .int n => intText n
  | .float x => x.text plainFormat
  | .text s => quotedText s
  | .list items => "[" ++ shownItems items ++ "]"
  | .object fields => "\x7b" ++ shownFields fields ++ "\x7d"

/-- The shown forms of list items with commas between them. -/
def shownItems : List Value → String
  | [] => ""
  | [v] => v.shown
  | v :: w :: r => v.shown ++ ", " ++ shownItems (w :: r)

/-- The shown forms of fields with commas between them. -/
def shownFields : List (Key × Value) → String
  | [] => ""
  | [(k, v)] => k.shown ++ ": " ++ v.shown
  | (k, v) :: f :: r => k.shown ++ ": " ++ v.shown ++ ", " ++ shownFields (f :: r)

end

/-- The text of a value. -/
def display : Value → String
  | .text s => s
  | v => v.shown

@[simp] theorem display_text (s : String) : (Value.text s).display = s := rfl

end Value

end EntityMapping
