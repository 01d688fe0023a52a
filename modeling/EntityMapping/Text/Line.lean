/-!
# Lines

Two notions of a line meet here.  Text read from a file knows one line end: `\r\n` and `\r` become
`\n` first (`unifyNewlines`).  A list of lines is then cut at any character that ends a line, of
which there are ten (`splitLines`); a line end at the very end starts no further line.
-/

namespace EntityMapping.Text

/-- The characters that end a line. -/
def isLineBreak (c : Char) : Bool :=
  c ∈ ['\n', '\x0b', '\x0c', '\r', '\x1c', '\x1d', '\x1e', '\u0085', '\u2028', '\u2029']

/-- Writes every line end as `\n`. -/
def unifyNewlines : List Char → List Char
  | [] => []
  | '\r' :: '\n' :: r => '\n' :: unifyNewlines r
  | c :: r => (if c = '\r' then '\n' else c) :: unifyNewlines r

/-- The lines of a text without their ends. -/
def splitLines : List Char → List (List Char)
  | [] => []
  | '\r' :: '\n' :: r => [] :: splitLines r
  | c :: r =>
    if isLineBreak c then [] :: splitLines r
    else
      match splitLines r with
      | [] => [[c]]
      | l :: ls => (c :: l) :: ls

/-- The lines of a text, as strings. -/
def linesOf (s : List Char) : List String := (splitLines s).map String.ofList

@[simp] theorem unifyNewlines_nil : unifyNewlines [] = [] := rfl

@[simp] theorem splitLines_nil : splitLines [] = [] := rfl

end EntityMapping.Text
