import EntityMapping.Text.CharRun

/-!
# Blank characters and trimming

The blank characters are the Unicode white space together with the four separators
U+001C to U+001F.  Trimming removes them from the ends of a text and keeps the rest.
-/

namespace EntityMapping.Text

/-- The blank characters. -/
def blankRuns : List CharRun := [
  ⟨9, 13, 1⟩, ⟨28, 32, 1⟩, ⟨133, 133, 1⟩, ⟨160, 160, 1⟩, ⟨5760, 5760, 1⟩, ⟨8192, 8202, 1⟩,
  ⟨8232, 8233, 1⟩, ⟨8239, 8239, 1⟩, ⟨8287, 8287, 1⟩, ⟨12288, 12288, 1⟩]

/-- Whether a character counts as blank when a text is trimmed. -/
def isBlank (c : Char) : Bool := inRuns blankRuns c

/-- Removes the blank characters at the start. -/
def trimStart (s : List Char) : List Char := s.dropWhile isBlank

/-- Removes the blank characters at the end. -/
def trimEnd (s : List Char) : List Char := (s.reverse.dropWhile isBlank).reverse

/-- Removes the blank characters at both ends. -/
def trim (s : List Char) : List Char := trimEnd (trimStart s)

/-- The text without the blank characters at its ends. -/
def trimmed (s : String) : String := String.ofList (trim s.toList)

/-- Whether a text has no character but blank ones. -/
def isBlankText (s : String) : Bool := s.toList.all isBlank

@[simp] theorem trimStart_nil : trimStart [] = [] := rfl

@[simp] theorem trimEnd_nil : trimEnd [] = [] := rfl

@[simp] theorem trim_nil : trim [] = [] := rfl

end EntityMapping.Text
