import EntityMapping.Template.Lexeme

/-!
# Template tokens

A template is text with insets: outputs `\x7b\x7b … \x7d\x7d`, tags `\x7b% … %\x7d` and comments
`\x7b# … #\x7d`.  A tag or comment takes the line end that follows it, and the blanks before it if
nothing else stands before it on its line; an output takes nothing.  A minus sign inside a delimiter
makes it take all blanks on its side, a plus sign none.  An inset that does not end goes to the end
of the template; only a comment with nothing in it may do so.
-/

namespace EntityMapping.Template

open Text

/-- A piece of a template. -/
inductive Token where
  /-- Text that is kept as it is. -/
  | text (s : List Char)
  /-- The inside of an output. -/
  | output (inside : List Lexeme)
  /-- The inside of a tag. -/
  | tag (inside : List Lexeme)
  /-- Something that is no token. -/
  | flaw (f : Flaw)
deriving DecidableEq, Repr

/-- What a delimiter takes of the text beside it. -/
inductive Margin where
  /-- Nothing. -/
  | none
  /-- What makes its line an empty one: blanks before it, or the line end after it. -/
  | line
  /-- All blanks. -/
  | all
deriving DecidableEq, Repr

/-- A piece of a template with nothing taken away. -/
inductive Piece where
  /-- Text. -/
  | text (s : List Char)
  /-- An inset with its inside, the position at which that starts, and whether the inset ends. -/
  | inset (kind : Inset) (start : Nat) (inner : List Char) (closed : Bool)
deriving DecidableEq, Repr

/-- The piece of a text that is given backwards; empty text is none. -/
def textPiece (backwards : List Char) : List Piece :=
  if backwards = [] then [] else [.text backwards.reverse]

/-- The pieces of a template from a position on.  The first argument is the inset that is being
read, if any, with the position at which its inside starts, and `acc` is what was read of the
current piece, backwards. -/
def piecesFrom : Option (Inset × Nat) → Nat → List Char → List Char → List Piece
  | none, _, acc, [] => textPiece acc
  | some (kind, start), _, acc, [] => [.inset kind start acc.reverse false]
  | none, n, acc, '\x7b' :: '\x7b' :: r =>
    textPiece acc ++ piecesFrom (some (.output, n + 2)) (n + 2) [] r
  | none, n, acc, '\x7b' :: '%' :: r =>
    textPiece acc ++ piecesFrom (some (.tag, n + 2)) (n + 2) [] r
  | none, n, acc, '\x7b' :: '#' :: r =>
    textPiece acc ++ piecesFrom (some (.comment, n + 2)) (n + 2) [] r
  | some (.output, start), n, acc, '\x7d' :: '\x7d' :: r =>
    .inset .output start acc.reverse true :: piecesFrom none (n + 2) [] r
  | some (.tag, start), n, acc, '%' :: '\x7d' :: r =>
    .inset .tag start acc.reverse true :: piecesFrom none (n + 2) [] r
  | some (.comment, start), n, acc, '#' :: '\x7d' :: r =>
    .inset .comment start acc.reverse true :: piecesFrom none (n + 2) [] r
  | place, n, acc, c :: r => piecesFrom place (n + 1) (c :: acc) r

namespace Inset

/-- What the delimiters of an inset take if no sign says otherwise. -/
def margin : Inset → Margin
  | .output => .none
  | .tag | .comment => .line

/-- What the opening delimiter takes, and the inside without its sign. -/
def opening (kind : Inset) : List Char → Margin × List Char
  | '-' :: r => (.all, r)
  | '+' :: r => (.none, r)
  | s => (kind.margin, s)

/-- What the closing delimiter takes, and the inside without its sign; the inside is given and comes
back backwards.  A plus sign at the end of an output belongs to its inside. -/
def closing (kind : Inset) : List Char → Margin × List Char
  | '-' :: r => (.all, r)
  | '+' :: r => if kind = .output then (.none, '+' :: r) else (.none, r)
  | s => (kind.margin, s)

/-- The token of an inset that ends; a comment is none. -/
def token (kind : Inset) (start : Nat) (inside : List Char) : List Token :=
  match kind with
  | .output => [.output (lexemes start inside ++ [.close .output])]
  | .tag => [.tag (lexemes start inside ++ [.close .tag])]
  | .comment => []

/-- The token of an inset that does not end; a comment with nothing in it is none. -/
def endlessToken (kind : Inset) (start : Nat) (inside : List Char) : List Token :=
  match kind with
  | .output => [.output (lexemes start inside)]
  | .tag => [.tag (lexemes start inside)]
  | .comment => if inside = [] then [] else [.flaw .endlessComment]

/-- A comment that does not end is passed by only if there is nothing in it. -/
theorem endlessToken_comment_eq_nil_iff (start : Nat) (inside : List Char) :
    Inset.comment.endlessToken start inside = [] ↔ inside = [] := by
  by_cases h : inside = [] <;> simp [endlessToken, h]

end Inset

/-- The text before a tag without the blanks that are alone on the tag's line.  `fresh` says whether
the text starts on a new line. -/
def withoutIndent (fresh : Bool) (s : List Char) : List Char :=
  let backwards := s.reverse
  let line := backwards.takeWhile (· ≠ '\n')
  let above := backwards.dropWhile (· ≠ '\n')
  if (fresh ∨ above ≠ []) ∧ line.all isBlank then above.reverse else s

namespace Margin

/-- The text after a delimiter without what that takes, and whether it starts on a new line. -/
def takeStart (fresh : Bool) : Margin → List Char → Bool × List Char
  | .none, s => (fresh, s)
  | .line, '\n' :: r => (true, r)
  | .line, s => (false, s)
  | .all, s => (false, trimStart s)

/-- The text before a delimiter without what that takes. -/
def takeEnd (fresh : Bool) : Margin → List Char → List Char
  | .none, s => s
  | .line, s => withoutIndent fresh s
  | .all, s => trimEnd s

end Margin

/-- What the delimiter that comes next takes. -/
def nextMargin : List Piece → Margin
  | .inset kind _ inner _ :: _ => (kind.opening inner).1
  | _ => .none

/-- The token of a text; empty text is none. -/
def textToken (s : List Char) : List Token := if s = [] then [] else [.text s]

/-- The tokens of pieces.  `fresh` says whether they start a template, and the margin is that of the
delimiter before them. -/
def tokensOf (fresh : Bool) (before : Margin) : List Piece → List Token
  | [] => []
  | .text s :: r =>
    let (fresh, s) := before.takeStart fresh s
    textToken ((nextMargin r).takeEnd fresh s) ++ tokensOf false .none r
  | .inset kind start inner closed :: r =>
    let inside := (kind.opening inner).2
    let start := start + (inner.length - inside.length)
    if closed then
      let (after, backwards) := kind.closing inside.reverse
      kind.token start backwards.reverse ++ tokensOf false after r
    else kind.endlessToken start inside ++ tokensOf false .none r

/-- The tokens of a template whose line ends are unified. -/
def tokens (s : List Char) : List Token := tokensOf true .none (piecesFrom none 0 [] s)

end EntityMapping.Template
