import EntityMapping.Template.Node
import EntityMapping.Template.Token

/-!
# Reading templates

The tree of a template, read token by token.  A tag that opens a branch or a loop waits for the tags
that continue and end it, and only those of the innermost open tag may come next.
-/

namespace EntityMapping.Template

open Text

/-- A tag that waits for its end, with the nodes that were read before it, backwards. -/
inductive Frame where
  /-- A branch: its finished parts with their tests, backwards, and the test of the part that is
  being read; the last part has none. -/
  | branch (parts : List (Expr × List Node)) (test : Option Expr) (before : List Node)
  /-- A loop: its body, if that is finished. -/
  | loop (variableName : String) (source : Expr) (body : Option (List Node)) (before : List Node)

/-- What messages say about an open tag. -/
def Frame.opened : Frame → OpenTag
  | .branch _ (some _) _ => ⟨"if", ["elif", "else", "endif"]⟩
  | .branch _ none _ => ⟨"if", ["endif"]⟩
  | .loop _ _ none _ => ⟨"for", ["endfor", "else"]⟩
  | .loop _ _ (some _) _ => ⟨"for", ["endfor"]⟩

/-- The nodes of a branch with the given parts, backwards, and the nodes for the case that no test
counts as true: a further part is a branch inside the case that the tests before it do not. -/
def branchOf (parts : List (Expr × List Node)) (otherwise : List Node) : List Node :=
  parts.foldl (fun no (test, yes) => [.branch test yes no]) otherwise

/-- The state of the reader: the open tags, innermost first, and the nodes that were read inside
the innermost one, backwards. -/
structure Reader where
  /-- The open tags. -/
  frames : List Frame := []
  /-- What was read in the innermost of them, backwards. -/
  acc : List Node := []

/-- Makes sure that an inset ends with lexemes. -/
def endsWith (kind : Inset) : List Lexeme → Except Flaw Unit
  | .close _ :: _ => .ok ()
  | ls => .error (misplacedAt kind.endLabel ls)

/-- Makes sure that a tag behind which nodes are read ends with lexemes; a colon may stand there. -/
def opensWith : List Lexeme → Except Flaw Unit
  | .sign ':' :: r => endsWith .tag r
  | ls => endsWith .tag ls

/-- What a loop names its elements by, and the lexemes behind it. -/
def elementName : List Lexeme → Except Flaw (String × List Lexeme)
  | .close kind :: _ => .error (.noExpression kind.endLabel)
  | .word s :: r =>
    if s = "in" then .error (.noExpression s)
    else
      match Root.ofWord s with
      | .name x => .ok (x, r)
      | _ => .error (flawBefore .constantAsName r)
  | .number _ :: r => .error (flawBefore .constantAsName r)
  | ls => .error (unexpectedAt ls)

/-- The loop that a tag opens after nodes, by the lexemes behind its word. -/
def loopFrame (before : List Node) (ls : List Lexeme) : Except Flaw Frame := do
  match ← elementName ls with
  | (x, .word "in" :: r) =>
    let (source, r) ← exprFrom r
    opensWith r
    return .loop x source none before
  | (_, r) => throw (misplacedAt "in" r)

/-- The branch that a tag opens or continues, by the lexemes behind its word. -/
def branchFrame (parts : List (Expr × List Node)) (before : List Node) (ls : List Lexeme) :
    Except Flaw Frame := do
  let (test, r) ← exprFrom ls
  opensWith r
  return .branch parts (some test) before

/-- The state after a tag with the given inside. -/
def Reader.tag (st : Reader) (inside : List Lexeme) : Except Flaw Reader :=
  match inside, st.frames with
  | .word "if" :: r, frames => do return { frames := (← branchFrame [] st.acc r) :: frames }
  | .word "for" :: r, frames => do return { frames := (← loopFrame st.acc r) :: frames }
  | .word "elif" :: r, .branch parts (some test) before :: frames => do
    let parts := (test, st.acc.reverse) :: parts
    return { frames := (← branchFrame parts before r) :: frames }
  | .word "else" :: r, .branch parts (some test) before :: frames => do
    opensWith r
    return { frames := .branch ((test, st.acc.reverse) :: parts) none before :: frames }
  | .word "else" :: r, .loop x source none before :: frames => do
    opensWith r
    return { frames := .loop x source (some st.acc.reverse) before :: frames }
  | .word "endif" :: r, .branch parts (some test) before :: frames => do
    endsWith .tag r
    return { frames, acc := branchOf ((test, st.acc.reverse) :: parts) [] ++ before }
  | .word "endif" :: r, .branch parts none before :: frames => do
    endsWith .tag r
    return { frames, acc := branchOf parts st.acc.reverse ++ before }
  | .word "endfor" :: r, .loop x source none before :: frames => do
    endsWith .tag r
    return { frames, acc := .loop x source st.acc.reverse [] :: before }
  | .word "endfor" :: r, .loop x source (some body) before :: frames => do
    endsWith .tag r
    return { frames, acc := .loop x source body st.acc.reverse :: before }
  | .word s :: _, frames => .error (.misfit s (frames.map Frame.opened))
  | ls, _ => .error (flawBefore .wordlessTag ls)

/-- The state after a token. -/
def Reader.step (st : Reader) : Token → Except Flaw Reader
  | .text s => .ok { st with acc := .text (String.ofList (ofChars s)) :: st.acc }
  | .output inside => do
    let (e, r) ← exprFrom inside
    endsWith .output r
    return { st with acc := .output e :: st.acc }
  | .tag inside => st.tag inside
  | .flaw f => .error f

/-- The tree of a template whose line ends are unified. -/
def nodes (s : List Char) : Except Flaw (List Node) := do
  let st ← (tokens s).foldlM Reader.step {}
  match st.frames with
  | [] => return st.acc.reverse
  | frames => throw (.unclosed (frames.map Frame.opened))

end EntityMapping.Template
