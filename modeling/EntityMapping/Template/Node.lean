import EntityMapping.Template.Expr

/-!
# Template trees

A template as a tree: text, outputs, branches on whether something counts as true, and loops over
the elements of something.  Inside a loop one word stands for its current turn.
-/

namespace EntityMapping.Template

/-- The word for the current turn of a loop. -/
def turnWord : String := "loop"

/-- A part of a template. -/
inductive Node where
  /-- Text that is kept as it is. -/
  | text (s : String)
  /-- An output. -/
  | output (e : Expr)
  /-- A branch: the first nodes if the test counts as true, and the second ones if not. -/
  | branch (test : Expr) (yes no : List Node)
  /-- A loop: the body once for each element, which a variable names, and the last nodes if there is
  no element. -/
  | loop (variableName : String) (source : Expr) (body otherwise : List Node)
deriving Repr

mutual

/-- How many branches and loops stand inside each other in a node. -/
def Node.depth : Node → Nat
  | .text _ | .output _ => 0
  | .branch _ yes no => max (greatestDepth yes) (greatestDepth no) + 1
  | .loop _ _ body otherwise => max (greatestDepth body) (greatestDepth otherwise) + 1

/-- How many branches and loops stand inside each other in nodes. -/
def greatestDepth : List Node → Nat
  | [] => 0
  | n :: r => max n.depth (greatestDepth r)

end

mutual

/-- How many loops stand inside each other in a node. -/
def Node.loopDepth : Node → Nat
  | .text _ | .output _ => 0
  | .branch _ yes no => max (greatestLoopDepth yes) (greatestLoopDepth no)
  | .loop _ _ body otherwise => max (greatestLoopDepth body + 1) (greatestLoopDepth otherwise)

/-- How many loops stand inside each other in nodes. -/
def greatestLoopDepth : List Node → Nat
  | [] => 0
  | n :: r => max n.loopDepth (greatestLoopDepth r)

end

mutual

/-- Whether a loop in a node names its elements by the word for its turn. -/
def Node.takesTurnWord : Node → Bool
  | .text _ | .output _ => false
  | .branch _ yes no => takeTurnWord yes || takeTurnWord no
  | .loop x _ body otherwise => x = turnWord || takeTurnWord body || takeTurnWord otherwise

/-- Whether a loop in nodes names its elements by the word for its turn. -/
def takeTurnWord : List Node → Bool
  | [] => false
  | n :: r => n.takesTurnWord || takeTurnWord r

end

end EntityMapping.Template
