import EntityMapping.Template.Lexeme

/-!
# Expressions of templates

What an output shows and what a tag asks for: a constant or variable, parts of it, filters applied
to that, and negations of it all.
-/

namespace EntityMapping.Template

/-- What an expression starts from. -/
inductive Root where
  /-- A truth value. -/
  | truth (b : Bool)
  /-- The null value. -/
  | null
  /-- A whole number. -/
  | number (n : Nat)
  /-- A variable. -/
  | name (s : String)
deriving DecidableEq, Repr

/-- How an expression tells a part of something. -/
inductive Step where
  /-- By the name of the part. -/
  | name (s : String)
  /-- By its place, counted from zero. -/
  | place (n : Nat)
deriving DecidableEq, Repr

/-- What an output shows or a tag asks for. -/
structure Expr where
  /-- What it starts from. -/
  root : Root
  /-- The parts, from the outside in. -/
  steps : List Step := []
  /-- The filters in the order in which they are applied. -/
  filters : List String := []
  /-- How often the outcome is negated. -/
  negations : Nat := 0
deriving DecidableEq, Repr

/-- What a word stands for: some words are constants and name no variable. -/
def Root.ofWord (word : String) : Root :=
  if word = "true" ∨ word = "True" then .truth true
  else if word = "false" ∨ word = "False" then .truth false
  else if word = "none" ∨ word = "None" then .null
  else .name word

/-- The expression that is a variable. -/
def Expr.ofName (s : String) : Expr := { root := .name s }

/-- An expression and the lexemes behind it, or why there is none. -/
abbrev ExprReading := Except Flaw (Expr × List Lexeme)

/-- The signs that join two operands, which no expression does here. -/
def joiningSigns : List Char := "+-/*%~<>".toList

/-- The signs that an operand may start with. -/
def operandSigns : List Char := "+-([\x7b".toList

/-- What is wrong with lexemes in the place of an operand, if none can start with them. -/
def operandFlaw? : List Lexeme → Option Flaw
  | .word _ :: _ | .number _ :: _ => none
  | .sign c :: r => if c ∈ operandSigns then none else some (unexpectedAt (.sign c :: r))
  | ls => some (unexpectedAt ls)

/-- The end of an expression.  A sign that joins operands does not belong to it, but what is wrong
with the second operand is told before that. -/
def exprEnd (e : Expr) : List Lexeme → ExprReading
  | .sign c :: r =>
    match operandFlaw? r with
    | some f => if c ∈ joiningSigns then .error f else .ok (e, .sign c :: r)
    | none => .ok (e, .sign c :: r)
  | ls => .ok (e, ls)

/-- The expression that starts with what was read of it, and filters that follow.  The name of a
filter may have points in it. -/
def filtersFrom (e : Expr) : List Lexeme → ExprReading
  | .sign '|' :: .word s :: r => filtersFrom { e with filters := e.filters ++ [s] } r
  | .sign '.' :: .word s :: r =>
    let name := e.filters.getLastD "" ++ "." ++ s
    filtersFrom { e with filters := e.filters.dropLast ++ [name] } r
  | .sign '|' :: r | .sign '.' :: r => .error (misplacedAt "name" r)
  | ls => exprEnd e ls

/-- The expression that starts with what was read of it, and parts and filters that follow. -/
def stepsFrom (e : Expr) : List Lexeme → ExprReading
  | .sign '.' :: .word s :: r => stepsFrom { e with steps := e.steps ++ [.name s] } r
  | .sign '.' :: .number n :: r => stepsFrom { e with steps := e.steps ++ [.place n] } r
  | .sign '.' :: .flaw f :: _ => .error f
  | .sign '.' :: r => .error (flawBefore .noPart r.tail)
  | ls => filtersFrom e ls

/-- The expression that is negated as often as given, and further negations. -/
def negationsFrom (negations : Nat) : List Lexeme → ExprReading
  | .word s :: r =>
    if s = "not" then negationsFrom (negations + 1) r
    else stepsFrom { root := .ofWord s, negations } r
  | .number n :: r => stepsFrom { root := .number n, negations } r
  | ls => .error (unexpectedAt ls)

/-- The expression that lexemes start with. -/
def exprFrom : List Lexeme → ExprReading
  | .close kind :: _ => .error (.noExpression kind.endLabel)
  | ls => negationsFrom 0 ls

end EntityMapping.Template
