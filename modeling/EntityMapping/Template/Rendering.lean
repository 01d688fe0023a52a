import EntityMapping.CSharp.Literal
import EntityMapping.Failure
import EntityMapping.Naming
import EntityMapping.Template.Datum
import EntityMapping.Template.Node

/-!
# Rendering

The text of a template tree for given variables.  Nothing is taken for granted: a variable or part
that does not exist is an error, never empty text.  Unknown filters are found before anything is
rendered, except directly inside a branch, where they matter only when they are used; there an
unknown filter that comes first hides that what it should be applied to does not exist.  A loop that
names its elements by the word for its turn is found in the same way.  Branches and loops may stand
inside each other only up to a depth.
-/

namespace EntityMapping.Template

/-- The filters. -/
inductive Filter where
  /-- The storage name of an identifier. -/
  | storageName
  /-- The text literal of a value. -/
  | literal
deriving DecidableEq, Repr

namespace Filter

/-- The name of a filter in templates. -/
def name : Filter → String
  | .storageName => "storage_name"
  | .literal => "csharp_string"

/-- What a filter makes of a datum. -/
def apply (f : Filter) (d : Datum) : Except Fault Datum :=
  match f, d with
  | .storageName, .value v => (storageNameOf v).map .value
  | .storageName, d => if d.truthy then .error (.noAttribute d.kind "strip") else .ok d
  | .literal, d => .ok (.text (CSharp.literal d.display))

end Filter

/-- Why rendering stops. -/
inductive RenderError where
  /-- The template has a problem. -/
  | problem (p : TemplateProblem)
  /-- A value is unfit for its use. -/
  | fault (e : Fault)
deriving DecidableEq, Repr

/-- The filter with a name among the known ones. -/
def filterNamed? (known : List Filter) (name : String) : Option Filter :=
  known.find? (·.name = name)

/-- The problem of an expression that is found before rendering: its last filter that is not
known. -/
def Expr.problem? (known : List Filter) (e : Expr) : Option TemplateProblem :=
  (e.filters.reverse.find? fun name => (filterNamed? known name).isNone).map .noFilter

mutual

/-- The first problem of a node that is found before rendering; `soft` says whether the node stands
directly inside a branch. -/
def Node.problem? (known : List Filter) (soft : Bool) : Node → Option TemplateProblem
  | .text _ => none
  | .output e => if soft then none else e.problem? known
  | .branch _ yes no => firstProblem? known true yes <|> firstProblem? known true no
  | .loop x source body otherwise =>
    if x = turnWord ∨ takeTurnWord body ∨ takeTurnWord otherwise then some .turnWordTaken
    else
      (if soft then none else source.problem? known) <|> firstProblem? known false body <|>
        firstProblem? known false otherwise

/-- The first problem of nodes that is found before rendering. -/
def firstProblem? (known : List Filter) (soft : Bool) : List Node → Option TemplateProblem
  | [] => none
  | n :: r => n.problem? known soft <|> firstProblem? known soft r

end

/-- The datum that an expression starts from. -/
def Context.find (ctx : Context) : Root → Except RenderError Datum
  | .truth b => .ok (.truth b)
  | .null => .ok (.value .null)
  | .number n => .ok (.nat n)
  | .name s =>
    match ctx.lookup s with
    | some d => .ok d
    | none => .error (.problem (.undefinedName s))

/-- What is wrong where a datum has no part with a name. -/
def Datum.lack (d : Datum) (name : String) : TemplateProblem :=
  match d with
  | .turn .. =>
    if name = Datum.turnBefore then .noItemBefore
    else if name = Datum.turnAfter then .noItemAfter
    else .noPart d.ownerText name
  | _ => .noPart d.ownerText name

/-- The part of a datum that a step tells. -/
def Datum.part (d : Datum) : Step → Except RenderError Datum
  | .name s =>
    match d.part? s with
    | some e => .ok e
    | none => .error (.problem (d.lack s))
  | .place n =>
    match d.element? n with
    | some e => .ok e
    | none => .error (.problem (.noElement d.ownerText n))

/-- Applies the filter with a name. -/
def applyFilter (known : List Filter) (d : Datum) (name : String) : Except RenderError Datum :=
  match filterNamed? known name with
  | some f => (f.apply d).mapError .fault
  | none => .error (.problem (.noFilterFound name))

/-- What an expression tells before its filters.  That the last part on the way does not exist is
told only to those who use it. -/
def Expr.named (ctx : Context) (e : Expr) :
    Except RenderError (Except RenderError Datum) :=
  match e.steps.getLast? with
  | none => .ok (Context.find ctx e.root)
  | some last => do
    let d ← Context.find ctx e.root
    let d ← e.steps.dropLast.foldlM Datum.part d
    return d.part last

/-- The datum that an expression gives before its negations. -/
def Expr.operand (known : List Filter) (ctx : Context) (e : Expr) : Except RenderError Datum := do
  let named ← e.named ctx
  match e.filters with
  | [] => named
  | name :: _ =>
    if (filterNamed? known name).isNone then throw (.problem (.noFilterFound name))
    e.filters.foldlM (applyFilter known) (← named)

/-- What negations make of a datum: a truth value, unless there are none. -/
def Datum.negated (d : Datum) : Nat → Datum
  | 0 => d
  | n + 1 => .truth !(d.negated n).truthy

/-- The datum that an expression gives. -/
def Expr.eval (known : List Filter) (ctx : Context) (e : Expr) : Except RenderError Datum :=
  (e.operand known ctx).map (·.negated e.negations)

/-- Renders something for each element with its turn and puts the texts one after another. -/
def concatOver (render : Datum → Datum → Except RenderError String) :
    List (Datum × Datum) → Except RenderError String
  | [] => .ok ""
  | (d, turn) :: r =>
    match render d turn with
    | .error e => .error e
    | .ok s =>
      match concatOver render r with
      | .error e => .error e
      | .ok t => .ok (s ++ t)

mutual

/-- The text of a node. -/
def Node.render (known : List Filter) (ctx : Context) : Node → Except RenderError String
  | .text s => .ok s
  | .output e =>
    match e.eval known ctx with
    | .ok d => .ok d.display
    | .error e => .error e
  | .branch test yes no =>
    match test.eval known ctx with
    | .ok d => if d.truthy then renderAll known ctx yes else renderAll known ctx no
    | .error e => .error e
  | .loop x source body otherwise =>
    match source.eval known ctx with
    | .error e => .error e
    | .ok d =>
      match d.elements with
      | .error e => .error (.fault e)
      | .ok [] => renderAll known ctx otherwise
      | .ok items =>
        concatOver (fun d turn => renderAll known ((x, d) :: (turnWord, turn) :: ctx) body)
          (Datum.turns items)

/-- The text of nodes. -/
def renderAll (known : List Filter) (ctx : Context) : List Node → Except RenderError String
  | [] => .ok ""
  | n :: r =>
    match n.render known ctx with
    | .error e => .error e
    | .ok s =>
      match renderAll known ctx r with
      | .error e => .error e
      | .ok t => .ok (s ++ t)

end

/-- The name that a template has for itself, and that no variable may have. -/
def ownName : String := "self"

/-- What a template can name besides its variables: some types and tools, and itself. -/
def standing (template : String) : Context := [
  ("range", .type builtinHome "range"), ("dict", .type builtinHome "dict"),
  ("cycler", .type "jinja2.utils" "Cycler"), ("joiner", .type "jinja2.utils" "Joiner"),
  ("namespace", .type "jinja2.utils" "Namespace"),
  ("lipsum", .tool builtinHome "function" "<function generate_lorem_ipsum>"),
  (ownName, .tool renderingHome "TemplateReference"
    ("<TemplateReference " ++ Text.quotedText template ++ ">"))]

/-- The greatest number of loops inside each other. -/
def maxLoops : Nat := 20

/-- The greatest number of branches and loops inside each other. -/
def maxBlocks : Nat := 98

/-- The number of branches and loops inside each other from which on the template is given up at
once. -/
def tooManyBlocks : Nat := 242

/-- Why nodes stand too deep inside each other, if they do. -/
def depthFault? (ns : List Node) : Option Fault :=
  if maxBlocks < greatestDepth ns then some .blocksTooDeep
  else if maxLoops < greatestLoopDepth ns then some .loopsTooDeep
  else none

/-- What keeps a template from being rendered, whatever the variables are. -/
def obstacle? (known : List Filter) (ns : List Node) : Option RenderError :=
  if tooManyBlocks ≤ greatestDepth ns then some (.fault .templateTooDeep)
  else
    match firstProblem? known false ns with
    | some p => some (.problem p)
    | none => (depthFault? ns).map .fault

/-- The text of a template under a name, unless something is wrong with it beforehand or a variable
has the name that the template has for itself. -/
def renderTemplate (known : List Filter) (template : String) (ctx : Context) (ns : List Node) :
    Except RenderError String :=
  match obstacle? known ns with
  | some e => .error e
  | none =>
    if (ctx.lookup ownName).isSome then .error (.fault (.takenName ownName))
    else renderAll known (ctx ++ standing template) ns

end EntityMapping.Template
