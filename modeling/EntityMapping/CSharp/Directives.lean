import EntityMapping.CSharp.Literal
import EntityMapping.Directive
import EntityMapping.Failure

/-!
# Directives as calls

A directive as a call that is appended to the statement for a property, and a list of directives as
a chain of calls.
-/

namespace EntityMapping.CSharp

/-- The call for a directive. -/
def call (d : Directive) : Except GeneratorError String :=
  match d.kind with
  | .columnType => .ok (".HasColumnType(" ++ literalOf d.value ++ ")")
  | .required => .ok ".IsRequired()"
  | .maxLength => .ok (".HasMaxLength(" ++ d.value.display ++ ")")
  | .concurrencyToken => .ok ".IsConcurrencyToken()"
  | .rowVersion => .ok ".IsRowVersion()"
  | .columnName => .ok (".HasColumnName(" ++ literalOf d.value ++ ")")
  | .other keyword => .error (.unsupportedDirective keyword)

/-- The chain of calls for directives. -/
def chain : List Directive → Except GeneratorError String
  | [] => .ok ""
  | d :: r =>
    match call d with
    | .error e => .error e
    | .ok s =>
      match chain r with
      | .error e => .error e
      | .ok t => .ok (s ++ t)

end EntityMapping.CSharp
