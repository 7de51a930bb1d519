import DocOutline.Text.Basic

/-!
# Kinds of syntax

The kinds of nodes in the syntax tree of a Python source. Expressions, parameters and definitions
are told apart exactly; statements that only matter for the definitions inside them share a few
kinds.
-/

namespace DocOutline.Syntax

/-- The kind of a node. -/
inductive Kind where
  /-- A keyword, an operator or a bracket. -/
  | token
  | comment
  /-- A backslash with the newline that it hides. -/
  | lineContinuation
  /-- A part of the source that is no statement, or a source that breaks off. -/
  | error
  /-- A token that the source lacks. -/
  | missing
  -- Statements.
  | sourceFile
  | block
  | classDefinition
  | functionDefinition
  | decoratedDefinition
  | decorator
  | expressionStatement
  | assignment
  | simpleStatement
  | compoundStatement
  | clause
  -- Parameters.
  | parameters
  | lambdaParameters
  | typedParameter
  | defaultParameter
  | typedDefaultParameter
  | keywordSeparator
  | positionalSeparator
  | listSplatPattern
  | dictionarySplatPattern
  | tuplePattern
  -- Types.
  | typeHint
  | genericType
  | typeParameter
  | memberType
  | unionType
  | constrainedType
  | splatType
  -- Atoms.
  | identifier
  | string
  | concatenatedString
  | integer
  | float
  | trueLiteral
  | falseLiteral
  | noneLiteral
  | ellipsis
  -- Brackets.
  | parenthesizedExpression
  | tuple
  | list
  | set
  | dictionary
  | pair
  | generatorExpression
  | listComprehension
  | setComprehension
  | dictionaryComprehension
  | forInClause
  | ifClause
  -- Operators.
  | attribute
  | subscript
  | slice
  | call
  | argumentList
  | keywordArgument
  | listSplat
  | dictionarySplat
  | unaryOperator
  | binaryOperator
  | comparisonOperator
  | notOperator
  | booleanOperator
  | conditionalExpression
  | namedExpression
  | lambdaExpression
  | awaitExpression
  | yieldExpression
  | asPattern
  | expressionList
  deriving DecidableEq, Repr, Inhabited

namespace Kind

/-- The name of a kind in messages. -/
def name : Kind → Text
  | .token => "token"
  | .comment => "comment"
  | .lineContinuation => "line_continuation"
  | .error => "ERROR"
  | .missing => "MISSING"
  | .sourceFile => "module"
  | .block => "block"
  | .classDefinition => "class_definition"
  | .functionDefinition => "function_definition"
  | .decoratedDefinition => "decorated_definition"
  | .decorator => "decorator"
  | .expressionStatement => "expression_statement"
  | .assignment => "assignment"
  | .simpleStatement => "simple_statement"
  | .compoundStatement => "compound_statement"
  | .clause => "clause"
  | .parameters => "parameters"
  | .lambdaParameters => "lambda_parameters"
  | .typedParameter => "typed_parameter"
  | .defaultParameter => "default_parameter"
  | .typedDefaultParameter => "typed_default_parameter"
  | .keywordSeparator => "keyword_separator"
  | .positionalSeparator => "positional_separator"
  | .listSplatPattern => "list_splat_pattern"
  | .dictionarySplatPattern => "dictionary_splat_pattern"
  | .tuplePattern => "tuple_pattern"
  | .typeHint => "type"
  | .genericType => "generic_type"
  | .typeParameter => "type_parameter"
  | .memberType => "member_type"
  | .unionType => "union_type"
  | .constrainedType => "constrained_type"
  | .splatType => "splat_type"
  | .identifier => "identifier"
  | .string => "string"
  | .concatenatedString => "concatenated_string"
  | .integer => "integer"
  | .float => "float"
  | .trueLiteral => "true"
  | .falseLiteral => "false"
  | .noneLiteral => "none"
  | .ellipsis => "ellipsis"
  | .parenthesizedExpression => "parenthesized_expression"
  | .tuple => "tuple"
  | .list => "list"
  | .set => "set"
  | .dictionary => "dictionary"
  | .pair => "pair"
  | .generatorExpression => "generator_expression"
  | .listComprehension => "list_comprehension"
  | .setComprehension => "set_comprehension"
  | .dictionaryComprehension => "dictionary_comprehension"
  | .forInClause => "for_in_clause"
  | .ifClause => "if_clause"
  | .attribute => "attribute"
  | .subscript => "subscript"
  | .slice => "slice"
  | .call => "call"
  | .argumentList => "argument_list"
  | .keywordArgument => "keyword_argument"
  | .listSplat => "list_splat"
  | .dictionarySplat => "dictionary_splat"
  | .unaryOperator => "unary_operator"
  | .binaryOperator => "binary_operator"
  | .comparisonOperator => "comparison_operator"
  | .notOperator => "not_operator"
  | .booleanOperator => "boolean_operator"
  | .conditionalExpression => "conditional_expression"
  | .namedExpression => "named_expression"
  | .lambdaExpression => "lambda"
  | .awaitExpression => "await"
  | .yieldExpression => "yield"
  | .asPattern => "as_pattern"
  | .expressionList => "expression_list"

/-- Whether a node of this kind counts as a child; keywords, operators and brackets do not. -/
def isNamed : Kind → Bool
  | .token => false
  | .missing => false
  | _ => true

/-- Nodes of this kind stand inside a file and are no files themselves. -/
def IsInner : Kind → Prop
  | .sourceFile => False
  | _ => True

theorem IsInner.ne_sourceFile {k : Kind} (h : k.IsInner) : k ≠ .sourceFile := by
  rintro rfl
  exact h

end Kind

end DocOutline.Syntax
