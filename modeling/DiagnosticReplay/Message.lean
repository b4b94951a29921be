/-! # Messages

Every message has a number, a symbol, and a template. Editors key off the numbers, so a number is
never given to another message. Numbers below 128 belong to the parser and the others to the
verifier; those from 34 to 127 are kept for messages to come.
-/

namespace DiagnosticReplay

/-- The stage of the toolchain that raises a diagnostic. -/
inductive Stage where
  | parsing
  | verification
deriving DecidableEq, Repr

namespace Stage

/-- The first number of the verifier. -/
def firstVerifierId : UInt32 := 128

/-- The stage that a message number is set aside for. -/
def ofId (id : UInt32) : Stage :=
  if id < firstVerifierId then parsing else verification

/-- What a printed line calls a diagnostic of the stage. -/
def label : Stage → String
  | parsing => "SyntaxError"
  | verification => "VerifyError"

/-- The name of the stage in recorded documents. -/
def recordName : Stage → String
  | parsing => "syntax"
  | verification => "verify"

/-- Every stage, in the order in which messages list them. -/
def all : List Stage := [parsing, verification]

end Stage

/-- A message: its template refers to an argument as `$name` and writes a dollar sign as `$$`. -/
structure Message where
  id : UInt32
  symbol : String
  template : String
deriving DecidableEq, Repr

namespace Message

/-- What stands in the place of anything that a lookup does not find. -/
def undefinedText : String := "undefined"

/-- The messages of the parser, by number. -/
def ofParser : List Message := [
  ⟨0, "UNEXPECTED", "Unexpected $t"⟩,
  ⟨1, "INVALID_OR_UNEXPECTED_TOKEN", "Invalid or unexpected token"⟩,
  ⟨2, "KEYWORD_MUST_NOT_CONTAIN_ESCAPES", "Keyword must not contain escaped characters"⟩,
  ⟨3, "STRING_MUST_NOT_CONTAIN_LINE_BREAKS", "String must not contain line breaks"⟩,
  ⟨4, "REQUIRED_PARAMETER_AFTER_OPTIONAL",
      "Required parameter must not follow optional parameter"⟩,
  ⟨5, "INVALID_DESTRUCTURING_ASSIGNMENT_TARGET", "Invalid destructuring assignment target"⟩,
  ⟨6, "AWAIT_IN_GENERATOR", "'await' must not appear in generator"⟩,
  ⟨7, "YIELD_IN_ASYNC_FUNCTION", "'yield' must not appear in asynchronous function"⟩,
  ⟨8, "THROWS_CLAUSE_MUST_NOT_REPEAT", "'throws' clause must not repeat"⟩,
  ⟨9, "UNDEFINED_LABEL", "Undefined label '$label'"⟩,
  ⟨10, "TRY_WITHOUT_CATCH_OR_FINALLY",
      "Try statement must have at least one 'catch' or 'finally' clause"⟩,
  ⟨11, "MALFORMED_FOR_IN_BINDING", "Mal-formed for..in binding"⟩,
  ⟨12, "UNEXPECTED_SUPER_STATEMENT", "Unexpected super statement"⟩,
  ⟨13, "TOKEN_MUST_BE_INLINE", "Token must be inline"⟩,
  ⟨14, "ENUM_VARIANT_MUST_BE_CONSTANT", "Enum variant declarations must be constant"⟩,
  ⟨15, "ENUM_VARIANT_MUST_BE_SIMPLE", "Enum variant must be simple"⟩,
  ⟨16, "UNALLOWED_DEFINITION_CONTEXT", "Definition appears in unallowed context"⟩,
  ⟨17, "UNEXPECTED_YIELD_OPERATOR", "'yield' operator unexpected here"⟩,
  ⟨18, "DEFINITION_MUST_NOT_HAVE_MODIFIER", "Definition must not have modifier '$m'"⟩,
  ⟨19, "NATIVE_FUNCTION_MUST_NOT_HAVE_BODY", "Native function must not have body"⟩,
  ⟨20, "FUNCTION_MUST_HAVE_BODY", "Function must have body"⟩,
  ⟨21, "INTERFACE_METHOD_MUST_HAVE_NO_ATTRIBUTES", "Interface method must have no attributes"⟩,
  ⟨22, "PROXY_WRONG_NUMBER_OF_PARAMETERS", "Proxy method has wrong number of parameters"⟩,
  ⟨23, "UNRECOGNIZED_PROXY", "Unrecognized proxy '$p'"⟩,
  ⟨24, "DUPLICATE_EXTENDS_CLAUSE", "'extends' clause must not duplicate"⟩,
  ⟨25, "FAILED_TO_RESOLVE_INCLUDE_SOURCE", "Failed to resolve include source"⟩,
  ⟨26, "FUNCTION_MUST_NOT_USE_AWAIT", "Function must not use 'await'"⟩,
  ⟨27, "FUNCTION_MUST_NOT_USE_YIELD", "Function must not use 'yield'"⟩,
  ⟨28, "INVALID_ARROW_FUNCTION_PARAMETER", "Invalid arrow function parameter"⟩,
  ⟨29, "REST_PARAMETER_WITH_INITIALIZER", "Rest parameter must not have initializer"⟩,
  ⟨30, "VALUE_CLASS_WITH_EXTENDS", "Value class must not have 'extends' clause"⟩,
  ⟨31, "BLANK_MESSAGE", ""⟩,
  ⟨32, "ILLEGAL_BREAK_STATEMENT", "Illegal break statement"⟩,
  ⟨33, "ILLEGAL_CONTINUE_STATEMENT",
      "Illegal continue statement: no surrounding iteration statement"⟩]

/-- The messages of the verifier, by number. -/
def ofVerifier : List Message := [
  ⟨128, "NAME_IS_UNDEFINED", "'$name' is undefined"⟩,
  ⟨129, "AMBIGUOUS_REFERENCE", "Ambiguous reference to '$name'"⟩,
  ⟨130, "NAME_IS_PRIVATE", "'$name' is private"⟩,
  ⟨131, "NAME_IS_NOT_A_TYPE_CONSTANT", "'$name' is not a type constant"⟩,
  ⟨132, "GENERIC_MUST_BE_ARGUMENTED",
      "'$name' is a generic type or function, therefore must be argumented"⟩,
  ⟨133, "NOT_A_GENERIC_TYPE", "'$t' is not a generic type"⟩,
  ⟨134, "EXPRESSION_IS_NOT_A_TYPE_CONSTANT", "Expression is not a type constant"⟩,
  ⟨135, "WRONG_NUMBER_OF_ARGUMENTS",
      "Wrong number of arguments: expected $expectedN, got $gotN"⟩,
  ⟨136, "ARGUMENT_TYPE_MUST_BE_SUBTYPE", "Argument type must be a subtype of $t"⟩,
  ⟨137, "TYPED_TYPE_EXPRESSION_NOT_ALLOWED", "Typed type expression must not be used here"⟩,
  ⟨138, "BINDING_MUST_HAVE_TYPE_ANNOTATION", "Binding must have type annotation"⟩,
  ⟨139, "DUPLICATE_DEFINITION", "Duplicate definition for '$name'"⟩,
  ⟨140, "INFERRED_TYPE_MISMATCH",
      "Inferred type and type annotation must match: $i is not equals to $a"⟩,
  ⟨141, "CANNOT_APPLY_ARRAY_DESTRUCTURING", "Cannot apply array destructuring to type '$t'"⟩,
  ⟨142, "TUPLE_DESTRUCTURING_LIMIT",
      "Tuple destructuring cannot have more than $limit elements"⟩,
  ⟨143, "TUPLE_DESTRUCTURING_REST", "Tuple destructuring pattern must not have a rest element"⟩,
  ⟨144, "REST_ELEMENT_MUST_BE_LAST", "Rest element must be last element"⟩,
  ⟨145, "RECORD_PATTERN_KEY_MUST_BE_IDENTIFIER", "Record pattern key must be an identifier"⟩,
  ⟨146, "GENERIC_FUNCTION_MUST_BE_ARGUMENTED",
      "'$name' is a generic function, therefore must be argumented"⟩,
  ⟨147, "ASSIGNING_READ_ONLY_PROPERTY", "Assigning read-only property '$name'"⟩,
  ⟨148, "DESTRUCTURING_TARGET_MUST_BE_LEXICAL",
      "Destructuring assignment target must be lexical"⟩,
  ⟨149, "TARGET_REFERENCE_TYPE", "Target reference must be of type '$e'"⟩,
  ⟨150, "EXPRESSION_NOT_COMPILE_TIME", "Expression not supported as a compile-time expression"⟩,
  ⟨151, "NAME_IS_NOT_COMPILE_TIME_CONSTANT", "'$name' is not a compile-time constant"⟩,
  ⟨152, "IDENTIFIER_MUST_NOT_BE_TYPED", "Identifier must not be typed here"⟩,
  ⟨153, "OPERATION_NOT_COMPILE_TIME",
      "Operation not supported as a compile-time expression: $op"⟩,
  ⟨154, "OPERAND_MUST_BE_NUMERIC", "Operand must be numeric"⟩,
  ⟨155, "COMPILE_TIME_IN_ONLY_FOR_FLAGS",
      "Compile-time \"in\" operation is only supported for flags"⟩,
  ⟨156, "LEFT_OPERAND_MUST_NOT_BE_NULLISH", "Left operand must not be undefined or null"⟩]

/-- Every message, by number. -/
def all : List Message :=
  ofParser ++ ofVerifier

/-- The message with a symbol, if there is one. -/
def named? (symbol : String) : Option Message :=
  all.find? fun message => message.symbol == symbol

end Message

end DiagnosticReplay
