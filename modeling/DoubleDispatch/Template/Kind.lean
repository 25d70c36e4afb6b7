/-! Kinds of fragments. Each kind has one template file name and a fixed list of placeholders, in the
order in which a missing one is reported. -/
namespace DoubleDispatch.Template

inductive Kind where
  | runnersHeader
  | runnersSource
  | runnerClass
  | runnerBaseOverloads
  | runnerUnaryEntry
  | runnerBinaryEntry
  | runnerEvalEntry
  | unaryRunnerFunction
  | binaryRunnerFunction
  | infixScalarBody
  | infixMatrixBody
  | prefixScalarBody
  | prefixMatrixBody
  | functionScalarBody
  | functionMatrixBody
  | dispatchHeader
  | dispatchSource
  | forwardDeclaration
  | dispatchUnaryEntry
  | dispatchBinaryEntry
  | dispatchUnaryEvalCase
  | dispatchBinaryEvalOuterCase
  | dispatchBinaryEvalInnerCase
  | dispatchUnaryDefault
  | dispatchBinaryDefault
  | runnerMember
  | runnerConstruction
  | runnerDestruction
  | dispatchCase
  | expressionHeader
  | expressionSource
  | expressionClass
  | expressionFunctions
  | numericHeader
  | numericSource
  | numericConversionDeclaration
  | numericConversionDefinition
  | enumHeader
  | enumHeaderEntry
  | enumHeaderTag
  | enumJava
  | enumJavaEntry
  | constructionSource
  | constructionTerminalCase
  | constructionExpressionCase
  deriving DecidableEq, Repr

namespace Kind

def all : List Kind :=
  [.runnersHeader, .runnersSource, .runnerClass, .runnerBaseOverloads, .runnerUnaryEntry,
   .runnerBinaryEntry, .runnerEvalEntry, .unaryRunnerFunction, .binaryRunnerFunction,
   .infixScalarBody, .infixMatrixBody, .prefixScalarBody, .prefixMatrixBody, .functionScalarBody,
   .functionMatrixBody, .dispatchHeader, .dispatchSource, .forwardDeclaration,
   .dispatchUnaryEntry, .dispatchBinaryEntry, .dispatchUnaryEvalCase,
   .dispatchBinaryEvalOuterCase, .dispatchBinaryEvalInnerCase, .dispatchUnaryDefault,
   .dispatchBinaryDefault, .runnerMember, .runnerConstruction, .runnerDestruction, .dispatchCase,
   .expressionHeader, .expressionSource, .expressionClass, .expressionFunctions, .numericHeader,
   .numericSource, .numericConversionDeclaration, .numericConversionDefinition, .enumHeader,
   .enumHeaderEntry, .enumHeaderTag, .enumJava, .enumJavaEntry, .constructionSource,
   .constructionTerminalCase, .constructionExpressionCase]

def fileName : Kind → String
  | .runnersHeader => "runners.hh"
  | .runnersSource => "runners.cc"
  | .runnerClass => "runner_class.hh"
  | .runnerBaseOverloads => "runner_using_base.hh"
  | .runnerUnaryEntry => "runner_unary_entry.hh"
  | .runnerBinaryEntry => "runner_binary_entry.hh"
  | .runnerEvalEntry => "runner_eval_entry.hh"
  | .unaryRunnerFunction => "unary_runner_function.cc"
  | .binaryRunnerFunction => "binary_runner_function.cc"
  | .infixScalarBody => "infix_scalar_body.cc"
  | .infixMatrixBody => "infix_matrix_body.cc"
  | .prefixScalarBody => "prefix_scalar_body.cc"
  | .prefixMatrixBody => "prefix_matrix_body.cc"
  | .functionScalarBody => "function_scalar_body.cc"
  | .functionMatrixBody => "function_matrix_body.cc"
  | .dispatchHeader => "dispatch.hh"
  | .dispatchSource => "dispatch.cc"
  | .forwardDeclaration => "forward_decl.hh"
  | .dispatchUnaryEntry => "dispatch_unary_entry.hh"
  | .dispatchBinaryEntry => "dispatch_binary_entry.hh"
  | .dispatchUnaryEvalCase => "dispatch_unary_eval_case.cc"
  | .dispatchBinaryEvalOuterCase => "dispatch_binary_eval_outer_case.cc"
  | .dispatchBinaryEvalInnerCase => "dispatch_binary_eval_inner_case.cc"
  | .dispatchUnaryDefault => "dispatch_unary_default.cc"
  | .dispatchBinaryDefault => "dispatch_binary_default.cc"
  | .runnerMember => "runner_member.hh"
  | .runnerConstruction => "runner_construction.cc"
  | .runnerDestruction => "runner_destruction.cc"
  | .dispatchCase => "dispatch_case.cc"
  | .expressionHeader => "expression.hh"
  | .expressionSource => "expression.cc"
  | .expressionClass => "expression_class.hh"
  | .expressionFunctions => "expression_functions.cc"
  | .numericHeader => "numeric.hh"
  | .numericSource => "numeric.cc"
  | .numericConversionDeclaration => "numeric_conversion_decl.hh"
  | .numericConversionDefinition => "numeric_conversion_def.cc"
  | .enumHeader => "exprenum.hh"
  | .enumHeaderEntry => "exprenum_entry.hh"
  | .enumHeaderTag => "exprenum_tag.hh"
  | .enumJava => "ExprTypeEnum.java"
  | .enumJavaEntry => "ExprTypeEnum_entry.java"
  | .constructionSource => "createexpr.cc"
  | .constructionTerminalCase => "createexpr_terminal_case.cc"
  | .constructionExpressionCase => "createexpr_expression_case.cc"

def placeholders : Kind → List String
  | .runnersHeader => ["namespace", "class_definitions"]
  | .runnersSource => ["namespace", "function_definitions"]
  | .runnerClass => ["nodename", "base", "members"]
  | .runnerBaseOverloads => ["base"]
  | .runnerUnaryEntry => ["argtype"]
  | .runnerBinaryEntry => ["arg0type", "arg1type"]
  | .runnerEvalEntry => ["params"]
  | .unaryRunnerFunction => ["nodename", "argtype", "returntype", "implementation"]
  | .binaryRunnerFunction => ["nodename", "arg0type", "arg1type", "returntype", "implementation"]
  | .infixScalarBody => ["returntype", "symbol"]
  | .infixMatrixBody => ["datatype", "returntype", "symbol"]
  | .prefixScalarBody => ["returntype", "symbol"]
  | .prefixMatrixBody => ["datatype", "returntype", "symbol"]
  | .functionScalarBody => ["returntype", "function"]
  | .functionMatrixBody => ["datatype", "returntype", "function"]
  | .dispatchHeader =>
    ["namespace", "forward_decls", "unary_entry_points", "binary_entry_points", "runner_members"]
  | .dispatchSource =>
    ["namespace", "unary_eval_cases", "unary_defaults", "binary_eval_cases", "binary_defaults",
     "runner_constructions", "runner_destructions", "dispatch_cases"]
  | .forwardDeclaration => ["name"]
  | .dispatchUnaryEntry => ["argtype"]
  | .dispatchBinaryEntry => ["arg0type", "arg1type"]
  | .dispatchUnaryEvalCase => ["typeenum", "argtype"]
  | .dispatchBinaryEvalOuterCase => ["typeenum", "inner_cases"]
  | .dispatchBinaryEvalInnerCase => ["typeenum", "arg0type", "arg1type"]
  | .dispatchUnaryDefault => ["argtype"]
  | .dispatchBinaryDefault => ["arg0type", "arg1type"]
  | .runnerMember => ["nodename"]
  | .runnerConstruction => ["nodename"]
  | .runnerDestruction => ["nodename"]
  | .dispatchCase => ["enumname", "nodename", "eval_args"]
  | .expressionHeader => ["namespace", "class_definitions"]
  | .expressionSource => ["namespace", "function_definitions"]
  | .expressionClass => ["nodename", "base", "ctor_params"]
  | .expressionFunctions =>
    ["nodename", "enumname", "base", "ctor_params", "ctor_args", "copy_args"]
  | .numericHeader => ["namespace", "forward_decls", "conversions"]
  | .numericSource => ["namespace", "conversions"]
  | .numericConversionDeclaration => ["nodename"]
  | .numericConversionDefinition => ["nodename"]
  | .enumHeader => ["namespace", "count", "entries", "function_tags"]
  | .enumHeaderEntry => ["enumname", "ordinal"]
  | .enumHeaderTag => ["enumname", "tag_literal"]
  | .enumJava => ["package", "entries"]
  | .enumJavaEntry => ["enumname", "ordinal", "tag_literal"]
  | .constructionSource => ["namespace", "terminal_cases", "operation_cases"]
  | .constructionTerminalCase => ["typeenum", "typename"]
  | .constructionExpressionCase => ["enumname", "nodename", "arity", "ctor_args"]

/- The file names in alphabetical order. -/
def fileNames : List String := (all.map fileName).mergeSort (fun a b => !(b < a))

end Kind
end DoubleDispatch.Template
