import DoubleDispatch.Template.Kind

/-! The templates: literal text with slots for values. A template is written line by line. Most of
its lines hold text and slots and end with a line break; a block is a slot whose value is whole
lines, line breaks included. Every placeholder of a kind has a slot in its template. -/
namespace DoubleDispatch.Template

inductive Piece where
  | text (literal : String)
  | slot (placeholder : String)
  deriving DecidableEq, Repr

inductive Line where
  | ended (pieces : List Piece)
  | block (placeholder : String)
  deriving DecidableEq, Repr

open Piece (text slot)

def Line.pieces : Line → List Piece
  | ended pieces => pieces ++ [text "\n"]
  | block placeholder => [slot placeholder]

def Line.plain (literal : String) : Line := ended [text literal]

def Line.blank : Line := ended []

open Line (ended block plain blank)

def banner : List Line :=
  [plain "/**",
   plain " * GENERATED by rdag-gen. DO NOT EDIT.",
   plain " *",
   plain " * Regenerate from the operation and terminal catalogs instead.",
   plain " */"]

def Kind.lines : Kind → List Line
  | .runnersHeader =>
    banner ++
    [blank,
     plain "#ifndef _RUNNERS_HH",
     plain "#define _RUNNERS_HH",
     blank,
     plain "#include \"dispatch.hh\"",
     plain "#include \"uncopyable.hh\"",
     blank,
     ended [text "namespace ", slot "namespace", text r" {"],
     blank,
     block "class_definitions",
     ended [text r"} // end namespace ", slot "namespace"],
     blank,
     plain "#endif // _RUNNERS_HH"]
  | .runnersSource =>
    banner ++
    [blank,
     plain "#include <cmath>",
     plain "#include <complex>",
     blank,
     plain "#include \"dispatch.hh\"",
     plain "#include \"runners.hh\"",
     plain "#include \"expression.hh\"",
     plain "#include \"terminal.hh\"",
     plain "#include \"uncopyable.hh\"",
     blank,
     ended [text "namespace ", slot "namespace", text r" {"],
     blank,
     block "function_definitions",
     ended [text r"} // end namespace ", slot "namespace"]]
  | .runnerClass =>
    [ended [text "class ", slot "nodename", text "Runner: public ", slot "base",
       text ", private Uncopyable"],
     plain r"{",
     plain "  public:",
     block "members",
     plain r"};",
     blank]
  | .runnerBaseOverloads => [ended [text "    using ", slot "base", text "::run;"]]
  | .runnerUnaryEntry =>
    [ended [text "    virtual void * run(RegContainer* reg, const ", slot "argtype",
       text "* arg) const override;"]]
  | .runnerBinaryEntry =>
    [ended [text "    virtual void * run(RegContainer* reg, const ", slot "arg0type",
       text "* arg0, const ", slot "arg1type", text "* arg1) const override;"]]
  | .runnerEvalEntry =>
    [ended [text "    virtual void * eval(", slot "params", text ") const override;"]]
  | .unaryRunnerFunction =>
    [plain "void *",
     ended [slot "nodename", text "Runner::run(RegContainer* reg, const ", slot "argtype",
       text "* arg) const"],
     plain r"{",
     ended [text "  const ", slot "returntype", text "* ret;"],
     block "implementation",
     plain "  reg->push_back(ret);",
     plain "  return nullptr;",
     plain r"}",
     blank]
  | .binaryRunnerFunction =>
    [plain "void *",
     ended [slot "nodename", text "Runner::run(RegContainer* reg, const ", slot "arg0type",
       text "* arg0, const ", slot "arg1type", text "* arg1) const"],
     plain r"{",
     ended [text "  const ", slot "returntype", text "* ret;"],
     block "implementation",
     plain "  reg->push_back(ret);",
     plain "  return nullptr;",
     plain r"}",
     blank]
  | .infixScalarBody =>
    [ended [text "  ret = new ", slot "returntype", text "(arg0->getValue() ", slot "symbol",
       text " arg1->getValue());"]]
  | .infixMatrixBody =>
    [ended [text "  const ", slot "datatype", text "* data0 = arg0->getData();"],
     ended [text "  const ", slot "datatype", text "* data1 = arg1->getData();"],
     plain "  const int datalen = arg0->getRows() * arg0->getCols();",
     ended [text "  ", slot "datatype", text "* newData = new ", slot "datatype",
       text "[datalen];"],
     plain "  for (int i = 0; i < datalen; ++i)",
     plain r"  {",
     ended [text "    newData[i] = data0[i] ", slot "symbol", text " data1[i];"],
     plain r"  }",
     ended [text "  ret = new ", slot "returntype",
       text "(newData, arg0->getRows(), arg0->getCols());"]]
  | .prefixScalarBody =>
    [ended [text "  ret = new ", slot "returntype", text "(", slot "symbol",
       text "(arg->getValue()));"]]
  | .prefixMatrixBody =>
    [ended [text "  const ", slot "datatype", text "* data = arg->getData();"],
     plain "  const int datalen = arg->getRows() * arg->getCols();",
     ended [text "  ", slot "datatype", text "* newData = new ", slot "datatype",
       text "[datalen];"],
     plain "  for (int i = 0; i < datalen; ++i)",
     plain r"  {",
     ended [text "    newData[i] = ", slot "symbol", text "data[i];"],
     plain r"  }",
     ended [text "  ret = new ", slot "returntype",
       text "(newData, arg->getRows(), arg->getCols());"]]
  | .functionScalarBody =>
    [ended [text "  ret = new ", slot "returntype", text "(std::", slot "function",
       text "(arg->getValue()));"]]
  | .functionMatrixBody =>
    [ended [text "  const ", slot "datatype", text "* data = arg->getData();"],
     plain "  const int datalen = arg->getRows() * arg->getCols();",
     ended [text "  ", slot "datatype", text "* newData = new ", slot "datatype",
       text "[datalen];"],
     plain "  for (int i = 0; i < datalen; ++i)",
     plain r"  {",
     ended [text "    newData[i] = std::", slot "function", text "(data[i]);"],
     plain r"  }",
     ended [text "  ret = new ", slot "returntype",
       text "(newData, arg->getRows(), arg->getCols());"]]
  | .dispatchHeader =>
    banner ++
    [blank,
     plain "#ifndef _DISPATCH_HH",
     plain "#define _DISPATCH_HH",
     blank,
     plain "#include \"exprenum.hh\"",
     plain "#include \"terminal.hh\"",
     blank,
     ended [text "namespace ", slot "namespace", text r" {"],
     blank,
     plain "class OGExpr;",
     plain "class RegContainer;",
     blank,
     block "forward_decls",
     blank,
     plain "/**",
     plain " * Unary double-dispatch base. Every terminal type has an entry point whose",
     plain " * default implementation fails fast; runners override the ones they support.",
     plain " */",
     plain "class DispatchVoidUnaryOp",
     plain r"{",
     plain "  public:",
     plain "    virtual ~DispatchVoidUnaryOp();",
     plain "    virtual void * eval(RegContainer* reg, const OGTerminal* arg) const;",
     block "unary_entry_points",
     plain r"};",
     blank,
     plain "/**",
     plain " * Binary double-dispatch base, one entry point per terminal type pair.",
     plain " */",
     plain "class DispatchVoidBinaryOp",
     plain r"{",
     plain "  public:",
     plain "    virtual ~DispatchVoidBinaryOp();",
     ended [text "    virtual void * eval(",
       text "RegContainer* reg, const OGTerminal* arg0, const OGTerminal* arg1", text ") const;"],
     block "binary_entry_points",
     plain r"};",
     blank,
     plain "/**",
     plain " * Routes an expression node to the runner registered for its type.",
     plain " */",
     plain "class Dispatcher",
     plain r"{",
     plain "  public:",
     plain "    Dispatcher();",
     plain "    ~Dispatcher();",
     plain "    void dispatch(const OGExpr* thing) const;",
     plain "  private:",
     block "runner_members",
     plain r"};",
     blank,
     ended [text r"} // end namespace ", slot "namespace"],
     blank,
     plain "#endif // _DISPATCH_HH"]
  | .dispatchSource =>
    banner ++
    [blank,
     plain "#include \"dispatch.hh\"",
     plain "#include \"exceptions.hh\"",
     plain "#include \"expression.hh\"",
     plain "#include \"runners.hh\"",
     plain "#include \"terminal.hh\"",
     blank,
     ended [text "namespace ", slot "namespace", text r" {"],
     blank,
     plain "DispatchVoidUnaryOp::~DispatchVoidUnaryOp() {}",
     blank,
     plain "void *",
     plain "DispatchVoidUnaryOp::eval(RegContainer* reg, const OGTerminal* arg) const",
     plain r"{",
     plain "  switch(arg->getType())",
     plain r"  {",
     block "unary_eval_cases",
     plain "    default:",
     plain "      throw rdag_error(\"Unknown terminal type in unary dispatch\");",
     plain r"  }",
     plain r"}",
     blank,
     block "unary_defaults",
     plain "DispatchVoidBinaryOp::~DispatchVoidBinaryOp() {}",
     blank,
     plain "void *",
     ended [text "DispatchVoidBinaryOp::eval(",
       text "RegContainer* reg, const OGTerminal* arg0, const OGTerminal* arg1", text ") const"],
     plain r"{",
     plain "  switch(arg0->getType())",
     plain r"  {",
     block "binary_eval_cases",
     plain "    default:",
     plain "      throw rdag_error(\"Unknown terminal type in binary dispatch\");",
     plain r"  }",
     plain r"}",
     blank,
     block "binary_defaults",
     plain "Dispatcher::Dispatcher()",
     plain r"{",
     block "runner_constructions",
     plain r"}",
     blank,
     plain "Dispatcher::~Dispatcher()",
     plain r"{",
     block "runner_destructions",
     plain r"}",
     blank,
     plain "void",
     plain "Dispatcher::dispatch(const OGExpr* thing) const",
     plain r"{",
     plain "  RegContainer* reg = thing->getRegs();",
     plain "  const ArgContainer* args = thing->getArgs();",
     plain "  switch(thing->getType())",
     plain r"  {",
     block "dispatch_cases",
     plain "    default:",
     plain "      throw rdag_error(\"Unknown expression type in dispatch\");",
     plain r"  }",
     plain r"}",
     blank,
     ended [text r"} // end namespace ", slot "namespace"]]
  | .forwardDeclaration => [ended [text "class ", slot "name", text ";"]]
  | .dispatchUnaryEntry =>
    [ended [text "    virtual void * run(RegContainer* reg, const ", slot "argtype",
       text "* arg) const;"]]
  | .dispatchBinaryEntry =>
    [ended [text "    virtual void * run(RegContainer* reg, const ", slot "arg0type",
       text "* arg0, const ", slot "arg1type", text "* arg1) const;"]]
  | .dispatchUnaryEvalCase =>
    [ended [text "    case ", slot "typeenum", text ":"],
     ended [text "      return run(reg, arg->as", slot "argtype", text "());"]]
  | .dispatchBinaryEvalOuterCase =>
    [ended [text "    case ", slot "typeenum", text ":"],
     plain "      switch(arg1->getType())",
     plain r"      {",
     block "inner_cases",
     plain "        default:",
     plain "          throw rdag_error(\"Unknown terminal type in binary dispatch\");",
     plain r"      }"]
  | .dispatchBinaryEvalInnerCase =>
    [ended [text "        case ", slot "typeenum", text ":"],
     ended [text "          return run(reg, arg0->as", slot "arg0type", text "(), arg1->as",
       slot "arg1type", text "());"]]
  | .dispatchUnaryDefault =>
    [plain "void *",
     ended [text "DispatchVoidUnaryOp::run(RegContainer*, const ", slot "argtype", text "*) const"],
     plain r"{",
     ended [text "  throw rdag_error(\"run() is not implemented for ", slot "argtype", text "\");"],
     plain r"}",
     blank]
  | .dispatchBinaryDefault =>
    [plain "void *",
     ended [text "DispatchVoidBinaryOp::run(RegContainer*, const ", slot "arg0type",
       text "*, const ", slot "arg1type", text "*) const"],
     plain r"{",
     ended [text "  throw rdag_error(\"run() is not implemented for ", slot "arg0type", text ", ",
       slot "arg1type", text "\");"],
     plain r"}",
     blank]
  | .runnerMember =>
    [ended [text "    const ", slot "nodename", text "Runner* _", slot "nodename", text "Runner;"]]
  | .runnerConstruction =>
    [ended [text "  _", slot "nodename", text "Runner = new ", slot "nodename", text "Runner();"]]
  | .runnerDestruction => [ended [text "  delete _", slot "nodename", text "Runner;"]]
  | .dispatchCase =>
    [ended [text "    case ", slot "enumname", text ":"],
     ended [text "      _", slot "nodename", text "Runner->eval(reg, ", slot "eval_args",
       text ");"],
     plain "      break;"]
  | .expressionHeader =>
    banner ++
    [blank,
     plain "#ifndef _EXPRESSION_HH",
     plain "#define _EXPRESSION_HH",
     blank,
     plain "#include \"expressionbase.hh\"",
     plain "#include \"exprenum.hh\"",
     blank,
     ended [text "namespace ", slot "namespace", text r" {"],
     blank,
     block "class_definitions",
     ended [text r"} // end namespace ", slot "namespace"],
     blank,
     plain "#endif // _EXPRESSION_HH"]
  | .expressionSource =>
    banner ++
    [blank,
     plain "#include \"expression.hh\"",
     blank,
     ended [text "namespace ", slot "namespace", text r" {"],
     blank,
     block "function_definitions",
     ended [text r"} // end namespace ", slot "namespace"]]
  | .expressionClass =>
    [ended [text "class ", slot "nodename", text ": public ", slot "base"],
     plain r"{",
     plain "  public:",
     ended [text "    ", slot "nodename", text "(", slot "ctor_params", text ");"],
     plain "    virtual OGNumeric* copy() const override;",
     ended [text "    virtual const ", slot "nodename", text "* as", slot "nodename",
       text "() const override;"],
     plain "    virtual ExprType_t getType() const override;",
     plain r"};",
     blank]
  | .expressionFunctions =>
    [ended [slot "nodename", text "::", slot "nodename", text "(", slot "ctor_params", text "): ",
       slot "base", text "(", slot "ctor_args", text ") {}"],
     blank,
     plain "OGNumeric*",
     ended [slot "nodename", text "::copy() const"],
     plain r"{",
     ended [text "  return new ", slot "nodename", text "(", slot "copy_args", text ");"],
     plain r"}",
     blank,
     ended [text "const ", slot "nodename", text "*"],
     ended [slot "nodename", text "::as", slot "nodename", text "() const"],
     plain r"{",
     plain "  return this;",
     plain r"}",
     blank,
     plain "ExprType_t",
     ended [slot "nodename", text "::getType() const"],
     plain r"{",
     ended [text "  return ", slot "enumname", text ";"],
     plain r"}",
     blank]
  | .numericHeader =>
    banner ++
    [blank,
     plain "#ifndef _NUMERIC_HH",
     plain "#define _NUMERIC_HH",
     blank,
     plain "#include \"exprenum.hh\"",
     blank,
     ended [text "namespace ", slot "namespace", text r" {"],
     blank,
     block "forward_decls",
     blank,
     plain "/**",
     plain " * Base of every node in the expression DAG. Each conversion returns",
     plain " * nullptr unless the node really is of that type.",
     plain " */",
     plain "class OGNumeric",
     plain r"{",
     plain "  public:",
     plain "    virtual ~OGNumeric();",
     plain "    virtual OGNumeric* copy() const = 0;",
     plain "    virtual ExprType_t getType() const = 0;",
     block "conversions",
     plain r"};",
     blank,
     ended [text r"} // end namespace ", slot "namespace"],
     blank,
     plain "#endif // _NUMERIC_HH"]
  | .numericSource =>
    banner ++
    [blank,
     plain "#include \"numeric.hh\"",
     plain "#include \"expression.hh\"",
     blank,
     ended [text "namespace ", slot "namespace", text r" {"],
     blank,
     plain "OGNumeric::~OGNumeric() {}",
     blank,
     block "conversions",
     ended [text r"} // end namespace ", slot "namespace"]]
  | .numericConversionDeclaration =>
    [ended [text "    virtual const ", slot "nodename", text "* as", slot "nodename",
       text "() const;"]]
  | .numericConversionDefinition =>
    [ended [text "const ", slot "nodename", text "*"],
     ended [text "OGNumeric::as", slot "nodename", text "() const"],
     plain r"{",
     plain "  return nullptr;",
     plain r"}",
     blank]
  | .enumHeader =>
    banner ++
    [blank,
     plain "#ifndef _EXPRENUM_HH",
     plain "#define _EXPRENUM_HH",
     blank,
     ended [text "namespace ", slot "namespace", text r" {"],
     blank,
     plain "/**",
     plain " * Expression type ordinals. These values are shared with ExprTypeEnum.java",
     plain " * and must never be renumbered.",
     plain " */",
     plain "enum ExprType_t",
     plain r"{",
     block "entries",
     plain r"};",
     blank,
     plain "/**",
     plain " * Elementwise function tag per ordinal, nullptr where the operation has none.",
     plain " */",
     ended [text "static const char * const ExprType_function_tags[", slot "count", text "] ="],
     plain r"{",
     block "function_tags",
     plain r"};",
     blank,
     ended [text r"} // end namespace ", slot "namespace"],
     blank,
     plain "#endif // _EXPRENUM_HH"]
  | .enumHeaderEntry => [ended [text "  ", slot "enumname", text " = ", slot "ordinal", text ","]]
  | .enumHeaderTag => [ended [text "  ", slot "tag_literal", text ", // ", slot "enumname"]]
  | .enumJava =>
    banner ++
    [ended [text "package ", slot "package", text ";"],
     blank,
     plain "/**",
     plain " * Expression type ordinals. These values are shared with the native",
     plain " * ExprType_t enumeration and must never be renumbered.",
     plain " */",
     plain r"public enum ExprTypeEnum {",
     block "entries",
     plain "  ;",
     blank,
     plain "  private final int _value;",
     plain "  private final String _functionTag;",
     blank,
     plain r"  ExprTypeEnum(int value, String functionTag) {",
     plain "    _value = value;",
     plain "    _functionTag = functionTag;",
     plain r"  }",
     blank,
     plain r"  public int getValue() {",
     plain "    return _value;",
     plain r"  }",
     blank,
     plain r"  public String getFunctionTag() {",
     plain "    return _functionTag;",
     plain r"  }",
     plain r"}"]
  | .enumJavaEntry =>
    [ended [text "  ", slot "enumname", text "(", slot "ordinal", text ", ", slot "tag_literal",
       text "),"]]
  | .constructionSource =>
    banner ++
    [blank,
     plain "#include \"createexpr.hh\"",
     plain "#include \"exceptions.hh\"",
     plain "#include \"expression.hh\"",
     plain "#include \"terminal.hh\"",
     blank,
     ended [text "namespace ", slot "namespace", text r" {"],
     blank,
     plain "OGTerminal*",
     plain "createTerminal(TerminalType_t type, const TerminalData* data)",
     plain r"{",
     plain "  switch(type)",
     plain r"  {",
     block "terminal_cases",
     plain "    default:",
     plain "      throw rdag_error(\"Unknown terminal type in createTerminal\");",
     plain r"  }",
     plain r"}",
     blank,
     plain "OGExpr*",
     plain "createExpression(ExprType_t type, const ArgContainer* args)",
     plain r"{",
     plain "  switch(type)",
     plain r"  {",
     block "operation_cases",
     plain "    default:",
     plain "      throw rdag_error(\"Unknown expression type in createExpression\");",
     plain r"  }",
     plain r"}",
     blank,
     ended [text r"} // end namespace ", slot "namespace"]]
  | .constructionTerminalCase =>
    [ended [text "    case ", slot "typeenum", text ":"],
     ended [text "      return new ", slot "typename", text "(data);"]]
  | .constructionExpressionCase =>
    [ended [text "    case ", slot "enumname", text ":"],
     ended [text "      checkArity(args, ", slot "arity", text ");"],
     ended [text "      return new ", slot "nodename", text "(", slot "ctor_args", text ");"]]

def Kind.pieces (k : Kind) : List Piece := k.lines.flatMap Line.pieces

def Piece.slot? : Piece → Option String
  | .text _ => none
  | .slot placeholder => some placeholder

theorem Kind.slotsArePlaceholders (k : Kind) :
    ∀ p, p ∈ k.pieces.filterMap Piece.slot? ↔ p ∈ k.placeholders := by
  have both : (∀ p ∈ k.pieces.filterMap Piece.slot?, p ∈ k.placeholders) ∧
      ∀ p ∈ k.placeholders, p ∈ k.pieces.filterMap Piece.slot? := by
    cases k <;> decide
  exact fun p => ⟨both.1 p, both.2 p⟩

end DoubleDispatch.Template
