import DuplicateLogic.Syntax.Node

/-! # Building trees

A composite node starts where its first child starts and its text is the texts of its children
joined by one space. Tokens stand at line one, column zero until they are placed elsewhere. -/

namespace DuplicateLogic

namespace Node

/-- The place of a node that nothing has placed. -/
def origin : Position :=
  ⟨1, 0⟩

/-- A leaf with a text of its own. -/
def token (kind : Kind) (text : String) : Node :=
  ⟨kind, text, origin, []⟩

/-- A leaf whose text follows from its kind. -/
def keyword (kind : Kind) : Node :=
  token kind (kind.spelling?.getD "")

/-- A node over its children. -/
def compose (kind : Kind) (children : List Node) : Node :=
  ⟨kind, " ".intercalate (children.map (·.text)), (children.head?.map (·.start)).getD origin,
    children⟩

/-- A punctuation leaf. -/
def mark (form : Punctuation) : Node :=
  keyword (.punctuation form)

/-- A structural keyword leaf. -/
def word (form : Keyword) : Node :=
  keyword (.keyword form)

/-- An identifier. -/
def identifier (name : String) : Node :=
  token (.lexeme .identifier) name

/-- A numeric literal. -/
def number (text : String) : Node :=
  token (.lexeme .numericLiteral) text

/-- A string literal, with its quotes. -/
def string (text : String) : Node :=
  token (.lexeme .stringLiteral) text

/-- An expression with its semicolon. -/
def expressionStatement (expression : Node) : Node :=
  compose (.construct .expressionStatement) [expression, mark .semicolon]

/-- A call of `callee` with its arguments between commas. -/
def call (callee : Node) (arguments : List Node) : Node :=
  compose (.construct .callExpression)
    (callee :: mark .openParen :: (arguments.intersperse (mark .comma) ++ [mark .closeParen]))

/-- A call of a name without arguments, as a statement. -/
def callStatement (name : String) : Node :=
  expressionStatement (call (identifier name) [])

/-- Items between braces. -/
private def braced (items : List Node) : List Node :=
  mark .openBrace :: (items ++ [mark .closeBrace])

/-- A block of statements. -/
def block (statements : List Node) : Node :=
  compose (.construct .block) (braced statements)

/-- An `if` with its optional `else`. -/
def ifStatement (condition consequence : Node) (alternative? : Option Node) : Node :=
  compose (.construct .ifStatement)
    ([word .ifKeyword, mark .openParen, condition, mark .closeParen, consequence] ++
      match alternative? with
      | some alternative => [word .elseKeyword, alternative]
      | none => [])

/-- A `switch` over its clauses. -/
def switchStatement (subject : Node) (clauses : List Node) : Node :=
  compose (.construct .switchStatement)
    [word .switchKeyword, mark .openParen, subject, mark .closeParen,
      compose (.construct .caseBlock) (braced clauses)]

/-- A `case` clause. -/
def caseClause (label : Node) (statements : List Node) : Node :=
  compose (.construct .caseClause) ([word .caseKeyword, label, mark .colon] ++ statements)

/-- A `default` clause. -/
def defaultClause (statements : List Node) : Node :=
  compose (.construct .defaultClause) ([word .defaultKeyword, mark .colon] ++ statements)

/-- A `break` statement. -/
def breakStatement : Node :=
  compose (.construct .breakStatement) [word .breakKeyword, mark .semicolon]

/-- A `return` statement. -/
def returnStatement (value? : Option Node) : Node :=
  compose (.construct .returnStatement)
    (word .returnKeyword :: (value?.toList ++ [mark .semicolon]))

/-- An infix operation. -/
def binary (left : Node) (sign : Kind) (right : Node) : Node :=
  compose (.construct .binaryExpression) [left, keyword sign, right]

/-- An assignment. -/
def assign (target value : Node) : Node :=
  binary target (.operator .equals) value

/-- An operation whose sign follows its operand. -/
def postfixUnary (operand : Node) (sign : Kind) : Node :=
  compose (.construct .postfixUnaryExpression) [operand, keyword sign]

/-- An operation whose sign precedes its operand. -/
def prefixUnary (sign : Kind) (operand : Node) : Node :=
  compose (.construct .prefixUnaryExpression) [keyword sign, operand]

/-- A conditional expression. -/
def conditional (condition whenTrue whenFalse : Node) : Node :=
  compose (.construct .conditionalExpression)
    [condition, mark .question, whenTrue, mark .colon, whenFalse]

/-- Several nodes grouped as one list node. -/
def listNode (items : List Node) : Node :=
  compose (.construct .syntaxList) items

/-- A whole file: its statements and the mark that ends it. -/
def sourceFile (statements : List Node) : Node :=
  compose (.construct .sourceFile) (statements ++ [mark .endOfFile])

end Node

end DuplicateLogic
