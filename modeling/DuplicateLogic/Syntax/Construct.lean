/-! # Composite forms

Statements, declarations and expressions that a tree file can name. -/

namespace DuplicateLogic

/-- A statement, a declaration, an expression or another composite form. -/
inductive Construct where
  | sourceFile
  | block
  | emptyStatement
  | expressionStatement
  | variableStatement
  | variableDeclarationList
  | variableDeclaration
  | ifStatement
  | switchStatement
  | caseBlock
  | caseClause
  | defaultClause
  | breakStatement
  | continueStatement
  | returnStatement
  | throwStatement
  | tryStatement
  | catchClause
  | whileStatement
  | doStatement
  | forStatement
  | forInStatement
  | forOfStatement
  | labeledStatement
  | withStatement
  | debuggerStatement
  | functionDeclaration
  | parameter
  | classDeclaration
  | heritageClause
  | propertyDeclaration
  | methodDeclaration
  | constructor
  | getAccessor
  | setAccessor
  | importDeclaration
  | importClause
  | namespaceImport
  | namedImports
  | importSpecifier
  | exportDeclaration
  | exportAssignment
  | namedExports
  | exportSpecifier
  | syntaxList
  | parenthesizedExpression
  | binaryExpression
  | prefixUnaryExpression
  | postfixUnaryExpression
  | conditionalExpression
  | callExpression
  | newExpression
  | propertyAccessExpression
  | elementAccessExpression
  | arrayLiteralExpression
  | objectLiteralExpression
  | propertyAssignment
  | shorthandPropertyAssignment
  | spreadAssignment
  | spreadElement
  | computedPropertyName
  | arrowFunction
  | functionExpression
  | classExpression
  | typeOfExpression
  | deleteExpression
  | voidExpression
  | awaitExpression
  | yieldExpression
  | templateExpression
  | templateSpan
  | taggedTemplateExpression
  | objectBindingPattern
  | arrayBindingPattern
  | bindingElement
  | omittedExpression
  deriving DecidableEq, Repr

namespace Construct

/-- The tag that names the form in a tree file. -/
def tag : Construct → String
  | sourceFile => "source-file"
  | block => "block"
  | emptyStatement => "empty-statement"
  | expressionStatement => "expression-statement"
  | variableStatement => "variable-statement"
  | variableDeclarationList => "variable-declaration-list"
  | variableDeclaration => "variable-declaration"
  | ifStatement => "if-statement"
  | switchStatement => "switch-statement"
  | caseBlock => "case-block"
  | caseClause => "case-clause"
  | defaultClause => "default-clause"
  | breakStatement => "break-statement"
  | continueStatement => "continue-statement"
  | returnStatement => "return-statement"
  | throwStatement => "throw-statement"
  | tryStatement => "try-statement"
  | catchClause => "catch-clause"
  | whileStatement => "while-statement"
  | doStatement => "do-statement"
  | forStatement => "for-statement"
  | forInStatement => "for-in-statement"
  | forOfStatement => "for-of-statement"
  | labeledStatement => "labeled-statement"
  | withStatement => "with-statement"
  | debuggerStatement => "debugger-statement"
  | functionDeclaration => "function-declaration"
  | parameter => "parameter"
  | classDeclaration => "class-declaration"
  | heritageClause => "heritage-clause"
  | propertyDeclaration => "property-declaration"
  | methodDeclaration => "method-declaration"
  | constructor => "constructor"
  | getAccessor => "get-accessor"
  | setAccessor => "set-accessor"
  | importDeclaration => "import-declaration"
  | importClause => "import-clause"
  | namespaceImport => "namespace-import"
  | namedImports => "named-imports"
  | importSpecifier => "import-specifier"
  | exportDeclaration => "export-declaration"
  | exportAssignment => "export-assignment"
  | namedExports => "named-exports"
  | exportSpecifier => "export-specifier"
  | syntaxList => "syntax-list"
  | parenthesizedExpression => "parenthesized-expression"
  | binaryExpression => "binary-expression"
  | prefixUnaryExpression => "prefix-unary-expression"
  | postfixUnaryExpression => "postfix-unary-expression"
  | conditionalExpression => "conditional-expression"
  | callExpression => "call-expression"
  | newExpression => "new-expression"
  | propertyAccessExpression => "property-access-expression"
  | elementAccessExpression => "element-access-expression"
  | arrayLiteralExpression => "array-literal-expression"
  | objectLiteralExpression => "object-literal-expression"
  | propertyAssignment => "property-assignment"
  | shorthandPropertyAssignment => "shorthand-property-assignment"
  | spreadAssignment => "spread-assignment"
  | spreadElement => "spread-element"
  | computedPropertyName => "computed-property-name"
  | arrowFunction => "arrow-function"
  | functionExpression => "function-expression"
  | classExpression => "class-expression"
  | typeOfExpression => "type-of-expression"
  | deleteExpression => "delete-expression"
  | voidExpression => "void-expression"
  | awaitExpression => "await-expression"
  | yieldExpression => "yield-expression"
  | templateExpression => "template-expression"
  | templateSpan => "template-span"
  | taggedTemplateExpression => "tagged-template-expression"
  | objectBindingPattern => "object-binding-pattern"
  | arrayBindingPattern => "array-binding-pattern"
  | bindingElement => "binding-element"
  | omittedExpression => "omitted-expression"

/-- Every form once, in declaration order. -/
def all : List Construct :=
  [.sourceFile, .block, .emptyStatement, .expressionStatement, .variableStatement,
    .variableDeclarationList, .variableDeclaration, .ifStatement, .switchStatement, .caseBlock,
    .caseClause, .defaultClause, .breakStatement, .continueStatement, .returnStatement,
    .throwStatement, .tryStatement, .catchClause, .whileStatement, .doStatement, .forStatement,
    .forInStatement, .forOfStatement, .labeledStatement, .withStatement, .debuggerStatement,
    .functionDeclaration, .parameter, .classDeclaration, .heritageClause, .propertyDeclaration,
    .methodDeclaration, .constructor, .getAccessor, .setAccessor, .importDeclaration,
    .importClause, .namespaceImport, .namedImports, .importSpecifier, .exportDeclaration,
    .exportAssignment, .namedExports, .exportSpecifier, .syntaxList, .parenthesizedExpression,
    .binaryExpression, .prefixUnaryExpression, .postfixUnaryExpression, .conditionalExpression,
    .callExpression, .newExpression, .propertyAccessExpression, .elementAccessExpression,
    .arrayLiteralExpression, .objectLiteralExpression, .propertyAssignment,
    .shorthandPropertyAssignment, .spreadAssignment, .spreadElement, .computedPropertyName,
    .arrowFunction, .functionExpression, .classExpression, .typeOfExpression, .deleteExpression,
    .voidExpression, .awaitExpression, .yieldExpression, .templateExpression, .templateSpan,
    .taggedTemplateExpression, .objectBindingPattern, .arrayBindingPattern, .bindingElement,
    .omittedExpression]

theorem mem_all (form : Construct) : form ∈ all := by
  cases form <;> decide

end Construct
end DuplicateLogic
