/-! # Token forms

The leaves of a syntax tree fall into five closed groups: names and literals, punctuation,
operators, structural keywords, and keywords that are values. The groups decide how a leaf is
compared and whether it can fill an operand slot. -/

namespace DuplicateLogic

/-- A leaf whose spelling carries meaning: a name or a literal. -/
inductive Lexeme where
  | identifier
  | privateIdentifier
  | numericLiteral
  | bigIntLiteral
  | stringLiteral
  | regularExpressionLiteral
  | noSubstitutionTemplateLiteral
  | templateHead
  | templateMiddle
  | templateTail
  deriving DecidableEq, Repr

namespace Lexeme

/-- The tag that names the form in a tree file. -/
def tag : Lexeme → String
  | identifier => "identifier"
  | privateIdentifier => "private-identifier"
  | numericLiteral => "numeric-literal"
  | bigIntLiteral => "big-int-literal"
  | stringLiteral => "string-literal"
  | regularExpressionLiteral => "regular-expression-literal"
  | noSubstitutionTemplateLiteral => "no-substitution-template-literal"
  | templateHead => "template-head"
  | templateMiddle => "template-middle"
  | templateTail => "template-tail"

/-- Every form once, in declaration order. -/
def all : List Lexeme :=
  [.identifier, .privateIdentifier, .numericLiteral, .bigIntLiteral, .stringLiteral,
    .regularExpressionLiteral, .noSubstitutionTemplateLiteral, .templateHead, .templateMiddle,
    .templateTail]

theorem mem_all (form : Lexeme) : form ∈ all := by
  cases form <;> decide

end Lexeme

/-- A punctuation mark, or the empty mark that ends a file. -/
inductive Punctuation where
  | openBrace
  | closeBrace
  | openParen
  | closeParen
  | openBracket
  | closeBracket
  | dot
  | dotDotDot
  | questionDot
  | semicolon
  | comma
  | question
  | colon
  | atSign
  | equalsGreaterThan
  | endOfFile
  deriving DecidableEq, Repr

namespace Punctuation

/-- The tag that names the form in a tree file. -/
def tag : Punctuation → String
  | openBrace => "open-brace-token"
  | closeBrace => "close-brace-token"
  | openParen => "open-paren-token"
  | closeParen => "close-paren-token"
  | openBracket => "open-bracket-token"
  | closeBracket => "close-bracket-token"
  | dot => "dot-token"
  | dotDotDot => "dot-dot-dot-token"
  | questionDot => "question-dot-token"
  | semicolon => "semicolon-token"
  | comma => "comma-token"
  | question => "question-token"
  | colon => "colon-token"
  | atSign => "at-token"
  | equalsGreaterThan => "equals-greater-than-token"
  | endOfFile => "end-of-file-token"

/-- The only text the form is ever spelled with. -/
def spelling : Punctuation → String
  | openBrace => "\x7b"
  | closeBrace => "\x7d"
  | openParen => "("
  | closeParen => ")"
  | openBracket => "["
  | closeBracket => "]"
  | dot => "."
  | dotDotDot => "..."
  | questionDot => "?."
  | semicolon => ";"
  | comma => ","
  | question => "?"
  | colon => ":"
  | atSign => "@"
  | equalsGreaterThan => "=>"
  | endOfFile => ""

/-- Every form once, in declaration order. -/
def all : List Punctuation :=
  [.openBrace, .closeBrace, .openParen, .closeParen, .openBracket, .closeBracket, .dot,
    .dotDotDot, .questionDot, .semicolon, .comma, .question, .colon, .atSign,
    .equalsGreaterThan, .endOfFile]

theorem mem_all (form : Punctuation) : form ∈ all := by
  cases form <;> decide

end Punctuation

/-- An operator sign. -/
inductive Operator where
  | equals
  | plusEquals
  | minusEquals
  | asteriskEquals
  | asteriskAsteriskEquals
  | slashEquals
  | percentEquals
  | lessThanLessThanEquals
  | greaterThanGreaterThanEquals
  | greaterThanGreaterThanGreaterThanEquals
  | ampersandEquals
  | barEquals
  | caretEquals
  | ampersandAmpersandEquals
  | barBarEquals
  | questionQuestionEquals
  | plus
  | minus
  | asterisk
  | asteriskAsterisk
  | slash
  | percent
  | plusPlus
  | minusMinus
  | lessThanLessThan
  | greaterThanGreaterThan
  | greaterThanGreaterThanGreaterThan
  | exclamation
  | tilde
  | ampersand
  | bar
  | caret
  | ampersandAmpersand
  | barBar
  | questionQuestion
  | equalsEquals
  | equalsEqualsEquals
  | exclamationEquals
  | exclamationEqualsEquals
  | lessThan
  | greaterThan
  | lessThanEquals
  | greaterThanEquals
  deriving DecidableEq, Repr

namespace Operator

/-- The tag that names the form in a tree file. -/
def tag : Operator → String
  | equals => "equals-token"
  | plusEquals => "plus-equals-token"
  | minusEquals => "minus-equals-token"
  | asteriskEquals => "asterisk-equals-token"
  | asteriskAsteriskEquals => "asterisk-asterisk-equals-token"
  | slashEquals => "slash-equals-token"
  | percentEquals => "percent-equals-token"
  | lessThanLessThanEquals => "less-than-less-than-equals-token"
  | greaterThanGreaterThanEquals => "greater-than-greater-than-equals-token"
  | greaterThanGreaterThanGreaterThanEquals => "greater-than-greater-than-greater-than-equals-token"
  | ampersandEquals => "ampersand-equals-token"
  | barEquals => "bar-equals-token"
  | caretEquals => "caret-equals-token"
  | ampersandAmpersandEquals => "ampersand-ampersand-equals-token"
  | barBarEquals => "bar-bar-equals-token"
  | questionQuestionEquals => "question-question-equals-token"
  | plus => "plus-token"
  | minus => "minus-token"
  | asterisk => "asterisk-token"
  | asteriskAsterisk => "asterisk-asterisk-token"
  | slash => "slash-token"
  | percent => "percent-token"
  | plusPlus => "plus-plus-token"
  | minusMinus => "minus-minus-token"
  | lessThanLessThan => "less-than-less-than-token"
  | greaterThanGreaterThan => "greater-than-greater-than-token"
  | greaterThanGreaterThanGreaterThan => "greater-than-greater-than-greater-than-token"
  | exclamation => "exclamation-token"
  | tilde => "tilde-token"
  | ampersand => "ampersand-token"
  | bar => "bar-token"
  | caret => "caret-token"
  | ampersandAmpersand => "ampersand-ampersand-token"
  | barBar => "bar-bar-token"
  | questionQuestion => "question-question-token"
  | equalsEquals => "equals-equals-token"
  | equalsEqualsEquals => "equals-equals-equals-token"
  | exclamationEquals => "exclamation-equals-token"
  | exclamationEqualsEquals => "exclamation-equals-equals-token"
  | lessThan => "less-than-token"
  | greaterThan => "greater-than-token"
  | lessThanEquals => "less-than-equals-token"
  | greaterThanEquals => "greater-than-equals-token"

/-- The only text the form is ever spelled with. -/
def spelling : Operator → String
  | equals => "="
  | plusEquals => "+="
  | minusEquals => "-="
  | asteriskEquals => "*="
  | asteriskAsteriskEquals => "**="
  | slashEquals => "/="
  | percentEquals => "%="
  | lessThanLessThanEquals => "<<="
  | greaterThanGreaterThanEquals => ">>="
  | greaterThanGreaterThanGreaterThanEquals => ">>>="
  | ampersandEquals => "&="
  | barEquals => "|="
  | caretEquals => "^="
  | ampersandAmpersandEquals => "&&="
  | barBarEquals => "||="
  | questionQuestionEquals => "??="
  | plus => "+"
  | minus => "-"
  | asterisk => "*"
  | asteriskAsterisk => "**"
  | slash => "/"
  | percent => "%"
  | plusPlus => "++"
  | minusMinus => "--"
  | lessThanLessThan => "<<"
  | greaterThanGreaterThan => ">>"
  | greaterThanGreaterThanGreaterThan => ">>>"
  | exclamation => "!"
  | tilde => "~"
  | ampersand => "&"
  | bar => "|"
  | caret => "^"
  | ampersandAmpersand => "&&"
  | barBar => "||"
  | questionQuestion => "??"
  | equalsEquals => "=="
  | equalsEqualsEquals => "==="
  | exclamationEquals => "!="
  | exclamationEqualsEquals => "!=="
  | lessThan => "<"
  | greaterThan => ">"
  | lessThanEquals => "<="
  | greaterThanEquals => ">="

/-- Every form once, in declaration order. -/
def all : List Operator :=
  [.equals, .plusEquals, .minusEquals, .asteriskEquals, .asteriskAsteriskEquals, .slashEquals,
    .percentEquals, .lessThanLessThanEquals, .greaterThanGreaterThanEquals,
    .greaterThanGreaterThanGreaterThanEquals, .ampersandEquals, .barEquals, .caretEquals,
    .ampersandAmpersandEquals, .barBarEquals, .questionQuestionEquals, .plus, .minus, .asterisk,
    .asteriskAsterisk, .slash, .percent, .plusPlus, .minusMinus, .lessThanLessThan,
    .greaterThanGreaterThan, .greaterThanGreaterThanGreaterThan, .exclamation, .tilde,
    .ampersand, .bar, .caret, .ampersandAmpersand, .barBar, .questionQuestion, .equalsEquals,
    .equalsEqualsEquals, .exclamationEquals, .exclamationEqualsEquals, .lessThan, .greaterThan,
    .lessThanEquals, .greaterThanEquals]

theorem mem_all (form : Operator) : form ∈ all := by
  cases form <;> decide

end Operator

/-- A keyword that gives a statement or expression its shape. -/
inductive Keyword where
  | ifKeyword
  | elseKeyword
  | switchKeyword
  | caseKeyword
  | defaultKeyword
  | breakKeyword
  | continueKeyword
  | returnKeyword
  | throwKeyword
  | tryKeyword
  | catchKeyword
  | finallyKeyword
  | varKeyword
  | letKeyword
  | constKeyword
  | functionKeyword
  | classKeyword
  | extendsKeyword
  | staticKeyword
  | getKeyword
  | setKeyword
  | asyncKeyword
  | awaitKeyword
  | yieldKeyword
  | importKeyword
  | exportKeyword
  | fromKeyword
  | asKeyword
  | whileKeyword
  | doKeyword
  | forKeyword
  | inKeyword
  | ofKeyword
  | withKeyword
  | debuggerKeyword
  | newKeyword
  | deleteKeyword
  | voidKeyword
  | typeOfKeyword
  | instanceOfKeyword
  deriving DecidableEq, Repr

namespace Keyword

/-- The tag that names the form in a tree file. -/
def tag : Keyword → String
  | ifKeyword => "if-keyword"
  | elseKeyword => "else-keyword"
  | switchKeyword => "switch-keyword"
  | caseKeyword => "case-keyword"
  | defaultKeyword => "default-keyword"
  | breakKeyword => "break-keyword"
  | continueKeyword => "continue-keyword"
  | returnKeyword => "return-keyword"
  | throwKeyword => "throw-keyword"
  | tryKeyword => "try-keyword"
  | catchKeyword => "catch-keyword"
  | finallyKeyword => "finally-keyword"
  | varKeyword => "var-keyword"
  | letKeyword => "let-keyword"
  | constKeyword => "const-keyword"
  | functionKeyword => "function-keyword"
  | classKeyword => "class-keyword"
  | extendsKeyword => "extends-keyword"
  | staticKeyword => "static-keyword"
  | getKeyword => "get-keyword"
  | setKeyword => "set-keyword"
  | asyncKeyword => "async-keyword"
  | awaitKeyword => "await-keyword"
  | yieldKeyword => "yield-keyword"
  | importKeyword => "import-keyword"
  | exportKeyword => "export-keyword"
  | fromKeyword => "from-keyword"
  | asKeyword => "as-keyword"
  | whileKeyword => "while-keyword"
  | doKeyword => "do-keyword"
  | forKeyword => "for-keyword"
  | inKeyword => "in-keyword"
  | ofKeyword => "of-keyword"
  | withKeyword => "with-keyword"
  | debuggerKeyword => "debugger-keyword"
  | newKeyword => "new-keyword"
  | deleteKeyword => "delete-keyword"
  | voidKeyword => "void-keyword"
  | typeOfKeyword => "type-of-keyword"
  | instanceOfKeyword => "instance-of-keyword"

/-- The only text the form is ever spelled with. -/
def spelling : Keyword → String
  | ifKeyword => "if"
  | elseKeyword => "else"
  | switchKeyword => "switch"
  | caseKeyword => "case"
  | defaultKeyword => "default"
  | breakKeyword => "break"
  | continueKeyword => "continue"
  | returnKeyword => "return"
  | throwKeyword => "throw"
  | tryKeyword => "try"
  | catchKeyword => "catch"
  | finallyKeyword => "finally"
  | varKeyword => "var"
  | letKeyword => "let"
  | constKeyword => "const"
  | functionKeyword => "function"
  | classKeyword => "class"
  | extendsKeyword => "extends"
  | staticKeyword => "static"
  | getKeyword => "get"
  | setKeyword => "set"
  | asyncKeyword => "async"
  | awaitKeyword => "await"
  | yieldKeyword => "yield"
  | importKeyword => "import"
  | exportKeyword => "export"
  | fromKeyword => "from"
  | asKeyword => "as"
  | whileKeyword => "while"
  | doKeyword => "do"
  | forKeyword => "for"
  | inKeyword => "in"
  | ofKeyword => "of"
  | withKeyword => "with"
  | debuggerKeyword => "debugger"
  | newKeyword => "new"
  | deleteKeyword => "delete"
  | voidKeyword => "void"
  | typeOfKeyword => "typeof"
  | instanceOfKeyword => "instanceof"

/-- Every form once, in declaration order. -/
def all : List Keyword :=
  [.ifKeyword, .elseKeyword, .switchKeyword, .caseKeyword, .defaultKeyword, .breakKeyword,
    .continueKeyword, .returnKeyword, .throwKeyword, .tryKeyword, .catchKeyword,
    .finallyKeyword, .varKeyword, .letKeyword, .constKeyword, .functionKeyword, .classKeyword,
    .extendsKeyword, .staticKeyword, .getKeyword, .setKeyword, .asyncKeyword, .awaitKeyword,
    .yieldKeyword, .importKeyword, .exportKeyword, .fromKeyword, .asKeyword, .whileKeyword,
    .doKeyword, .forKeyword, .inKeyword, .ofKeyword, .withKeyword, .debuggerKeyword,
    .newKeyword, .deleteKeyword, .voidKeyword, .typeOfKeyword, .instanceOfKeyword]

theorem mem_all (form : Keyword) : form ∈ all := by
  cases form <;> decide

end Keyword

/-- A keyword that is an expression of its own. -/
inductive ValueKeyword where
  | trueKeyword
  | falseKeyword
  | nullKeyword
  | thisKeyword
  | superKeyword
  deriving DecidableEq, Repr

namespace ValueKeyword

/-- The tag that names the form in a tree file. -/
def tag : ValueKeyword → String
  | trueKeyword => "true-keyword"
  | falseKeyword => "false-keyword"
  | nullKeyword => "null-keyword"
  | thisKeyword => "this-keyword"
  | superKeyword => "super-keyword"

/-- The only text the form is ever spelled with. -/
def spelling : ValueKeyword → String
  | trueKeyword => "true"
  | falseKeyword => "false"
  | nullKeyword => "null"
  | thisKeyword => "this"
  | superKeyword => "super"

/-- Every form once, in declaration order. -/
def all : List ValueKeyword :=
  [.trueKeyword, .falseKeyword, .nullKeyword, .thisKeyword, .superKeyword]

theorem mem_all (form : ValueKeyword) : form ∈ all := by
  cases form <;> decide

end ValueKeyword

end DuplicateLogic
