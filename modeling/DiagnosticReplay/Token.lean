import DiagnosticReplay.Text.Uppercase

/-! # Token kinds

The kinds of lexical tokens: the lexical classes, then punctuation, then the tokens that occur only
inside XML literals. Diagnostics name kinds, and recorded documents spell them in camel case.
-/

namespace DiagnosticReplay

/-- The kind of a lexical token. -/
inductive Token where
  | eof
  | identifier
  | stringLiteral
  | numericLiteral
  | regExpLiteral
  | keyword
  | operator
  | compoundAssignment
  | lCurly
  | rCurly
  | lParen
  | rParen
  | lSquare
  | rSquare
  | dot
  | questionDot
  | ellipsis
  | semicolon
  | comma
  | questionMark
  | exclamationMark
  | colon
  | assign
  | arrow
  | ltSlash
  | xmlName
  | xmlText
  | xmlMarkup
  | xmlWhitespace
  | xmlAttributeValue
deriving DecidableEq, Repr

namespace Token

/-- The lexical classes. -/
def lexicalClasses : List Token :=
  [eof, identifier, stringLiteral, numericLiteral, regExpLiteral, keyword, operator,
    compoundAssignment]

/-- The punctuation tokens. -/
def punctuation : List Token :=
  [lCurly, rCurly, lParen, rParen, lSquare, rSquare, dot, questionDot, ellipsis, semicolon, comma,
    questionMark, exclamationMark, colon, assign, arrow, ltSlash]

/-- The tokens that occur only inside XML literals. -/
def xml : List Token :=
  [xmlName, xmlText, xmlMarkup, xmlWhitespace, xmlAttributeValue]

/-- Every kind, in the order in which messages list them. -/
def all : List Token :=
  lexicalClasses ++ punctuation ++ xml

/-- The kind is a punctuation token. -/
def isPunctuation (kind : Token) : Bool :=
  punctuation.contains kind

/-- The kind occurs only inside XML literals. -/
def isXml (kind : Token) : Bool :=
  xml.contains kind

/-- The name of the kind in recorded documents. -/
def recordName : Token → String
  | eof => "eof"
  | identifier => "identifier"
  | stringLiteral => "stringLiteral"
  | numericLiteral => "numericLiteral"
  | regExpLiteral => "regExpLiteral"
  | keyword => "keyword"
  | operator => "operator"
  | compoundAssignment => "compoundAssignment"
  | lCurly => "lCurly"
  | rCurly => "rCurly"
  | lParen => "lParen"
  | rParen => "rParen"
  | lSquare => "lSquare"
  | rSquare => "rSquare"
  | dot => "dot"
  | questionDot => "questionDot"
  | ellipsis => "ellipsis"
  | semicolon => "semicolon"
  | comma => "comma"
  | questionMark => "questionMark"
  | exclamationMark => "exclamationMark"
  | colon => "colon"
  | assign => "assign"
  | arrow => "arrow"
  | ltSlash => "ltSlash"
  | xmlName => "xmlName"
  | xmlText => "xmlText"
  | xmlMarkup => "xmlMarkup"
  | xmlWhitespace => "xmlWhitespace"
  | xmlAttributeValue => "xmlAttributeValue"

/-- The name of the kind in log lines: the recorded name with a capital. -/
def logName (kind : Token) : String :=
  Text.capitalize kind.recordName

end Token

end DiagnosticReplay
