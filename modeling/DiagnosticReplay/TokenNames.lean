import DiagnosticReplay.Token

/-! # Token names

How token kinds read inside a message. The standard table names every lexical class and every
punctuation token, and none of the tokens inside XML literals. Where a list of entries repeats a
kind, the last entry decides.
-/

namespace DiagnosticReplay

/-- A table of display names, in which a later entry of a kind overrides an earlier one. -/
structure TokenNames where
  entries : List (Token × String)

namespace TokenNames

/-- The display names of the toolchain. -/
def standard : TokenNames where
  entries := [
    (.eof, "end of program"),
    (.identifier, "identifier"),
    (.stringLiteral, "string literal"),
    (.numericLiteral, "numeric literal"),
    (.regExpLiteral, "regular expression"),
    (.keyword, "keyword"),
    (.operator, "operator"),
    (.compoundAssignment, "assignment"),
    (.lCurly, "\x7b"),
    (.rCurly, "\x7d"),
    (.lParen, "("),
    (.rParen, ")"),
    (.lSquare, "["),
    (.rSquare, "]"),
    (.dot, "."),
    (.questionDot, "?."),
    (.ellipsis, "..."),
    (.semicolon, ";"),
    (.comma, ","),
    (.questionMark, "?"),
    (.exclamationMark, "!"),
    (.colon, ":"),
    (.assign, "="),
    (.arrow, "->"),
    (.ltSlash, "</")]

/-- The display name of a kind, if the table has one. -/
def name? (names : TokenNames) (kind : Token) : Option String :=
  names.entries.reverse.lookup kind

end TokenNames

end DiagnosticReplay
