import ParamTree.Number
import ParamTree.Text.Quoted

/-!
# Tokens

The tokens of an expression, each with the place where it starts, counted in bytes of UTF-8, and
what can be wrong with the text of an expression.
-/

namespace ParamTree

inductive Symbol where
  | lParen
  | rParen
  | lBracket
  | rBracket
  | lBrace
  | rBrace
  | comma
  | dot
  | colon
  | question
  | plus
  | minus
  | star
  | slash
  | percent
  | bang
  | lt
  | le
  | gt
  | ge
  | eqEq
  | notEq
  | andAnd
  | orOr
deriving DecidableEq

def Symbol.name : Symbol → String
  | lParen => "LParen"
  | rParen => "RParen"
  | lBracket => "LBracket"
  | rBracket => "RBracket"
  | lBrace => "LBrace"
  | rBrace => "RBrace"
  | comma => "Comma"
  | dot => "Dot"
  | colon => "Colon"
  | question => "Question"
  | plus => "Plus"
  | minus => "Minus"
  | star => "Star"
  | slash => "Slash"
  | percent => "Percent"
  | bang => "Bang"
  | lt => "Lt"
  | le => "Le"
  | gt => "Gt"
  | ge => "Ge"
  | eqEq => "EqEq"
  | notEq => "NotEq"
  | andAnd => "AndAnd"
  | orOr => "OrOr"

inductive Token where
  | number (value : Number)
  | string (value : String)
  | ident (name : String)
  | symbol (sign : Symbol)
  | eof
deriving DecidableEq

def Token.describe : Token → String
  | .number value => s!"number `{value.text}`"
  | .string value => s!"string {Text.quoted value}"
  | .ident name => s!"`{name}`"
  | .symbol sign => sign.name
  | .eof => "end of expression"

structure Located where
  token : Token
  offset : Nat
deriving DecidableEq

inductive Expected where
  | conditionalColon
  | closingParen
  | closingBracket
  | parenAfterArguments
  | bracketAfterItems
  | braceAfterEntries
  | colonAfterKey
  | objectKey
  | propertyName
deriving DecidableEq

def Expected.text : Expected → String
  | conditionalColon => "`:` in conditional expression"
  | closingParen => "`)`"
  | closingBracket => "`]`"
  | parenAfterArguments => "`)` after arguments"
  | bracketAfterItems => "`]` after array items"
  | braceAfterEntries => "`\x7d` after object entries"
  | colonAfterKey => "`:` after object key"
  | objectKey => "object key"
  | propertyName => "property name after `.`"

inductive SyntaxFault where
  | unexpectedCharacter (c : Char)
  | assignment
  | invalidNumber (text : String)
  | unterminatedString
  | unknownEscape (c : Char)
  | truncatedEscape
  | invalidEscape (digits : String)
  | invalidCodePoint (digits : String)
  | unexpected (token : Token)
  | unexpectedAfter (token : Token)
  | expected (what : Expected) (found : Token)
  | notCallable
  | nestedTooDeeply
deriving DecidableEq

def SyntaxFault.message : SyntaxFault → String
  | unexpectedCharacter c => s!"unexpected character `{c}`"
  | assignment => "assignment is not supported, use `==`"
  | invalidNumber text => s!"invalid number `{text}`"
  | unterminatedString => "unterminated string literal"
  | unknownEscape c => s!"unknown escape `\\{c}`"
  | truncatedEscape => "truncated \\u escape"
  | invalidEscape digits => s!"invalid \\u escape `{digits}`"
  | invalidCodePoint digits => s!"invalid code point `{digits}`"
  | unexpected token => s!"unexpected {token.describe}"
  | unexpectedAfter token => s!"unexpected {token.describe} after expression"
  | expected what found => s!"expected {what.text}, found {found.describe}"
  | notCallable => "only named functions can be called"
  | nestedTooDeeply => "expression nested too deeply"

structure SyntaxError where
  fault : SyntaxFault
  offset : Nat
deriving DecidableEq

end ParamTree
