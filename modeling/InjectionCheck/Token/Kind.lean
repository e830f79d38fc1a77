import InjectionCheck.Text.Span

/-!
# Kinds of tokens

A token is a reserved word, a punctuation mark, a name, a literal, or something
that is none of these. Words such as `from`, `as` or `readonly` are names: only
their place makes them special.

The end of the file is no token. Where a rule asks for the kind of the next token
and there is none, the kind is absent.
-/

set_option autoImplicit false

namespace InjectionCheck

/-- A reserved word. It never is a name, but may name a property or a member. -/
inductive Keyword where
  | import_
  | export_
  | const_
  | let_
  | var_
  | class_
  | interface_
  | extends_
  | implements_
  | new_
  | function_
  | return_
  | enum_
  | default_
  | typeof_
  | true_
  | false_
  | null_
  | void_
  | this_
deriving DecidableEq, Repr, Inhabited

namespace Keyword

/-- The reserved words. -/
def all : List Keyword :=
  [
    .import_, .export_, .const_, .let_, .var_, .class_, .interface_, .extends_, .implements_,
    .new_, .function_, .return_, .enum_, .default_, .typeof_, .true_, .false_, .null_, .void_,
    .this_]

/-- The spelling of a reserved word. -/
def text : Keyword → String
  | .import_ => "import"
  | .export_ => "export"
  | .const_ => "const"
  | .let_ => "let"
  | .var_ => "var"
  | .class_ => "class"
  | .interface_ => "interface"
  | .extends_ => "extends"
  | .implements_ => "implements"
  | .new_ => "new"
  | .function_ => "function"
  | .return_ => "return"
  | .enum_ => "enum"
  | .default_ => "default"
  | .typeof_ => "typeof"
  | .true_ => "true"
  | .false_ => "false"
  | .null_ => "null"
  | .void_ => "void"
  | .this_ => "this"

/-- The reserved word with a given spelling. -/
def ofText? (spelling : String) : Option Keyword :=
  all.find? fun word => word.text = spelling

end Keyword

/-- A punctuation mark. -/
inductive Mark where
  | ellipsis
  | eqEqEq
  | notEqEq
  | questionDot
  | questionQuestion
  | arrow
  | eqEq
  | notEq
  | ltEq
  | gtEq
  | ampAmp
  | pipePipe
  | at
  | lparen
  | rparen
  | lbrace
  | rbrace
  | lbracket
  | rbracket
  | comma
  | semicolon
  | colon
  | dot
  | question
  | eq
  | lt
  | gt
  | plus
  | minus
  | star
  | slash
  | percent
  | bang
  | amp
  | pipe
  | caret
  | tilde
deriving DecidableEq, Repr, Inhabited

namespace Mark

/-- The punctuation marks, longer ones first. -/
def all : List Mark :=
  [
    .ellipsis, .eqEqEq, .notEqEq, .questionDot, .questionQuestion, .arrow, .eqEq, .notEq,
    .ltEq, .gtEq, .ampAmp, .pipePipe, .at, .lparen, .rparen, .lbrace, .rbrace, .lbracket,
    .rbracket, .comma, .semicolon, .colon, .dot, .question, .eq, .lt, .gt, .plus, .minus,
    .star, .slash, .percent, .bang, .amp, .pipe, .caret, .tilde]

/-- The spelling of a punctuation mark. -/
def text : Mark → String
  | .ellipsis => "..."
  | .eqEqEq => "==="
  | .notEqEq => "!=="
  | .questionDot => "?."
  | .questionQuestion => "??"
  | .arrow => "=>"
  | .eqEq => "=="
  | .notEq => "!="
  | .ltEq => "<="
  | .gtEq => ">="
  | .ampAmp => "&&"
  | .pipePipe => "||"
  | .at => "@"
  | .lparen => "("
  | .rparen => ")"
  | .lbrace => "\x7b"
  | .rbrace => "\x7d"
  | .lbracket => "["
  | .rbracket => "]"
  | .comma => ","
  | .semicolon => ";"
  | .colon => ":"
  | .dot => "."
  | .question => "?"
  | .eq => "="
  | .lt => "<"
  | .gt => ">"
  | .plus => "+"
  | .minus => "-"
  | .star => "*"
  | .slash => "/"
  | .percent => "%"
  | .bang => "!"
  | .amp => "&"
  | .pipe => "|"
  | .caret => "^"
  | .tilde => "~"

/-- How tightly a mark binds as a binary operator, if it is one; higher binds
tighter. -/
def precedence? : Mark → Option Nat
  | .questionQuestion | .pipePipe => some 1
  | .ampAmp => some 2
  | .pipe => some 3
  | .caret => some 4
  | .amp => some 5
  | .eqEq | .eqEqEq | .notEq | .notEqEq => some 6
  | .lt | .gt | .ltEq | .gtEq => some 7
  | .plus | .minus => some 8
  | .star | .slash | .percent => some 9
  | _ => none

end Mark

/-- The three kinds of brackets that have to be balanced. -/
inductive Bracket where
  | paren
  | square
  | brace
deriving DecidableEq, Repr, Inhabited

namespace Bracket

/-- The mark that opens a bracket. -/
def opening : Bracket → Mark
  | .paren => .lparen
  | .square => .lbracket
  | .brace => .lbrace

/-- The mark that closes a bracket. -/
def closing : Bracket → Mark
  | .paren => .rparen
  | .square => .rbracket
  | .brace => .rbrace

/-- The bracket that a mark opens. -/
def openedBy? : Mark → Option Bracket
  | .lparen => some .paren
  | .lbracket => some .square
  | .lbrace => some .brace
  | _ => none

/-- The bracket that a mark closes. -/
def closedBy? : Mark → Option Bracket
  | .rparen => some .paren
  | .rbracket => some .square
  | .rbrace => some .brace
  | _ => none

end Bracket

/-- The kind of a token. -/
inductive Kind where
  /-- A name, with its text. -/
  | name (text : String)
  /-- A string literal, with what it denotes. -/
  | string (content : String)
  /-- A template literal, whose content is not looked at. -/
  | template
  | number
  | keyword (word : Keyword)
  | mark (mark : Mark)
  /-- A piece of text that is no token. -/
  | invalid
deriving DecidableEq, Repr, Inhabited

namespace Kind

/-- Whether two kinds agree up to the text of a name or of a string. -/
def agrees : Kind → Kind → Bool
  | .name _, .name _ => true
  | .string _, .string _ => true
  | first, second => first = second

/-- The spelling of a reserved word. -/
def keywordText? : Kind → Option String
  | .keyword word => some word.text
  | _ => none

/-- How tightly a token binds as a binary operator, if it is one. -/
def precedence? : Kind → Option Nat
  | .mark sign => sign.precedence?
  | _ => none

/-- The short name of a kind: the spelling where it is fixed. -/
def title : Kind → String
  | .name _ => "identifier"
  | .string _ => "string literal"
  | .template => "template literal"
  | .number => "number"
  | .keyword word => word.text
  | .mark sign => sign.text
  | .invalid => "invalid token"

/-- The short name of the kind of the next token. -/
def titleOrEnd : Option Kind → String
  | some kind => kind.title
  | none => "end of file"

/-- The next token as messages call it: spellings stand between marks. -/
def described : Option Kind → String
  | some (.keyword word) => s!"`{word.text}`"
  | some (.mark sign) => s!"`{sign.text}`"
  | other => titleOrEnd other

/-- The bracket that a token opens. -/
def opens? : Kind → Option Bracket
  | .mark sign => Bracket.openedBy? sign
  | _ => none

/-- The bracket that a token closes. -/
def closes? : Kind → Option Bracket
  | .mark sign => Bracket.closedBy? sign
  | _ => none

end Kind

/-- A token and where it stands. -/
structure Token where
  kind : Kind
  span : Span
deriving DecidableEq, Repr, Inhabited

end InjectionCheck
