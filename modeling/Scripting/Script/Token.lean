import Scripting.Script.Identifier

/-!
# Tokens of the script language

A token is a literal, a name, a reserved word, or a keyword or symbol told by its spelling.  Text in
backticks may hold expressions; it becomes several tokens, of which all but the last are
`Token.opening`, each followed by the tokens of one block.
-/

namespace Scripting.Script

/-- a place in a script; lines and columns count from one -/
structure Pos where
  line : Nat
  col : Nat
deriving DecidableEq, Repr, Inhabited

/-- text that is no token -/
inductive LexFault where
  | unterminatedText
  | textTooLong (limit : Nat)
  | badEscape (sequence : String)
  | badNumber (text : String)
  | badCharacter (text : String)
  | badName (text : String)
  | unexpected (c : Char)
  /-- a symbol with a hint on what may have been meant -/
  | symbol (hint : String)
deriving DecidableEq, Repr, Inhabited

def LexFault.message : LexFault → String
  | .unterminatedText => "Open string is not terminated"
  | .textTooLong limit => "Length of string exceeds the maximum limit (" ++ toString limit ++ ")"
  | .badEscape sequence => "Invalid escape sequence: '" ++ sequence ++ "'"
  | .badNumber text => "Invalid number: '" ++ text ++ "'"
  | .badCharacter text => "Invalid character: '" ++ text ++ "'"
  | .badName text => "Variable name is not proper: '" ++ text ++ "'"
  | .unexpected c => "Unexpected '" ++ String.singleton c ++ "'"
  | .symbol hint => hint

inductive Token where
  | int (i : Int)
  | float (x : Float)
  | text (s : String)
  /-- text up to an expression inside it -/
  | opening (s : String)
  | char (c : Char)
  | name (s : String)
  /-- a word or symbol that the language keeps for itself -/
  | reserved (s : String)
  /-- a keyword or symbol -/
  | mark (s : String)
  | bad (fault : LexFault)
  | eof
deriving Inhabited

namespace Token

def keywords : List String :=
  ["true", "false", "let", "const", "if", "else", "switch", "do", "while", "until", "loop",
    "for", "in", "continue", "break", "return", "throw", "try", "catch", "import", "export",
    "as", "global", "private", "fn"]

/-- reserved words that may be called like a function -/
def callable : List String :=
  ["print", "debug", "type_of", "eval", "Fn", "call", "curry", "is_def_var", "is_def_fn",
    "is_shared"]

/-- reserved words that may follow a dot -/
def methods : List String := ["call", "curry", "type_of", "is_shared"]

/-- the symbols that mean something, a longer one before each one that it starts with -/
def symbols : List String :=
  ["..=", "**=", "<<=", ">>=", "()", "#\x7b", "+=", "-=", "*=", "/=", "%=", "==", "!=", "<=",
    ">=", "&&", "||", "::", "..", "=>", "**", "<<", ">>", "|=", "&=", "^=", "??", "?.", "?[",
    "\x7b", "\x7d", "(", ")", "[", "]", "+", "-", "*", "/", "%", "=", "<", ">", "!", ",", ";",
    ":", ".", "|", "&", "^"]

/-- symbols that mean nothing, with what to say of those that another one is meant by -/
def reservedSymbols : List (String × Option String) :=
  [("===", some "'===' is not a valid operator. This is not JavaScript! Should it be '=='?"),
    ("!==", some "'!==' is not a valid operator. This is not JavaScript! Should it be '!='?"),
    ("...", none),
    ("::<", some "'::<>' is not a valid symbol. This is not Rust! Should it be '::'?"),
    ("->", some "'->' is not a valid symbol. This is not C or C++!"),
    ("<-", some "'<-' is not a valid symbol. This is not Go! Should it be '<='?"),
    (":=", some ("':=' is not a valid assignment operator. This is not Go or Pascal! " ++
      "Should it be simply '='?")),
    (":;", some "':;' is not a valid symbol. Should it be '::'?"),
    ("(*", some ("'(* .. *)' is not a valid comment format. This is not Pascal! " ++
      "Should it be '/* .. */'?")),
    ("*)", some ("'(* .. *)' is not a valid comment format. This is not Pascal! " ++
      "Should it be '/* .. */'?")),
    ("++", none), ("--", none), ("#!", none), ("#", none), ("~", none), ("@", none),
    ("$", none), ("?", none)]

/-- the marks that an operand may follow -/
def operandMarks : List String :=
  [";", ":", ",", "??", "..", "..=", "\x7b", "(", "[", "+", "-", "*", "/", "%", "**", "<<", ">>",
    "=", "==", "!=", "<", ">", "<=", ">=", "!", "+=", "-=", "*=", "/=", "%=", "**=", "<<=", ">>=",
    "&=", "|=", "^=", "|", "||", "&", "&&", "^", "if", "while", "until", "in", "return", "throw"]

/-- whether a sign behind the token is that of a number -/
def precedesOperand : Token → Bool
  | .mark s => operandMarks.contains s
  | _ => false

/-- the token that a word spells -/
def ofWord (cs : List Char) : Token :=
  let s := String.ofList cs
  if keywords.contains s then .mark s
  else if reservedWords.contains s then .reserved s
  else if hasWordShape cs then .name s
  else .bad (.badName s)

/-- how a token is shown -/
def display : Token → String
  | .int i => toString i
  | .float _ => "number"
  | .text _ | .opening _ => "string"
  | .char c => String.singleton c
  | .name s | .reserved s | .mark s => s
  | .bad fault => fault.message
  | .eof => "\x7bEOF\x7d"

end Token

/-- a token where it starts -/
structure Located where
  token : Token
  pos : Pos
deriving Inhabited

end Scripting.Script
