import Scripting.Script.Token
import Scripting.Text.Blank
import Scripting.Text.Split

/-!
# Cutting a script into tokens

`Lexer.scan` reads a script from front to back.  It stops at the first text that is no token, since
nothing behind it can be told apart.  Blanks and comments separate tokens; comments in slashes and
stars nest.
-/

namespace Scripting.Script

open Scripting.Text

/-- the rest of a script, and where its first character stands -/
structure Cursor where
  rest : List Char
  pos : Pos
deriving Inhabited

namespace Cursor

def start (s : String) : Cursor := ⟨s.toList, ⟨1, 1⟩⟩

/-- the place behind a character -/
def after (c : Char) (p : Pos) : Pos := if c = '\n' then ⟨p.line + 1, 1⟩ else ⟨p.line, p.col + 1⟩

/-- behind the next character -/
def advance (k : Cursor) : Cursor :=
  match k.rest with
  | [] => k
  | c :: cs => ⟨cs, after c k.pos⟩

/-- behind the next `n` characters -/
def skip : Nat → Cursor → Cursor
  | 0, k => k
  | n + 1, k => skip n k.advance

def next? (k : Cursor) : Option Char := k.rest.head?

/-- whether `word` comes next -/
def sees (k : Cursor) (word : String) : Bool := (dropWord? word.toList k.rest).isSome

/-- the characters up to the first that `p` does not hold of, and the cursor there -/
def takeWhile (p : Char → Bool) : List Char → Pos → List Char × Cursor
  | [], pos => ([], ⟨[], pos⟩)
  | c :: cs, pos =>
    if p c then
      let (taken, k) := takeWhile p cs (after c pos)
      (c :: taken, k)
    else ([], ⟨c :: cs, pos⟩)

end Cursor

namespace Lexer

open Cursor

/-! ## Blanks and comments -/

/-- behind a comment that is open `depth` times -/
def skipComment : Nat → List Char → Pos → Cursor
  | _, [], pos => ⟨[], pos⟩
  | depth, '/' :: '*' :: cs, pos => skipComment (depth + 1) cs ⟨pos.line, pos.col + 2⟩
  | depth, '*' :: '/' :: cs, pos =>
    if depth ≤ 1 then ⟨cs, ⟨pos.line, pos.col + 2⟩⟩
    else skipComment (depth - 1) cs ⟨pos.line, pos.col + 2⟩
  | depth, c :: cs, pos => skipComment depth cs (after c pos)

/-- the characters that separate tokens; other blanks may stand in texts and comments alone -/
def isSeparator (c : Char) : Bool :=
  c == ' ' || c == '\t' || c == '\r' || c == '\n' || c == '\x0c'

/-- behind blanks and comments -/
def skipBlanks : Nat → Cursor → Cursor
  | 0, k => k
  | fuel + 1, k =>
    match k.rest with
    | [] => k
    | '/' :: '/' :: _ => skipBlanks fuel (takeWhile (· != '\n') k.rest k.pos).2
    | '/' :: '*' :: _ => skipBlanks fuel (skipComment 0 k.rest k.pos)
    | c :: _ => if isSeparator c then skipBlanks fuel k.advance else k

/-! ## Texts -/

/-- how a kind of text is written -/
structure TextStyle where
  quote : Char
  /-- line ends and backslashes stand for themselves -/
  verbatim : Bool
  /-- a line may end in a backslash and go on -/
  continues : Bool
  /-- expressions may stand in braces behind a dollar sign -/
  interpolates : Bool

def TextStyle.double : TextStyle := ⟨'"', false, true, false⟩
def TextStyle.single : TextStyle := ⟨'\'', false, false, false⟩
def TextStyle.back : TextStyle := ⟨'`', true, false, true⟩

/-- text that was read, the last character first, and how many bytes it takes -/
structure Read where
  reversed : List Char := []
  bytes : Nat := 0

def Read.push (r : Read) (c : Char) : Read := ⟨c :: r.reversed, r.bytes + c.utf8Size⟩
def Read.text (r : Read) : String := String.ofList r.reversed.reverse

/-- how a text ended: at its quote or before an expression -/
inductive Ending where
  | closed | expression
deriving DecidableEq

abbrev Scan (α : Type) := Except (LexFault × Pos) α

/-- the hexadecimal digits of an escape; `seen` is the escape up to here -/
def codeDigits : Nat → Nat → String → Cursor → Scan (Nat × String × Cursor)
  | 0, code, seen, k => .ok (code, seen, k)
  | n + 1, code, seen, k =>
    match k.rest with
    | [] => .error (.badEscape seen, k.pos)
    | c :: _ =>
      match digitValue? 16 c with
      | none => .error (.badEscape (seen.push c), k.pos)
      | some d => codeDigits n (code * 16 + d) (seen.push c) k.advance

/-- the character of an escape that gives its code, behind the letter that says how long it is -/
def codeEscape (letter : Char) (length : Nat) (k : Cursor) : Scan (Char × Cursor) := do
  let (code, seen, k') ← codeDigits length 0 ("\\".push letter) k
  if h : code.isValidChar then .ok (Char.ofNatAux code h, k')
  else .error (.badEscape seen, ⟨k'.pos.line, k'.pos.col - 1⟩)

/-- the character of an escape behind its backslash -/
def escape (style : TextStyle) (c : Char) (k : Cursor) : Scan (Char × Cursor) :=
  match c with
  | '\\' => .ok ('\\', k.advance)
  | 't' => .ok ('\t', k.advance)
  | 'n' => .ok ('\n', k.advance)
  | 'r' => .ok ('\r', k.advance)
  | 'x' => codeEscape 'x' 2 k.advance
  | 'u' => codeEscape 'u' 4 k.advance
  | 'U' => codeEscape 'U' 8 k.advance
  | _ => if c = style.quote then .ok (c, k.advance) else .error (.badEscape ("\\".push c), k.pos)

/-- A text behind its quote.  `start` is where it began, and blanks before column `indent` of a line
that goes on are left out.  A script that ends where a line should go on ends the text. -/
def textBody (style : TextStyle) (limit : Nat) (start : Pos) :
    Nat → Nat → Read → Cursor → Scan (Read × Ending × Cursor)
  | 0, _, _, _ => .error (.unterminatedText, start)
  | fuel + 1, indent, r, k =>
    match k.rest with
    | [] => .error (.unterminatedText, start)
    | c :: cs =>
      if limit ≠ 0 ∧ r.bytes > limit then .error (.textTooLong limit, start)
      else if style.interpolates ∧ c = '$' ∧ cs.head? = some '\x7b' then
        .ok (r, .expression, k.advance)
      else if c = style.quote then
        if cs.head? = some c then textBody style limit start fuel 0 (r.push c) k.advance.advance
        else .ok (r, .closed, k.advance)
      else if c = '\r' ∧ cs.head? = some '\n' then
        textBody style limit start fuel indent r k.advance
      else if c = '\\' ∧ !style.verbatim then
        match cs with
        | [] =>
          if style.continues then .ok (r, .closed, ⟨[], ⟨k.pos.line, k.pos.col + 2⟩⟩)
          else .error (.unterminatedText, start)
        | '\n' :: _ =>
          if style.continues then
            textBody style limit start fuel (start.col + 1) r k.advance.advance
          else .error (.unterminatedText, start)
        | '\r' :: '\n' :: _ =>
          if style.continues then
            textBody style limit start fuel (start.col + 1) r (skip 3 k)
          else .error (.unterminatedText, start)
        | e :: _ =>
          match escape style e k.advance with
          | .error fault => .error fault
          | .ok (d, k) => textBody style limit start fuel 0 (r.push d) k
      else if c = '\n' ∧ !style.verbatim then .error (.unterminatedText, start)
      else if isBlank c ∧ k.pos.col < indent then
        textBody style limit start fuel indent r k.advance
      else textBody style limit start fuel 0 (r.push c) k.advance

/-- a text behind its quote, with the limit on its size -/
def text (style : TextStyle) (limit : Nat) (start : Pos) (k : Cursor) :
    Scan (String × Ending × Cursor) :=
  (textBody style limit start (k.rest.length + 1) 0 {} k).map fun (r, ending, k) =>
    (r.text, ending, k)

/-- a line break directly behind a backtick is not part of the text -/
def dropLineBreak (k : Cursor) : Cursor :=
  match k.rest with
  | '\r' :: '\n' :: cs => ⟨cs, ⟨k.pos.line + 1, 1⟩⟩
  | '\r' :: cs => ⟨cs, ⟨k.pos.line + 1, 1⟩⟩
  | '\n' :: cs => ⟨cs, ⟨k.pos.line + 1, 1⟩⟩
  | _ => k

/-! ## Numbers -/

/-- what a number may go on with -/
inductive NumberPart where
  | stop
  | pass
  | take
  /-- a point that a digit follows, or a mark of an exponent -/
  | takeWith (more : Nat) (written : List Char)

def startsWord (c : Char) : Bool := isLetter c || c == '_'

/-- how the rest of a number of the given radix goes on; `pointed` tells whether it has a point -/
def numberPart (radix : Nat) (pointed : Bool) (cs : List Char) : NumberPart :=
  match cs with
  | [] => .stop
  | '_' :: _ => .pass
  | c :: rest =>
    if (digitValue? radix c).isSome then .take
    else if c = '.' then
      if pointed then .stop else
      match rest with
      | [] => .takeWith 1 ['.', '0']
      | d :: _ =>
        if isDigit d then .takeWith 1 ['.']
        else if d = '_' ∨ d = '.' ∨ startsWord d then .stop
        else .takeWith 1 ['.', '0']
    else if c = 'e' ∨ c = 'E' then
      match rest with
      | d :: _ =>
        if isDigit d then .takeWith 1 [c]
        else if d = '+' ∨ d = '-' then .takeWith 2 [c, d]
        else .stop
      | [] => .stop
    else .stop

/-- the characters of a number, without underscores -/
def numberBody (radix : Nat) : Nat → Bool → Cursor → List Char × Cursor
  | 0, _, k => ([], k)
  | fuel + 1, pointed, k =>
    match numberPart radix pointed k.rest with
    | .stop => ([], k)
    | .pass => numberBody radix fuel pointed k.advance
    | .take =>
      let (more, k') := numberBody radix fuel pointed k.advance
      (k.rest.take 1 ++ more, k')
    | .takeWith n written =>
      let (more, k') := numberBody radix fuel (pointed || written.contains '.') (skip n k)
      (written ++ more, k')

def wholeNumber (radix : Nat) (cs : List Char) : Nat :=
  cs.foldl (fun n c => n * radix + (digitValue? radix c).getD 0) 0

/-- an exponent with its sign, if there is at least one digit and nothing else -/
def exponent? (cs : List Char) : Option Int :=
  let (sign, ds) : Int × List Char := match cs with
    | '+' :: ds => (1, ds)
    | '-' :: ds => (-1, ds)
    | _ => (1, cs)
  if ds.isEmpty ∨ !ds.all isDigit then none else some (sign * wholeNumber 10 ds)

/-- the floating-point number that decimal digits, a point and an exponent spell -/
def float? (cs : List Char) : Option Float := do
  let mantissa := cs.takeWhile fun c => c != 'e' && c != 'E'
  let exponent ← match cs.dropWhile fun c => c != 'e' && c != 'E' with
    | [] => some 0
    | _ :: ds => exponent? ds
  let whole := mantissa.takeWhile isDigit
  let fraction ← match mantissa.dropWhile isDigit with
    | [] => some []
    | '.' :: ds => if ds.all isDigit then some ds else none
    | _ => none
  let scale : Int := exponent - fraction.length
  some (Float.ofScientific (wholeNumber 10 (whole ++ fraction)) (decide (scale < 0)) scale.natAbs)

/-- the characters of a number with its sign -/
def signed (negative : Bool) (cs : List Char) : String :=
  String.ofList (if negative then '-' :: cs else cs)

/-- a whole number within 64 bits stays one, and a larger one becomes a floating-point number -/
def decimalToken (negative : Bool) (cs : List Char) : Token :=
  let n := wholeNumber 10 cs
  if cs.all isDigit ∧ (if negative then n ≤ Nat.pow 2 63 else n < Nat.pow 2 63) then
    .int (if negative then -(n : Int) else n)
  else match float? cs with
    | some x => .float (if negative then -x else x)
    | none => .bad (.badNumber (signed negative cs))

/-- a number in another radix fills 64 bits, the highest of which is the sign -/
def radixToken (negative : Bool) (mark : Char) (radix : Nat) (cs : List Char) : Token :=
  let n := wholeNumber radix cs
  if cs.isEmpty ∨ Nat.pow 2 64 ≤ n ∨ !cs.all (fun c => (digitValue? radix c).isSome) then
    .bad (.badNumber (signed negative ('0' :: mark :: cs)))
  else
    let i : Int := if n < Nat.pow 2 63 then n else (n : Int) - Nat.pow 2 64
    .int (if negative then Int.bmod (-i) (Nat.pow 2 64) else i)

def radixOf? (c : Char) : Option Nat :=
  if c = 'x' ∨ c = 'X' then some 16
  else if c = 'o' ∨ c = 'O' then some 8
  else if c = 'b' ∨ c = 'B' then some 2
  else none

/-- a number behind its sign, standing on its first digit -/
def number (negative : Bool) (k : Cursor) : Token × Cursor :=
  let decimal (_ : Unit) :=
    let (cs, k') := numberBody 10 (k.rest.length + 1) false k
    (decimalToken negative cs, k')
  match k.rest with
  | '0' :: mark :: _ =>
    match radixOf? mark with
    | some radix =>
      let (cs, k') := numberBody radix (k.rest.length + 1) false (skip 2 k)
      (radixToken negative mark radix cs, k')
    | none => decimal ()
  | _ => decimal ()

/-! ## Tokens -/

/-- a symbol, the longest that fits -/
def symbol (k : Cursor) : Token × Cursor :=
  let known := Token.symbols.find? fun s => k.sees s
  let refused := Token.reservedSymbols.find? fun s =>
    k.sees s.1 && decide ((known.elim 0 String.length) < s.1.length)
  match refused, known with
  | some (_, some hint), _ => (.bad (.symbol hint), k)
  | some (s, none), _ => (.reserved s, skip s.length k)
  | none, some s => (.mark s, skip s.length k)
  | none, none => (.bad (.unexpected (k.next?.getD ' ')), k)

/-- what the lexer is inside of: for each text that is interrupted by an expression, the innermost
first, how many braces are open in that expression -/
abbrev Nesting := List Nat

/-- a text in backticks or a further part of one -/
def backtick (limit : Nat) (start : Pos) (nesting : Nesting) (k : Cursor) :
    Token × Cursor × Nesting :=
  match text .back limit start k with
  | .error (fault, _) => (.bad fault, k, nesting)
  | .ok (s, .closed, k) => (.text s, k, nesting)
  | .ok (s, .expression, k) => (.opening s, k, 0 :: nesting)

/-- a text or character in quotes -/
def quoted (style : TextStyle) (limit : Nat) (start : Pos) (k : Cursor)
    (make : String → Token) : Located × Cursor :=
  match text style limit start k with
  | .error (fault, pos) => (⟨.bad fault, pos⟩, k)
  | .ok (s, _, k) => (⟨make s, start⟩, k)

def charToken (s : String) : Token :=
  match s.toList with
  | [c] => .char c
  | _ => .bad (.badCharacter s)

/-- braces that open and close inside an expression in a text -/
def openBrace : Nesting → Nesting
  | [] => []
  | n :: ns => (n + 1) :: ns

/-- whether a minus sign and a digit come next -/
def seesNegative (k : Cursor) : Bool :=
  match k.rest with
  | '-' :: d :: _ => isDigit d
  | _ => false

/-- the next token, standing on its first character; `operand` tells whether a sign may be that of a
number -/
def token (limit : Nat) (nesting : Nesting) (operand : Bool) (k : Cursor) :
    Located × Cursor × Nesting :=
  match k.rest with
  | [] => (⟨.eof, k.pos⟩, k, nesting)
  | c :: _ =>
    if operand && seesNegative k then
      let (t, k') := number true k.advance
      (⟨t, k.pos⟩, k', nesting)
    else if isDigit c then
      let (t, k') := number false k
      (⟨t, k.pos⟩, k', nesting)
    else if startsWord c then
      let (cs, k') := takeWhile isWordChar k.rest k.pos
      (⟨Token.ofWord cs, k.pos⟩, k', nesting)
    else if c = '"' then
      let (t, k') := quoted .double limit k.pos k.advance .text
      (t, k', nesting)
    else if k.sees "''" then (⟨.bad (.badCharacter ""), k.pos⟩, k, nesting)
    else if c = '\'' then
      let (t, k') := quoted .single limit k.pos k.advance charToken
      (t, k', nesting)
    else if c = '`' then
      let (t, k', nesting) := backtick limit k.pos nesting (dropLineBreak k.advance)
      (⟨t, k.pos⟩, k', nesting)
    else
      let (t, k') := symbol k
      let nesting := match t with
        | .mark "\x7b" | .mark "#\x7b" => openBrace nesting
        | _ => nesting
      (⟨t, k.pos⟩, k', nesting)

/-- a fault of a text behind an expression inside it; a text without a character is nowhere -/
def resumedFault (fault : LexFault) (k : Cursor) : Located :=
  ⟨.bad fault, if k.rest.isEmpty then ⟨0, 0⟩ else k.pos⟩

/-- the tokens behind a cursor, the last of which is the end of the text or a fault -/
def tokens (limit : Nat) : Nat → Nesting → Bool → Cursor → List Located
  | 0, _, _, k => [⟨.eof, k.pos⟩]
  | fuel + 1, nesting, operand, k =>
    let k := skipBlanks (k.rest.length + 1) k
    let (t, k', nesting) := token limit nesting operand k
    match t.token with
    | .eof | .bad _ => [t]
    | .mark "\x7d" =>
      match nesting with
      | [] => t :: tokens limit fuel [] false k'
      | 0 :: outer => t :: tokens limit fuel outer false k'
      | 1 :: outer =>
        let (s, k'', nesting) := backtick limit k'.pos outer k'
        match s with
        | .bad fault => [t, resumedFault fault k']
        | _ => t :: ⟨s, k'.pos⟩ :: tokens limit fuel nesting false k''
      | n :: outer => t :: tokens limit fuel ((n - 1) :: outer) false k'
    | _ => t :: tokens limit fuel nesting t.token.precedesOperand k'

/-- the tokens of a script in which no text may take more than `limit` bytes, if that is not zero -/
def scan (limit : Nat) (script : String) : List Located :=
  tokens limit (script.length + 1) [] true (Cursor.start script)

end Lexer

end Scripting.Script
