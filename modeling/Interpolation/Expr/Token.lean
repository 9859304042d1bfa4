import Interpolation.Expr.Syntax
import Interpolation.Value.Shown
import Interpolation.Number.Reading
import Interpolation.Text.Quoted

/-!
# Tokens

The words of an expression. Blanks separate words and are dropped; a closing marker of a template
that stands outside of all brackets ends the words of the expression, whatever follows.

Main definitions:

* `Token`, `Lexeme`, `Symbol`: a word with its line, and the kinds of words.
* `TokenList`: the words of a source and how they end.
* `tokenize`: the words of a source.
-/

namespace Interpolation

open Interpolation.Text Interpolation.Number

/-- An operator, a bracket or a separator. -/
inductive Symbol where
  | add | subtract | divide | floorDivide | multiply | remainder | power | tilde
  | leftBracket | rightBracket | leftParenthesis | rightParenthesis | leftBrace | rightBrace
  | equal | unequal | greater | greaterEqual | less | lessEqual
  | assign | dot | colon | pipe | comma | semicolon
deriving DecidableEq, Repr

/-- How a symbol is written. -/
def Symbol.text : Symbol → String
  | .add => "+"
  | .subtract => "-"
  | .divide => "/"
  | .floorDivide => "//"
  | .multiply => "*"
  | .remainder => "%"
  | .power => "**"
  | .tilde => "~"
  | .leftBracket => "["
  | .rightBracket => "]"
  | .leftParenthesis => "("
  | .rightParenthesis => ")"
  | .leftBrace => "\x7b"
  | .rightBrace => "\x7d"
  | .equal => "=="
  | .unequal => "!="
  | .greater => ">"
  | .greaterEqual => ">="
  | .less => "<"
  | .lessEqual => "<="
  | .assign => "="
  | .dot => "."
  | .colon => ":"
  | .pipe => "|"
  | .comma => ","
  | .semicolon => ";"

/-- The symbol at the beginning of a text, the longer one where two fit. -/
def readSymbol? : List Char → Option (Symbol × List Char)
  | '/' :: '/' :: s => some (.floorDivide, s)
  | '*' :: '*' :: s => some (.power, s)
  | '=' :: '=' :: s => some (.equal, s)
  | '!' :: '=' :: s => some (.unequal, s)
  | '>' :: '=' :: s => some (.greaterEqual, s)
  | '<' :: '=' :: s => some (.lessEqual, s)
  | '+' :: s => some (.add, s)
  | '-' :: s => some (.subtract, s)
  | '/' :: s => some (.divide, s)
  | '*' :: s => some (.multiply, s)
  | '%' :: s => some (.remainder, s)
  | '~' :: s => some (.tilde, s)
  | '[' :: s => some (.leftBracket, s)
  | ']' :: s => some (.rightBracket, s)
  | '(' :: s => some (.leftParenthesis, s)
  | ')' :: s => some (.rightParenthesis, s)
  | '\x7b' :: s => some (.leftBrace, s)
  | '\x7d' :: s => some (.rightBrace, s)
  | '>' :: s => some (.greater, s)
  | '<' :: s => some (.less, s)
  | '=' :: s => some (.assign, s)
  | '.' :: s => some (.dot, s)
  | ':' :: s => some (.colon, s)
  | '|' :: s => some (.pipe, s)
  | ',' :: s => some (.comma, s)
  | ';' :: s => some (.semicolon, s)
  | _ => none

/-- A word of an expression. -/
inductive Lexeme where
  | name (n : String)
  | integer (n : Nat)
  | float (x : Float)
  | text (s : String)
  | symbol (s : Symbol)
  /-- The closing marker of a template. -/
  | close

/-- How a word is described in a report. -/
def Lexeme.describe : Lexeme → String
  | .name n => n
  | .integer _ => "integer"
  | .float _ => "float"
  | .text _ => "string"
  | .symbol s => s.text
  | .close => "end of print statement"

/-- A word with its line. -/
structure Token where
  /-- The line, counted from one. -/
  line : Nat
  /-- The word. -/
  lexeme : Lexeme

/-- The words of a source, and the fault that ends them early. -/
structure TokenList where
  /-- The words. -/
  tokens : List Token
  /-- The fault behind the last word. -/
  failure : Option SyntaxFault

/-- The words with another one in front. -/
def TokenList.push (t : Token) (ts : TokenList) : TokenList := { ts with tokens := t :: ts.tokens }

/-! ## Escapes in texts -/

/-- A character beyond the first 128 as the escape of its number; a backslash in front of such a
character therefore stands for itself. -/
def escapeWide (c : Char) : List Char := if c.toNat < 0x80 then [c] else numericEscape c.toNat

/-- The number that `count` digits in base sixteen stand for. -/
def readHex? : (count value : Nat) → List Char → Option (Nat × List Char)
  | 0, value, s => some (value, s)
  | count + 1, value, c :: s =>
    match digitIn? c with
    | some d => if c.toNat < 0x80 ∧ d < 16 then readHex? count (value * 16 + d) s else none
    | none => none
  | _ + 1, _, [] => none

/-- The number that up to `count` digits in base eight stand for. -/
def readOctal : (count value : Nat) → List Char → Nat × List Char
  | 0, value, s => (value, s)
  | count + 1, value, c :: s =>
    if '0' ≤ c ∧ c ≤ '7' then readOctal count (value * 8 + (c.toNat - 48)) s else (value, c :: s)
  | _ + 1, value, [] => (value, [])

/-- The character that one letter behind a backslash stands for. -/
def simpleEscape? (c : Char) : Option Char :=
  match c with
  | '\\' => some '\\'
  | '\'' => some '\''
  | '"' => some '"'
  | 'a' => some '\x07'
  | 'b' => some '\x08'
  | 'f' => some '\x0c'
  | 'n' => some '\n'
  | 'r' => some '\r'
  | 't' => some '\t'
  | 'v' => some '\x0b'
  | _ => none

/-- A text with its escapes read, at most `fuel` of its characters. -/
def readEscapes : (fuel : Nat) → List Char → Except String (List Char)
  | 0, _ => .ok []
  | _ + 1, [] => .ok []
  | _ + 1, ['\\'] => .error "\\ at end of string"
  | fuel + 1, '\\' :: c :: s =>
    if c = '\n' then readEscapes fuel s
    else if '0' ≤ c ∧ c ≤ '7' then do
      let (n, rest) := readOctal 3 0 (c :: s)
      return ofCodePoint n :: (← readEscapes fuel rest)
    else if c = 'x' then
      match readHex? 2 0 s with
      | some (n, rest) => do return ofCodePoint n :: (← readEscapes fuel rest)
      | none => .error "truncated \\xXX escape"
    else if c = 'u' then
      match readHex? 4 0 s with
      | some (n, rest) => do return ofCodePoint n :: (← readEscapes fuel rest)
      | none => .error "truncated \\uXXXX escape"
    else if c = 'U' then
      match readHex? 8 0 s with
      | some (n, rest) =>
        if n > 0x10ffff then .error "illegal Unicode character"
        else do return ofCodePoint n :: (← readEscapes fuel rest)
      | none => .error "truncated \\UXXXXXXXX escape"
    else if c = 'N' then
      match s with
      | '\x7b' :: d :: rest =>
        if d ≠ '\x7d' ∧ (d :: rest).contains '\x7d' then .error "unknown Unicode character name"
        else .error "malformed \\N character escape"
      | _ => .error "malformed \\N character escape"
    else
      match simpleEscape? c with
      | some d => do return d :: (← readEscapes fuel s)
      | none => do return '\\' :: c :: (← readEscapes fuel s)
  | fuel + 1, c :: s => do return c :: (← readEscapes fuel s)

/-- The text that is written between quotes. -/
def readQuoted (s : List Char) : Except String String :=
  let wide := s.flatMap escapeWide
  (readEscapes (wide.length + 1) wide).map String.ofList

/-! ## Words -/

/-- The text up to the closing quote, and what follows the quote. -/
def takeQuoted (q : Char) : List Char → Option (List Char × List Char)
  | [] => none
  | '\\' :: c :: s => (takeQuoted q s).map fun (t, rest) => ('\\' :: c :: t, rest)
  | c :: s =>
    if c = q then some ([], s)
    else if c = '\\' then none
    else (takeQuoted q s).map fun (t, rest) => (c :: t, rest)

/-- Whether a text begins with a decimal digit. -/
def startsWithDigit : List Char → Bool
  | c :: _ => (digitValue? c).isSome
  | [] => false

/-- The exponent of a float at the beginning of a text. -/
def takeExponent? : List Char → Option (Int × List Char)
  | c :: s =>
    if c = 'e' ∨ c = 'E' then
      let (negative, rest) := splitSign s
      if startsWithDigit rest then
        let (n, _, rest) := takeDigits 0 0 rest
        some (if negative then -(n : Int) else n, rest)
      else none
    else none
  | [] => none

/-- A float at the beginning of a text: it has a fraction, an exponent, or both. -/
def takeFloat? (s : List Char) : Option (Float × List Char) :=
  if startsWithDigit s then
    let (whole, _, rest) := takeDigits 0 0 s
    match rest with
    | '.' :: fraction =>
      if startsWithDigit fraction then
        let (f, digits, rest) := takeDigits 0 0 fraction
        let c := whole * 10 ^ digits + f
        match takeExponent? rest with
        | some (e, rest) => some (Binary.ofDecimal false c (e - digits), rest)
        | none => some (Binary.ofDecimal false c (-(digits : Int)), rest)
      else none
    | rest => (takeExponent? rest).map fun (e, rest) => (Binary.ofDecimal false whole e, rest)
  else none

/-- Digits in a base behind the mark of the base, each with a low line in front of it or not. -/
def takeMarked (base : Nat) (value digits : Nat) : List Char → Nat × Nat × List Char
  | '_' :: c :: s =>
    match digitIn? c with
    | some d =>
      if d < base ∧ c.toNat < 0x80 then takeMarked base (value * base + d) (digits + 1) s
      else (value, digits, '_' :: c :: s)
    | none => (value, digits, '_' :: c :: s)
  | c :: s =>
    match digitIn? c with
    | some d =>
      if d < base ∧ c.toNat < 0x80 then takeMarked base (value * base + d) (digits + 1) s
      else (value, digits, c :: s)
    | none => (value, digits, c :: s)
  | [] => (value, digits, [])

/-- The number of zeros with single low lines between them, and the rest. -/
def takeZeros (count : Nat) : List Char → Nat × List Char
  | '_' :: '0' :: s => takeZeros (count + 1) s
  | '0' :: s => takeZeros (count + 1) s
  | s => (count, s)

/-- An integer at the beginning of a text, with the number of its decimal digits: with the mark of a
base, or decimal without zeros in front. -/
def takeInteger? (s : List Char) : Option (Nat × Nat × List Char) :=
  match markedBase? s with
  | some (base, rest) =>
    match takeMarked base 0 0 rest with
    | (_, 0, _) => some (0, 1, s.drop 1)
    | (n, _, rest) => some (n, 0, rest)
  | none =>
    match s with
    | '0' :: _ => some (0, takeZeros 0 s)
    | c :: _ => if '1' ≤ c ∧ c ≤ '9' then some (takeDigits 0 0 s) else none
    | [] => none

/-- Whether a character can stand in a name. -/
def isNameChar (c : Char) : Bool := isWord c || isIdentifierContinue c

/-- The number of line ends in a text. -/
def lineEnds (s : List Char) : Nat := s.count '\n'

/-- The closing bracket of an opening one. -/
def closing? : Symbol → Option Char
  | .leftBracket => some ']'
  | .leftParenthesis => some ')'
  | .leftBrace => some '\x7d'
  | _ => none

/-- The character of a closing bracket. -/
def bracket? : Symbol → Option Char
  | .rightBracket => some ']'
  | .rightParenthesis => some ')'
  | .rightBrace => some '\x7d'
  | _ => none

/-- Whether a text begins with the closing marker of a template. -/
def startsWithClose : List Char → Bool
  | '-' :: '\x7d' :: '\x7d' :: _ => true
  | '\x7d' :: '\x7d' :: _ => true
  | _ => false

/-- The words of a text, of which at most `fuel` are read. `size` is the length of the whole source,
`wanted` are the closing brackets of those that are open, and `afterDot` says that a dot stands
directly before the text. -/
def tokensFrom (size : Nat) :
    (fuel line : Nat) → (wanted : List Char) → (afterDot : Bool) → List Char → TokenList
  | 0, _, _, _, _ => ⟨[], none⟩
  | _ + 1, _, _, _, [] => ⟨[], none⟩
  | fuel + 1, line, wanted, afterDot, c :: s =>
    let stop (cause : SyntaxCause) : TokenList := ⟨[], some ⟨line, cause⟩⟩
    if wanted.isEmpty && startsWithClose (c :: s) then ⟨[⟨line, .close⟩], none⟩
    else if isBlank c then
      let blanks := (c :: s).takeWhile isBlank
      tokensFrom size fuel (line + lineEnds blanks) wanted false ((c :: s).dropWhile isBlank)
    else
      match if afterDot then none else takeFloat? (c :: s) with
      | some (x, rest) => (tokensFrom size fuel line wanted false rest).push ⟨line, .float x⟩
      | none =>
        match takeInteger? (c :: s) with
        | some (n, digits, rest) =>
          if digits > digitLimit then stop (.constant (.digitsRead digits))
          else (tokensFrom size fuel line wanted false rest).push ⟨line, .integer n⟩
        | none =>
          if isNameChar c then
            let name := (c :: s).takeWhile isNameChar
            if isIdentifier name then
              (tokensFrom size fuel line wanted false ((c :: s).dropWhile isNameChar)).push
                ⟨line, .name (String.ofList name)⟩
            else stop .invalidIdentifier
          else if c = '\'' ∨ c = '"' then
            match takeQuoted c s with
            | none => stop (.unexpectedChar c (size - (s.length + 1)))
            | some (inner, rest) =>
              match readQuoted inner with
              | .ok t =>
                (tokensFrom size fuel (line + lineEnds inner) wanted false rest).push
                  ⟨line, .text t⟩
              | .error what => stop (.badEscape what)
          else
            match readSymbol? (c :: s) with
            | none => stop (.unexpectedChar c (size - (s.length + 1)))
            | some (symbol, rest) =>
              let more (wanted : List Char) : TokenList :=
                (tokensFrom size fuel line wanted (symbol == .dot) rest).push ⟨line, .symbol symbol⟩
              match bracket? symbol with
              | none =>
                match closing? symbol with
                | some b => more (b :: wanted)
                | none => more wanted
              | some b =>
                match wanted with
                | [] => stop (.unopened b)
                | w :: ws => if w = b then more ws else stop (.mismatched b w)

/-- Line ends of every kind as one character. -/
def unifyLineEnds : List Char → List Char
  | '\r' :: '\n' :: s => '\n' :: unifyLineEnds s
  | '\r' :: s => '\n' :: unifyLineEnds s
  | c :: s => c :: unifyLineEnds s
  | [] => []

/-- The words of a source. -/
def tokenize (source : List Char) : TokenList :=
  let text := unifyLineEnds source
  tokensFrom text.length (text.length + 1) 1 [] false text

end Interpolation
