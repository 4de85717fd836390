/-! # TOML tokens

A text is cut into tokens from left to right, and put together again they are the text. The cut never
fails: a string without its closing quotes or a comment with a control in it is a token as well.
-/

namespace Criteria.Toml

inductive Quoting
  | basic
  | literal
  | multiBasic
  | multiLiteral
deriving DecidableEq

inductive TokenKind
  | dot
  | equals
  | comma
  | openBracket
  | closeBracket
  | openBrace
  | closeBrace
  | blank
  | lineBreak
  | comment
  | quoted (q : Quoting)
  /-- A run of all other characters. A quote does not end it. -/
  | bare
deriving DecidableEq

structure Token where
  kind : TokenKind
  text : List Char

def isBlank (c : Char) : Bool := c = ' ' || c = '\t'

def isControl (c : Char) : Bool := (c < ' ' && c != '\t') || c = '\x7f'

def punctuation? : Char → Option TokenKind
  | '.' => some .dot
  | '=' => some .equals
  | ',' => some .comma
  | '[' => some .openBracket
  | ']' => some .closeBracket
  | '{' => some .openBrace
  | '}' => some .closeBrace
  | _ => none

def isLineEnd (c : Char) : Bool := c = '\n' || c = '\r'

def endsBare (c : Char) : Bool := (punctuation? c).isSome || isBlank c || isLineEnd c || c = '#'

/-! ## The extent of a string

How many of the characters after the opening quotes belong to it, the closing quotes included. A
string on one line that is not closed ends with its line, one on several lines with the text. -/

def literalExtent : List Char → Nat
  | [] => 0
  | c :: cs => if c = '\n' then 0 else if c = '\x27' then 1 else literalExtent cs + 1

/-- An escaped quote closes nothing. -/
def basicExtent : List Char → Nat
  | [] => 0
  | '\\' :: '\\' :: cs => basicExtent cs + 2
  | '\\' :: '"' :: cs => basicExtent cs + 2
  | c :: cs => if c = '\n' then 0 else if c = '"' then 1 else basicExtent cs + 1

/-- The closing three, with up to two quotes of the string right before them. -/
def closingQuotes? (q : Char) (cs : List Char) : Option Nat :=
  let n := (cs.takeWhile (· = q)).length
  if 3 ≤ n then some (min n 5) else none

def multiLiteralExtent : List Char → Nat
  | [] => 0
  | c :: cs => (closingQuotes? '\x27' (c :: cs)).getD (multiLiteralExtent cs + 1)

def multiBasicExtent : List Char → Nat
  | [] => 0
  | '\\' :: '\\' :: cs => multiBasicExtent cs + 2
  | '\\' :: '"' :: cs => multiBasicExtent cs + 2
  | c :: cs => (closingQuotes? '"' (c :: cs)).getD (multiBasicExtent cs + 1)

/-! ## Cutting -/

/-- The kind of the token that `c` starts, and how many of the characters after `c` belong to it. -/
def tokenAt (c : Char) (cs : List Char) : TokenKind × Nat :=
  match punctuation? c with
  | some kind => (kind, 0)
  | none =>
    if isBlank c then (.blank, (cs.takeWhile isBlank).length)
    else if c = '#' then (.comment, (cs.takeWhile (!isLineEnd ·)).length)
    else if c = '\n' then (.lineBreak, 0)
    else if c = '\r' then (.lineBreak, if cs.head? = some '\n' then 1 else 0)
    else if c = '\x27' then
      match cs with
      | '\x27' :: '\x27' :: rest => (.quoted .multiLiteral, multiLiteralExtent rest + 2)
      | _ => (.quoted .literal, literalExtent cs)
    else if c = '"' then
      match cs with
      | '"' :: '"' :: rest => (.quoted .multiBasic, multiBasicExtent rest + 2)
      | _ => (.quoted .basic, basicExtent cs)
    else (.bare, (cs.takeWhile (!endsBare ·)).length)

def tokens : List Char → List Token
  | [] => []
  | c :: cs =>
    let t := tokenAt c cs
    ⟨t.1, c :: cs.take t.2⟩ :: tokens (cs.drop t.2)
termination_by cs => cs.length
decreasing_by simp only [List.length_drop, List.length_cons]; omega

end Criteria.Toml
