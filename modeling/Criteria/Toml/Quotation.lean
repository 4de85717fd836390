import Criteria.Toml.Layout

/-! # TOML strings

The text within quotes. It is read from left to right, and the first flaw is the one that counts.
-/

namespace Criteria.Toml

inductive Flaw
  | malformed
  /-- An escape gives a number that is the code point of no character. -/
  | noCharacter
deriving DecidableEq

/-- How a flaw is reported. No flaw but one has a wording of its own. -/
def Flaw.message : Flaw → String
  | malformed => "<syntax>"
  | noCharacter => "invalid value, expected unicode hexadecimal value"

abbrev Reading := Except Flaw

def orMalformed {α : Type} : Option α → Reading α
  | none => .error .malformed
  | some a => .ok a

def hexValue? (c : Char) : Option Nat :=
  if '0' ≤ c && c ≤ '9' then some (c.toNat - '0'.toNat)
  else if 'a' ≤ c && c ≤ 'f' then some (c.toNat - 'a'.toNat + 10)
  else if 'A' ≤ c && c ≤ 'F' then some (c.toNat - 'A'.toNat + 10)
  else none

def codePoint (digits : List Char) : Reading Char := do
  let n ← orMalformed (digits.foldlM (fun n c => return 16 * n + (← hexValue? c)) 0)
  if h : n.isValidChar then .ok (Char.ofNatAux n h) else .error .noCharacter

def letterEscape : Char → Reading Char
  | 'b' => .ok '\x08'
  | 't' => .ok '\t'
  | 'n' => .ok '\n'
  | 'f' => .ok '\x0c'
  | 'r' => .ok '\r'
  | 'e' => .ok '\x1b'
  | '"' => .ok '"'
  | '\\' => .ok '\\'
  | _ => .error .malformed

def unescape : List Char → Reading (List Char)
  | [] => .ok []
  | '\\' :: 'x' :: a :: b :: rest => do
    let c ← codePoint [a, b]
    return c :: (← unescape rest)
  | '\\' :: 'u' :: a :: b :: c :: d :: rest => do
    let c ← codePoint [a, b, c, d]
    return c :: (← unescape rest)
  | '\\' :: 'U' :: a :: b :: c :: d :: e :: f :: g :: h :: rest => do
    let c ← codePoint [a, b, c, d, e, f, g, h]
    return c :: (← unescape rest)
  | '\\' :: c :: rest => do
    let c ← letterEscape c
    return c :: (← unescape rest)
  | c :: rest => do
    if isControl c || c = '\\' then .error .malformed
    else return c :: (← unescape rest)

def afterLineBreak? : List Char → Option (List Char)
  | '\n' :: rest => some rest
  | '\r' :: '\n' :: rest => some rest
  | _ => none

/-- A line break right after the opening quotes is not part of the string. -/
def skipFirstBreak (cs : List Char) : List Char := (afterLineBreak? cs).getD cs

/-- The text of a string over several lines. While `trimming`, a backslash at the end of a line takes
away the space up to the next character. -/
def unescapeLines (trimming : Bool) : List Char → Reading (List Char)
  | [] => .ok []
  | '\\' :: 'x' :: a :: b :: rest => do
    let c ← codePoint [a, b]
    return c :: (← unescapeLines false rest)
  | '\\' :: 'u' :: a :: b :: c :: d :: rest => do
    let c ← codePoint [a, b, c, d]
    return c :: (← unescapeLines false rest)
  | '\\' :: 'U' :: a :: b :: c :: d :: e :: f :: g :: h :: rest => do
    let c ← codePoint [a, b, c, d, e, f, g, h]
    return c :: (← unescapeLines false rest)
  | '\\' :: c :: rest =>
    if (afterLineBreak? ((c :: rest).dropWhile isBlank)).isSome then unescapeLines true (c :: rest)
    else do
      let c ← letterEscape c
      return c :: (← unescapeLines false rest)
  | '\r' :: '\n' :: rest =>
    if trimming then unescapeLines true rest
    else do return '\r' :: '\n' :: (← unescapeLines false rest)
  | c :: rest =>
    if trimming && (isBlank c || c = '\n') then unescapeLines true rest
    else if (isControl c && c != '\n') || c = '\\' then .error .malformed
    else do return c :: (← unescapeLines false rest)

def isPlainLines : List Char → Bool
  | [] => true
  | '\r' :: '\n' :: rest => isPlainLines rest
  | c :: rest => (!isControl c || c = '\n') && isPlainLines rest

def withinQuotes (q : Char) (n : Nat) (cs : List Char) : Reading (List Char) :=
  let quotes := List.replicate n q
  if quotes.isSuffixOf cs then .ok (cs.take (cs.length - n)) else .error .malformed

def Quoting.read (q : Quoting) (cs : List Char) : Reading (List Char) := do
  match q with
  | .basic => unescape (← withinQuotes '"' 1 (cs.drop 1))
  | .multiBasic => unescapeLines false (← withinQuotes '"' 3 (skipFirstBreak (cs.drop 3)))
  | .literal =>
    let s ← withinQuotes '\x27' 1 (cs.drop 1)
    if s.any isControl then .error .malformed else return s
  | .multiLiteral =>
    let s ← withinQuotes '\x27' 3 (skipFirstBreak (cs.drop 3))
    if isPlainLines s then return s else .error .malformed

end Criteria.Toml
