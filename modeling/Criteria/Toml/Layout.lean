import Criteria.Toml.Token

/-! # The layout of a TOML document

What a document consists of before any of its words is looked at: the headers, and the keys with what
is assigned to them. A word that is missing where one has to stand is kept as an empty one, so that
it is refused when its turn comes.
-/

namespace Criteria.Toml

/-- A word as it stands in the text, quotes and all. -/
structure Word where
  quoting : Option Quoting
  text : List Char
deriving DecidableEq

def Word.missing : Word := ⟨none, []⟩

inductive Term
  | word (w : Word)
  | array (items : List Term)
  | table (entries : List (List Word × Term))

inductive Line
  | header (repeated : Bool) (key : List Word)
  | assignment (key : List Word) (value : Term)

namespace Token

def word? (t : Token) : Option Word :=
  match t.kind with
  | .bare => some ⟨none, t.text⟩
  | .quoted q => some ⟨some q, t.text⟩
  | _ => none

/-- Whether a comment has no control in it, or a line break is none that a carriage return makes
alone. -/
def isClean (t : Token) : Bool :=
  match t.kind with
  | .comment => !t.text.any isControl
  | .lineBreak => t.text != ['\r']
  | _ => true

end Token

def skipBlanks (ts : List Token) : List Token := ts.dropWhile (·.kind = .blank)

def skipSpace : List Token → Option (List Token)
  | [] => some []
  | t :: ts =>
    match t.kind with
    | .blank | .comment | .lineBreak => if t.isClean then skipSpace ts else none
    | _ => some (t :: ts)

/-- Passes over the rest of a line: blanks and a comment, or anything where `loose`. -/
def endOfLine (loose : Bool) : List Token → Option (List Token)
  | [] => some []
  | t :: ts =>
    match t.kind with
    | .lineBreak => if t.isClean then some ts else none
    | .blank | .comment => if t.isClean then endOfLine loose ts else none
    | _ => if loose then endOfLine loose ts else none

/-! ## Keys -/

/-- The words of a key, between dots. A word that is not there is missing. -/
def readKey : List Token → List Word × List Token
  | [] => ([.missing], [])
  | ⟨.blank, _⟩ :: ts => readKey ts
  | ⟨.dot, _⟩ :: ts =>
    let (key, rest) := readKey ts
    (.missing :: key, rest)
  | t :: ts =>
    match t.word? with
    | none => ([.missing], t :: ts)
    | some w =>
      match ts with
      | ⟨.dot, _⟩ :: ts =>
        let (key, rest) := readKey ts
        (w :: key, rest)
      | ⟨.blank, _⟩ :: ⟨.dot, _⟩ :: ts =>
        let (key, rest) := readKey ts
        (w :: key, rest)
      | ts => ([w], ts)

/-! ## Terms -/

/-- A word without quotes goes on over dots, and over blanks before more of its kind. -/
def bareText : List Token → List Char × List Token
  | ⟨.blank, s⟩ :: ⟨.bare, t⟩ :: ts =>
    let (more, rest) := bareText ts
    (s ++ t ++ more, rest)
  | ⟨.bare, t⟩ :: ts =>
    let (more, rest) := bareText ts
    (t ++ more, rest)
  | ⟨.dot, t⟩ :: ts =>
    let (more, rest) := bareText ts
    (t ++ more, rest)
  | ts => ([], ts)

def maxDepth : Nat := 80

mutual

def readTerm (depth : Nat) : (fuel : Nat) → List Token → Option (Term × List Token)
  | 0, _ => none
  | _ + 1, [] => none
  | fuel + 1, t :: ts =>
    match t.kind with
    | .openBracket => do
      guard (depth != 0)
      let (items, rest) ← readItems (depth - 1) fuel ts
      return (.array items, rest)
    | .openBrace => do
      guard (depth != 0)
      let (entries, rest) ← readEntries (depth - 1) fuel ts
      return (.table entries, rest)
    | .quoted q => some (.word ⟨some q, t.text⟩, ts)
    | .bare | .dot =>
      let (text, rest) := bareText (t :: ts)
      some (.word ⟨none, text⟩, rest)
    | _ => none

/-- The items of an array up to its closing bracket. A comma may follow the last one. -/
def readItems (depth : Nat) : (fuel : Nat) → List Token → Option (List Term × List Token)
  | 0, _ => none
  | fuel + 1, ts => do
    match ← skipSpace ts with
    | ⟨.closeBracket, _⟩ :: rest => return ([], rest)
    | ts =>
      let (item, rest) ← readTerm depth fuel ts
      match ← skipSpace rest with
      | ⟨.comma, _⟩ :: rest => do
        let (items, rest) ← readItems depth fuel rest
        return (item :: items, rest)
      | ⟨.closeBracket, _⟩ :: rest => return ([item], rest)
      | _ => none

/-- The entries of an inline table up to its closing brace. A comma may follow the last one, and the
brace may stand right after its key or its equals sign. -/
def readEntries (depth : Nat) :
    (fuel : Nat) → List Token → Option (List (List Word × Term) × List Token)
  | 0, _ => none
  | fuel + 1, ts => do
    match ← skipSpace ts with
    | ⟨.closeBrace, _⟩ :: rest => return ([], rest)
    | ts =>
      let (key, rest) := readKey ts
      match ← skipSpace rest with
      | ⟨.closeBrace, _⟩ :: rest => return ([(key, .word .missing)], rest)
      | ⟨.equals, _⟩ :: rest => do
        match ← skipSpace rest with
        | ⟨.closeBrace, _⟩ :: rest => return ([(key, .word .missing)], rest)
        | ts =>
          let (value, rest) ← readTerm depth fuel ts
          match ← skipSpace rest with
          | ⟨.comma, _⟩ :: rest => do
            let (entries, rest) ← readEntries depth fuel rest
            return ((key, value) :: entries, rest)
          | ⟨.closeBrace, _⟩ :: rest => return ([(key, value)], rest)
          | _ => none
      | _ => none

end

/-! ## Lines -/

def readAssigned (fuel : Nat) (ts : List Token) : Option (Term × List Token) :=
  match ts with
  | [] => some (.word .missing, [])
  | t :: rest =>
    match t.kind with
    | .comment | .lineBreak => some (.word .missing, t :: rest)
    | _ => readTerm maxDepth fuel (t :: rest)

/-- A header after its opening brackets. Where its last word is missing, the closing brackets may be
missing as well. -/
def readHeader (repeated : Bool) (ts : List Token) : Option (Line × List Token) := do
  let (key, rest) := readKey ts
  match repeated, skipBlanks rest with
  | false, ⟨.closeBracket, _⟩ :: rest => return (.header repeated key, ← endOfLine false rest)
  | true, ⟨.closeBracket, _⟩ :: ⟨.closeBracket, _⟩ :: rest =>
    return (.header repeated key, ← endOfLine false rest)
  | true, ⟨.closeBracket, _⟩ :: _ => none
  | _, rest =>
    guard (key.getLast? = some .missing)
    return (.header repeated key, ← endOfLine true rest)

def readLines : (fuel : Nat) → List Token → Option (List Line)
  | 0, _ => none
  | fuel + 1, ts => do
    match ← skipSpace ts with
    | [] => return []
    | ⟨.openBracket, _⟩ :: ⟨.openBracket, _⟩ :: rest => do
      let (line, rest) ← readHeader true rest
      return line :: (← readLines fuel rest)
    | ⟨.openBracket, _⟩ :: rest => do
      let (line, rest) ← readHeader false rest
      return line :: (← readLines fuel rest)
    | ts =>
      let (key, rest) := readKey ts
      match skipBlanks rest with
      | ⟨.equals, _⟩ :: rest => do
        let (value, rest) ← readAssigned fuel (skipBlanks rest)
        let rest ← endOfLine false rest
        return .assignment key value :: (← readLines fuel rest)
      | _ => none

/-- The lines of a text. A byte order mark may stand in front of it. Every step takes a token and
goes one level down or up, so there are at most two for each token. -/
def layout? (cs : List Char) : Option (List Line) :=
  let ts := tokens (match cs with | '\uFEFF' :: rest => rest | cs => cs)
  readLines (2 * ts.length + 2) ts

end Criteria.Toml
