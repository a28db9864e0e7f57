/-!
The words of shell commands, before anything in them is replaced. A word is a row of pieces: text,
and what is to be replaced by a parameter, by a number or by the output of another command. Quotes
decide what happens to the replacement, so every piece knows whether it stood inside some.
-/
namespace ScanLauncher.Shell

/-- Why a text is no program. -/
inductive GrammarFault where
  | openQuote
  | openBrace
  | openArithmetic
  | openBackquote
  | badLoopName
  | badFunctionName
  /-- A token that does not fit, and what was wanted, if only one would do. -/
  | unexpected (shown : String) (wanted : Option String)
deriving DecidableEq, Repr

namespace GrammarFault

/-- The fault in words. -/
def message : GrammarFault → String
  | openQuote => "Syntax error: Unterminated quoted string"
  | openBrace => "Syntax error: Missing '\x7d'"
  | openArithmetic => "Syntax error: Missing '))'"
  | openBackquote => "Syntax error: EOF in backquote substitution"
  | badLoopName => "Syntax error: Bad for loop variable"
  | badFunctionName => "Syntax error: Bad function name"
  | unexpected shown wanted =>
    "Syntax error: " ++ shown ++ " unexpected" ++
      match wanted with
      | some text => " (expecting " ++ text ++ ")"
      | none => ""

end GrammarFault

/-- What is made of a parameter's value. Where `orEmpty` holds, an empty value counts as none. -/
inductive Adjustment where
  | asIs
  | length
  /-- The operand stands in for a missing value. -/
  | fallback (orEmpty : Bool)
  /-- The operand stands in for a missing value and becomes it. -/
  | assign (orEmpty : Bool)
  /-- The operand stands in for a value that is there. -/
  | instead (orEmpty : Bool)
  /-- A missing value is an error. -/
  | demand (orEmpty : Bool)
  /-- The operand is a pattern to be taken off the front. -/
  | dropFront (longest : Bool)
  /-- The operand is a pattern to be taken off the end. -/
  | dropEnd (longest : Bool)
deriving DecidableEq, Repr

/-- A piece of a word. -/
inductive Piece where
  | text (s : String) (isQuoted : Bool)
  | parameter (name : String) (adjustment : Adjustment) (operand : List Piece) (isQuoted : Bool)
  | arithmetic (expression : List Piece) (isQuoted : Bool)
  /-- The output of a program, whose own text is read when it is run. -/
  | output (source : String) (isQuoted : Bool)
  /-- What looks like a parameter and is none, as it turns out when it is to be replaced. -/
  | unfit

/-- A word. -/
abbrev Word := List Piece

namespace Word

/-- A word with a text in front of it; texts of the same kind run together. -/
def consText (s : String) (isQuoted : Bool) : Word → Word
  | .text t quoted :: rest =>
    if quoted == isQuoted then .text (s ++ t) quoted :: rest
    else .text s isQuoted :: .text t quoted :: rest
  | word => .text s isQuoted :: word

/-- The text of a word that is written without any quotes or replacements. -/
def bare? : Word → Option String
  | [.text s false] => some s
  | _ => none

/-- Where a row of pieces ends. -/
inductive Setting where
  /-- At a blank or an operator. -/
  | bare
  /-- At the closing quotation mark. -/
  | quotation
  /-- At the closing brace of a parameter. -/
  | braces (isQuoted : Bool)
  /-- At the end of the text. -/
  | whole
deriving DecidableEq, Repr

namespace Setting

/-- Whether pieces count as quoted. -/
def isQuoted : Setting → Bool
  | bare => false
  | quotation | whole => true
  | braces isQuoted => isQuoted

end Setting

/-- The characters that end a bare word. -/
def isBoundary (c : Char) : Bool := " \t\n;&|<>()".toList.contains c

/-- A character of a variable's name. -/
def isNameChar (c : Char) : Bool := c.isAlphanum || c == '_'

/-- The parameters whose name is a single sign. -/
def isSpecialName (c : Char) : Bool := "@*#?-$!".toList.contains c

/-- The text up to the parenthesis that closes it, and what follows; parentheses inside quotes do
not count. -/
def takeSource (depth : Nat) (quote : Option Char) : List Char → Option (List Char × List Char)
  | [] => none
  | '\\' :: c :: rest =>
    if quote == some '\x27' then
      if c == '\x27' then (takeSource depth none rest).map fun (a, b) => ('\\' :: c :: a, b)
      else (takeSource depth quote rest).map fun (a, b) => ('\\' :: c :: a, b)
    else (takeSource depth quote rest).map fun (a, b) => ('\\' :: c :: a, b)
  | c :: rest =>
    let more (depth : Nat) (quote : Option Char) : Option (List Char × List Char) :=
      (takeSource depth quote rest).map fun (a, b) => (c :: a, b)
    match quote with
    | some mark => more depth (if c == mark then none else quote)
    | none =>
      if c == '\x27' || c == '"' then more depth (some c)
      else if c == '(' then more (depth + 1) none
      else if c == ')' then
        match depth with
        | 0 => some ([], rest)
        | depth + 1 => more depth none
      else more depth none

/-- The text up to the next grave accent, and what follows. -/
def takeGrave : List Char → Option (List Char × List Char)
  | [] => none
  | '\x60' :: rest => some ([], rest)
  | '\\' :: c :: rest =>
    let kept := if c == '\x60' || c == '\\' || c == '$' then [c] else ['\\', c]
    (takeGrave rest).map fun (a, b) => (kept ++ a, b)
  | c :: rest => (takeGrave rest).map fun (a, b) => (c :: a, b)

/-- The operator after a parameter's name inside braces. -/
def takeAdjustment : List Char → Option (Adjustment × List Char)
  | '\x7d' :: rest => some (.asIs, '\x7d' :: rest)
  | ':' :: '-' :: rest => some (.fallback true, rest)
  | ':' :: '=' :: rest => some (.assign true, rest)
  | ':' :: '+' :: rest => some (.instead true, rest)
  | ':' :: '?' :: rest => some (.demand true, rest)
  | '-' :: rest => some (.fallback false, rest)
  | '=' :: rest => some (.assign false, rest)
  | '+' :: rest => some (.instead false, rest)
  | '?' :: rest => some (.demand false, rest)
  | '#' :: '#' :: rest => some (.dropFront true, rest)
  | '#' :: rest => some (.dropFront false, rest)
  | '%' :: '%' :: rest => some (.dropEnd true, rest)
  | '%' :: rest => some (.dropEnd false, rest)
  | _ => none

/-- The name at the front of a text, and what follows: a variable, a number or a sign. -/
def takeName : List Char → List Char × List Char
  | [] => ([], [])
  | c :: rest =>
    if c.isDigit then ((c :: rest).takeWhile Char.isDigit, (c :: rest).dropWhile Char.isDigit)
    else if isNameChar c then
      ((c :: rest).takeWhile isNameChar, (c :: rest).dropWhile isNameChar)
    else if isSpecialName c then ([c], rest)
    else ([], c :: rest)

mutual

/-- Reads pieces up to where their setting ends them. -/
def readPieces (fuel : Nat) (setting : Setting) (chars : List Char) :
    Except GrammarFault (Word × List Char) :=
  match fuel with
  | 0 => .error .openQuote
  | fuel + 1 =>
    let quoted := setting.isQuoted
    let literal (s : List Char) (isQuoted : Bool) (rest : List Char) :
        Except GrammarFault (Word × List Char) := do
      let (word, rest) ← readPieces fuel setting rest
      return (consText (String.ofList s) isQuoted word, rest)
    match chars with
    | [] =>
      match setting with
      | .bare | .whole => .ok ([], [])
      | .quotation | .braces true => .error .openQuote
      | .braces false => .error .openBrace
    | c :: rest =>
      if setting == .bare && isBoundary c then .ok ([], c :: rest)
      else if setting == .quotation && c == '"' then .ok ([], rest)
      else if c == '\x7d' && (setting == .braces true || setting == .braces false) then
        .ok ([], rest)
      else if c == '\x27' && !quoted then
        match rest.dropWhile (· != '\x27') with
        | [] => .error .openQuote
        | _ :: after => literal (rest.takeWhile (· != '\x27')) true after
      else if c == '"' && setting != .quotation && setting != .whole then do
        let (inner, rest) ← readPieces fuel .quotation rest
        let (word, rest) ← readPieces fuel setting rest
        return ((if inner.isEmpty then [.text "" true] else inner) ++ word, rest)
      else if c == '\\' then
        match rest with
        | [] => literal [c] quoted []
        | '\n' :: rest => readPieces fuel setting rest
        | d :: rest =>
          if !quoted || "$\x60\"\\".toList.contains d then literal [d] true rest
          else literal [c, d] true rest
      else if c == '$' then do
        let (piece, rest) ← readDollar fuel quoted rest
        let (word, rest) ← readPieces fuel setting rest
        return (piece :: word, rest)
      else if c == '\x60' then
        match takeGrave rest with
        | none => .error .openBackquote
        | some (source, rest) => do
          let (word, rest) ← readPieces fuel setting rest
          return (.output (String.ofList source) quoted :: word, rest)
      else literal [c] quoted rest

/-- Reads what a dollar sign introduces. -/
def readDollar (fuel : Nat) (isQuoted : Bool) (chars : List Char) :
    Except GrammarFault (Piece × List Char) :=
  match fuel with
  | 0 => .error .openQuote
  | fuel + 1 =>
    match chars with
    | '(' :: rest =>
      match takeSource 0 none rest with
      | none =>
        .error (if rest.head? == some '(' then .openArithmetic
          else .unexpected "end of file" (some "\")\""))
      | some ('(' :: source, rest) =>
        if source.getLast? == some ')' then do
          let (expression, _) ← readPieces fuel .whole source.dropLast
          return (.arithmetic expression isQuoted, rest)
        else .error .openArithmetic
      | some (source, rest) => .ok (.output (String.ofList source) isQuoted, rest)
    | '\x7b' :: rest => readBraces fuel isQuoted rest
    | c :: rest =>
      if c.isDigit then .ok (.parameter (String.ofList [c]) .asIs [] isQuoted, rest)
      else
        match takeName (c :: rest) with
        | ([], rest) => .ok (.text "$" isQuoted, rest)
        | (name, rest) => .ok (.parameter (String.ofList name) .asIs [] isQuoted, rest)
    | [] => .ok (.text "$" isQuoted, [])

/-- Reads a parameter in braces. -/
def readBraces (fuel : Nat) (isQuoted : Bool) (chars : List Char) :
    Except GrammarFault (Piece × List Char) :=
  match fuel with
  | 0 => .error .openQuote
  | fuel + 1 =>
    let unfit : Except GrammarFault (Piece × List Char) := do
      let (_, rest) ← readPieces fuel (.braces isQuoted) chars
      return (.unfit, rest)
    match chars with
    | [] => .error .openBrace
    | '#' :: '\x7d' :: rest => .ok (.parameter "#" .asIs [] isQuoted, rest)
    | '#' :: rest =>
      match takeName rest with
      | (c :: name, '\x7d' :: rest) =>
        .ok (.parameter (String.ofList (c :: name)) .length [] isQuoted, rest)
      | _ => unfit
    | chars =>
      match takeName chars with
      | ([], _) => unfit
      | (name, rest) =>
        match takeAdjustment rest with
        | none => unfit
        | some (adjustment, rest) => do
          let (operand, rest) ← readPieces fuel (.braces isQuoted) rest
          return (.parameter (String.ofList name) adjustment operand isQuoted, rest)

end

/-- Reads a bare word. -/
def read (chars : List Char) : Except GrammarFault (Word × List Char) :=
  readPieces (3 * chars.length + 3) .bare chars

/-- A whole text as it would read between quotation marks. -/
def ofQuotation (chars : List Char) : Except GrammarFault Word := do
  return (← readPieces (3 * chars.length + 3) .whole chars).1

end Word

end ScanLauncher.Shell
