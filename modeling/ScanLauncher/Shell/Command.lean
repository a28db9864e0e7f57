import ScanLauncher.Shell.Token

/-!
Shell programs as trees of commands, and how their tokens are read.
-/
namespace ScanLauncher.Shell

/-- What a redirection does to a stream. -/
inductive RedirectKind where
  | read
  | write
  | append
  /-- The stream becomes another name of the one that the target names. -/
  | duplicate
  /-- The stream is given text in place. -/
  | document
deriving DecidableEq, Repr

/-- A redirection. -/
structure Redirect where
  stream : Nat
  kind : RedirectKind
  target : Word

/-- A command. -/
inductive Command where
  /-- Assignments, words and redirections, on a line. -/
  | simple (assignments : List (String × Word)) (words : List Word) (redirects : List Redirect)
      (line : Nat)
  | redirected (body : Command) (redirects : List Redirect)
  | sequence (commands : List Command)
  | pipeline (isNegated : Bool) (commands : List Command)
  | both (first second : Command)
  | either (first second : Command)
  | background (body : Command)
  | subshell (body : Command)
  /-- Branches with their conditions, and what is done if none holds. -/
  | branches (branches : List (Command × Command)) (otherwise : Command)
  /-- A loop that goes on as long as its condition has the outcome wanted. -/
  | loop (wanted : Bool) (condition body : Command)
  /-- A loop over words, or over the positional parameters. -/
  | each (name : String) (words : Option (List Word)) (body : Command)
  /-- The first of some bodies whose patterns fit a word. -/
  | select (subject : Word) (cases : List (List Word × Command))
  | define (name : String) (body : Command)

namespace Command

/-- A command that does nothing. -/
def skip : Command := .sequence []

/-- A reader of tokens; a fault comes with its line. -/
abbrev Reader := StateT (List Lexeme) (Except (GrammarFault × Nat))

/-- The token that comes next. -/
def peek : Reader (Option Token) := do
  match (← get).head?.map Lexeme.token with
  | some .finish | none => return none
  | token => return token

/-- The line of the token that comes next. -/
def peekLine : Reader Nat := do return ((← get).head?.map Lexeme.line).getD 1

/-- Leaves the next token behind. -/
def advance : Reader Unit := modify List.tail

/-- The words that have a meaning of their own. -/
def reserved : List String :=
  ["!", "\x7b", "\x7d", "case", "do", "done", "elif", "else", "esac", "fi", "for", "if", "in",
    "then", "until", "while"]

/-- A token as a fault shows it. -/
def shown : Option Token → String
  | none => "end of file"
  | some (.word [.text s false]) => if reserved.contains s then "\"" ++ s ++ "\"" else "word"
  | some (.operator text) => if text == "\n" then "newline" else "\"" ++ text ++ "\""
  | some (.redirection _ _) | some (.document _) => "redirection"
  | some _ => "word"

/-- The fault of a token that does not fit, where another one was wanted. -/
def rejectFor {α : Type} (wanted : Option String) : Reader α := do
  match ← peek with
  | some (.broken fault) => throw (fault, ← peekLine)
  | token => throw (.unexpected (shown token) wanted, ← peekLine)

/-- The fault of a token that does not fit. -/
def reject {α : Type} : Reader α := rejectFor none

/-- The word written without quotes that comes next. -/
def peekBare : Reader (Option String) := do
  match ← peek with
  | some (.word pieces) => return Word.bare? pieces
  | _ => return none

/-- Whether an operator comes next. -/
def atOperator (text : String) : Reader Bool := do
  match ← peek with
  | some (.operator other) => return other == text
  | _ => return false

/-- Takes a keyword, which must come next. -/
def keyword (text : String) : Reader Unit := do
  if (← peekBare) == some text then advance else rejectFor (some ("\"" ++ text ++ "\""))

/-- Takes an operator, which must come next. -/
def operator (text : String) : Reader Unit := do
  if ← atOperator text then advance else rejectFor (some ("\"" ++ text ++ "\""))

/-- Skips line ends. -/
def skipLines : Reader Unit :=
  modify fun lexemes => lexemes.dropWhile fun lexeme =>
    match lexeme.token with
    | .operator text => text == "\n"
    | _ => false

/-- The keywords that end a list of commands. -/
def closers : List String := ["then", "else", "elif", "fi", "do", "done", "esac", "\x7d"]

/-- Whether a list of commands ends here. -/
def atListEnd : Reader Bool := do
  match ← peek with
  | none => return true
  | some (.operator text) => return text == ")" || text == ";;"
  | some (.word pieces) => return (Word.bare? pieces).any closers.contains
  | _ => return false

/-- The kind of a redirection and the stream that it means where none is named. -/
def redirectKind (text : String) : RedirectKind × Nat :=
  if text == "<" || text == "<>" then (.read, 0)
  else if text == "<&" then (.duplicate, 0)
  else if text == ">&" then (.duplicate, 1)
  else if text == ">>" then (.append, 1)
  else (.write, 1)

/-- The redirections that come next. -/
def redirects : (fuel : Nat) → Reader (List Redirect)
  | 0 => return []
  | fuel + 1 => do
    match ← peek with
    | some (.redirection stream text) =>
      advance
      match ← peek with
      | some (.word target) =>
        advance
        let (kind, standard) := redirectKind text
        return ⟨stream.getD standard, kind, target⟩ :: (← redirects fuel)
      | _ => reject
    | some (.document content) =>
      advance
      return ⟨0, .document, content⟩ :: (← redirects fuel)
    | _ => return []

/-- The assignment that a word is: a name, an equals sign and the value's pieces. -/
def assignment? : Word → Option (String × Word)
  | .text s false :: rest =>
    let name := s.toList.takeWhile Word.isNameChar
    match s.toList.dropWhile Word.isNameChar with
    | '=' :: value =>
      if name.isEmpty || (name.head?.any Char.isDigit) then none
      else
        some (String.ofList name,
          if value.isEmpty then rest else .text (String.ofList value) false :: rest)
    | _ => none
  | _ => none

/-- The words that come next. -/
def wordsUpTo : (fuel : Nat) → Reader (List Word)
  | 0 => return []
  | fuel + 1 => do
    match ← peek with
    | some (.word pieces) =>
      advance
      return pieces :: (← wordsUpTo fuel)
    | _ => return []

/-- What a simple command has shown so far. -/
structure Parts where
  assignments : List (String × Word) := []
  words : List Word := []
  redirects : List Redirect := []

/-- The parts of a simple command. -/
def simpleParts : (fuel : Nat) → Parts → Reader Parts
  | 0, parts => return parts
  | fuel + 1, parts => do
    match ← peek with
    | some (.word pieces) =>
      advance
      match parts.words.isEmpty, assignment? pieces with
      | true, some assignment =>
        simpleParts fuel { parts with assignments := parts.assignments ++ [assignment] }
      | _, _ => simpleParts fuel { parts with words := parts.words ++ [pieces] }
    | some (.redirection _ _) | some (.document _) =>
      let more ← redirects fuel
      simpleParts fuel { parts with redirects := parts.redirects ++ more }
    | _ => return parts

/-- The patterns of one case, up to the parenthesis that closes them. -/
def patternsUpTo : (fuel : Nat) → Reader (List Word)
  | 0 => reject
  | fuel + 1 => do
    match ← peek with
    | some (.word pieces) =>
      advance
      if ← atOperator "|" then
        advance
        return pieces :: (← patternsUpTo fuel)
      operator ")"
      return [pieces]
    | some (.broken _) => reject
    | token =>
      if token.isSome then advance
      rejectFor (some "\")\"")

/-- A command under redirections, if there are any. -/
def withRedirects (command : Command) : List Redirect → Command
  | [] => command
  | redirects => .redirected command redirects

/-- Whether a text can name a variable. -/
def isName (s : String) : Bool :=
  match s.toList with
  | [] => false
  | c :: rest => (c.isAlpha || c == '_') && rest.all Word.isNameChar

/-- The commands that a shell cannot do without; no function takes their names. -/
def essential : List String :=
  [":", ".", "break", "continue", "eval", "exec", "exit", "export", "readonly", "return", "set",
    "shift", "times", "trap", "unset"]

/-- The line of a loop's name that is none; a line end there was already passed. -/
def loopNameLine : Reader Nat := do
  return (← peekLine) + if ← atOperator "\n" then 1 else 0

mutual

/-- Reads commands up to the end of their list. -/
def readList (fuel : Nat) : Reader (List Command) :=
  match fuel with
  | 0 => reject
  | fuel + 1 => do
    skipLines
    if ← atListEnd then return []
    let command ← readAndOr fuel
    if ← atOperator "&" then
      advance
      return .background command :: (← readList fuel)
    if (← atOperator ";") || (← atOperator "\n") then
      advance
      return command :: (← readList fuel)
    if ← atListEnd then return [command]
    reject

/-- Reads commands up to the end of their list as one; there must be some before any other token. -/
def readBody (fuel : Nat) : Reader Command :=
  match fuel with
  | 0 => reject
  | fuel + 1 => do
    match ← readList fuel with
    | [] => if (← peek).isSome then reject else return skip
    | commands => return .sequence commands

/-- Reads pipelines joined by conditions. -/
def readAndOr (fuel : Nat) : Reader Command :=
  match fuel with
  | 0 => reject
  | fuel + 1 => do
    let first ← readPipeline fuel
    readConditions fuel first

/-- Reads what is joined to a command by conditions. -/
def readConditions (fuel : Nat) (first : Command) : Reader Command :=
  match fuel with
  | 0 => reject
  | fuel + 1 => do
    if ← atOperator "&&" then
      advance
      skipLines
      readConditions fuel (.both first (← readPipeline fuel))
    else if ← atOperator "||" then
      advance
      skipLines
      readConditions fuel (.either first (← readPipeline fuel))
    else return first

/-- Reads a pipeline. -/
def readPipeline (fuel : Nat) : Reader Command :=
  match fuel with
  | 0 => reject
  | fuel + 1 => do
    let isNegated := (← peekBare) == some "!"
    if isNegated then advance
    match isNegated, ← readStages fuel with
    | false, [command] => return command
    | _, commands => return .pipeline isNegated commands

/-- Reads the stages of a pipeline. -/
def readStages (fuel : Nat) : Reader (List Command) :=
  match fuel with
  | 0 => reject
  | fuel + 1 => do
    let command ← readCommand fuel
    if ← atOperator "|" then
      advance
      skipLines
      return command :: (← readStages fuel)
    return [command]

/-- Reads one command. -/
def readCommand (fuel : Nat) : Reader Command :=
  match fuel with
  | 0 => reject
  | fuel + 1 => do
    if ← atOperator "(" then
      advance
      let body ← readBody fuel
      operator ")"
      return withRedirects (.subshell body) (← redirects fuel)
    match ← peekBare with
    | some "\x7b" =>
      advance
      let body ← readBody fuel
      keyword "\x7d"
      return withRedirects body (← redirects fuel)
    | some "if" =>
      advance
      let command ← readBranches fuel
      return withRedirects command (← redirects fuel)
    | some "while" =>
      advance
      let condition ← readBody fuel
      let body ← readLoopBody fuel
      return withRedirects (.loop true condition body) (← redirects fuel)
    | some "until" =>
      advance
      let condition ← readBody fuel
      let body ← readLoopBody fuel
      return withRedirects (.loop false condition body) (← redirects fuel)
    | some "for" =>
      advance
      let command ← readEach fuel
      return withRedirects command (← redirects fuel)
    | some "case" =>
      advance
      let command ← readSelect fuel
      return withRedirects command (← redirects fuel)
    | name =>
      if name.any closers.contains || name == some "!" then reject
      let line ← peekLine
      let parts ← simpleParts (2 * (← get).length + 2) {}
      let isAlone := parts.assignments.isEmpty && parts.redirects.isEmpty
      match parts.words, isAlone && (← atOperator "(") with
      | [_], true =>
        advance
        if (← peekBare).isSome then throw (.unexpected "word" (some "\")\""), ← peekLine)
        operator ")"
        match name.filter fun name => isName name && !essential.contains name with
        | none => throw (.badFunctionName, line)
        | some name =>
          skipLines
          return .define name (← readCommand fuel)
      | _, _ =>
        if parts.words.isEmpty && parts.assignments.isEmpty && parts.redirects.isEmpty then reject
        return .simple parts.assignments parts.words parts.redirects line

/-- Reads the body of a loop. -/
def readLoopBody (fuel : Nat) : Reader Command :=
  match fuel with
  | 0 => reject
  | fuel + 1 => do
    keyword "do"
    let body ← readBody fuel
    keyword "done"
    return body

/-- Reads branches after the word that opens them. -/
def readBranches (fuel : Nat) : Reader Command :=
  match fuel with
  | 0 => reject
  | fuel + 1 => do
    let condition ← readBody fuel
    keyword "then"
    let body ← readBody fuel
    match ← peekBare with
    | some "elif" =>
      advance
      return .branches [(condition, body)] (← readBranches fuel)
    | some "else" =>
      advance
      let otherwise ← readBody fuel
      keyword "fi"
      return .branches [(condition, body)] otherwise
    | _ =>
      keyword "fi"
      return .branches [(condition, body)] skip

/-- Reads a loop over words. -/
def readEach (fuel : Nat) : Reader Command :=
  match fuel with
  | 0 => reject
  | fuel + 1 => do
    match (← peekBare).filter isName with
    | none => throw (.badLoopName, ← loopNameLine)
    | some name =>
      advance
      skipLines
      if (← peekBare) == some "in" then
        advance
        let words ← wordsUpTo (← get).length
        if (← atOperator ";") || (← atOperator "\n") then advance else reject
        skipLines
        return .each name (some words) (← readLoopBody fuel)
      else
        if ← atOperator ";" then advance
        skipLines
        return .each name none (← readLoopBody fuel)

/-- Reads a choice by patterns. -/
def readSelect (fuel : Nat) : Reader Command :=
  match fuel with
  | 0 => reject
  | fuel + 1 => do
    match ← peek with
    | some (.word subject) =>
      advance
      skipLines
      keyword "in"
      return .select subject (← readCases fuel)
    | _ => rejectFor (some "word")

/-- Reads the cases of a choice. -/
def readCases (fuel : Nat) : Reader (List (List Word × Command)) :=
  match fuel with
  | 0 => reject
  | fuel + 1 => do
    skipLines
    if (← peekBare) == some "esac" then
      advance
      return []
    if ← atOperator "(" then advance
    let patterns ← patternsUpTo (← get).length
    let body ← readList fuel
    if ← atOperator ";;" then
      advance
      return (patterns, .sequence body) :: (← readCases fuel)
    if (← peekBare) == some "esac" then
      advance
      return [(patterns, .sequence body)]
    rejectFor (some "\";;\"")

end

/-- Reads the commands of one line, which may go on over others. -/
def readLine (fuel : Nat) : Reader (List Command) :=
  match fuel with
  | 0 => reject
  | fuel + 1 => do
    let command ← readAndOr fuel
    let isBackground ← atOperator "&"
    let first := if isBackground then .background command else command
    if isBackground || (← atOperator ";") then
      advance
      if (← peek).isNone || (← atOperator "\n") then return [first]
      return first :: (← readLine fuel)
    if (← peek).isNone || (← atOperator "\n") then return [first]
    reject

/-- Reads lines up to the end, or up to a fault. -/
def readLines (lineFuel : Nat) : (fuel : Nat) → List Lexeme →
    List Command × Option (GrammarFault × Nat)
  | 0, _ => ([], none)
  | fuel + 1, lexemes =>
    match (do skipLines; peek : Reader (Option Token)).run lexemes with
    | .error fault => ([], some fault)
    | .ok (none, _) => ([], none)
    | .ok (some _, lexemes) =>
      match (readLine lineFuel).run lexemes with
      | .error fault => ([], some fault)
      | .ok (commands, rest) =>
        let (lines, fault) := readLines lineFuel fuel rest
        (.sequence commands :: lines, fault)

/-- The lines of a program, each with all that belongs to it, and the fault at which they end. -/
def ofSource (source : String) : List Command × Option (GrammarFault × Nat) :=
  let lexemes := Token.read source
  readLines (12 * lexemes.length + 12) (lexemes.length + 1) lexemes

end Command

end ScanLauncher.Shell
