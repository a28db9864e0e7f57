import ScanLauncher.Shell.Word

/-!
The tokens of a shell program: words, operators and redirections, each with the line it stands on.
-/
namespace ScanLauncher.Shell

/-- A token. -/
inductive Token where
  | word (pieces : Word)
  /-- An operator between commands; a line end is one too. -/
  | operator (text : String)
  /-- An operator that redirects a stream, and the stream if it is named. -/
  | redirection (stream : Option Nat) (text : String)
  /-- Text given in place as the input of a command. -/
  | document (content : Word)
  /-- What is no token. -/
  | broken (cause : GrammarFault)
  /-- The end of the program. -/
  | finish

/-- A token and its line. -/
structure Lexeme where
  token : Token
  line : Nat

namespace Token

/-- The operators between commands, longer ones first. -/
def operators : List String := ["&&", "||", ";;", ";", "&", "|", "(", ")", "\n"]

/-- The operators that redirect, longer ones first. -/
def redirections : List String := [">>", ">&", ">|", "<&", "<>", ">", "<"]

/-- The first of some texts that the characters begin with, and what follows it. -/
def takeOneOf (texts : List String) (chars : List Char) : Option (String × List Char) :=
  (texts.find? fun text => text.toList.isPrefixOf chars).map fun text =>
    (text, chars.drop text.length)

/-- The digits that name a stream, if a redirection follows them right away. -/
def takeStream (chars : List Char) : Option (Nat × List Char) :=
  let digits := chars.takeWhile Char.isDigit
  match chars.dropWhile Char.isDigit with
  | '<' :: _ | '>' :: _ =>
    if digits.isEmpty then none
    else
      some (digits.foldl (fun n c => 10 * n + (c.toNat - '0'.toNat)) 0, chars.drop digits.length)
  | _ => none

/-- The text of a document up to its closing mark, and what follows. The last line may lack its
end. -/
def takeDocument (mark : List Char) (dropTabs : Bool) :
    List (List Char) → List Char × List (List Char)
  | [] => ([], [])
  | line :: rest =>
    let line := if dropTabs then line.dropWhile (· == '\t') else line
    if line == mark then ([], rest)
    else if rest.isEmpty then (line, [])
    else
      match takeDocument mark dropTabs rest with
      | (body, rest) => (line ++ '\n' :: body, rest)

/-- The plain text of the closing mark of a document, and whether it was quoted. -/
def markText : Word → List Char × Bool
  | [] => ([], false)
  | .text s isQuoted :: rest =>
    match markText rest with
    | (chars, quoted) => (s.toList ++ chars, quoted || isQuoted)
  | _ :: rest => markText rest

/-- Reads a document given in place. Its text begins on the next line; the rest of this line, and
what follows the document, are read on. -/
def readDocument (chars : List Char) : Except GrammarFault (Word × List Char) := do
  let dropTabs := chars.head? == some '-'
  let chars := (if dropTabs then chars.drop 1 else chars).dropWhile fun c => c == ' ' || c == '\t'
  let (markWord, rest) ← Word.read chars
  if markWord.isEmpty then
    throw (.unexpected (if rest.isEmpty then "end of file" else "newline") none)
  let (mark, isQuoted) := markText markWord
  let line := rest.takeWhile (· != '\n')
  let (content, after) :=
    takeDocument mark dropTabs (((rest.drop line.length).drop 1).splitOn '\n')
  let pieces ←
    if isQuoted then pure [Piece.text (String.ofList content) true]
    else Word.ofQuotation content
  return (pieces, line ++ '\n' :: List.intercalate ['\n'] after)

/-- The tokens of a text that starts on a line, up to its end or to what is no token. -/
def readFrom (fuel line : Nat) (chars : List Char) : List Lexeme :=
  match fuel with
  | 0 => [⟨.finish, line⟩]
  | fuel + 1 =>
    match chars with
    | [] => [⟨.finish, line⟩]
    | c :: rest =>
      if c == ' ' || c == '\t' then readFrom fuel line rest
      else if c == '\\' && rest.head? == some '\n' then readFrom fuel (line + 1) (rest.drop 1)
      else if c == '#' then readFrom fuel line (rest.dropWhile (· != '\n'))
      else if ['<', '<'].isPrefixOf chars then
        match readDocument (chars.drop 2) with
        | .error fault => [⟨.broken fault, line + chars.count '\n'⟩]
        | .ok (content, rest) => ⟨.document content, line⟩ :: readFrom fuel line rest
      else
        let (stream, unnamed) :=
          match takeStream chars with
          | some (n, rest) => (some n, rest)
          | none => (none, chars)
        match takeOneOf redirections unnamed, takeOneOf operators chars with
        | some (text, rest), _ => ⟨.redirection stream text, line⟩ :: readFrom fuel line rest
        | none, some (text, rest) =>
          let next := if text == "\n" then line + 1 else line
          ⟨.operator text, line⟩ :: readFrom fuel next rest
        | none, none =>
          match Word.read chars with
          | .error fault =>
            [⟨.broken fault, line + chars.count '\n'⟩]
          | .ok (pieces, rest) =>
            let next := line + (chars.take (chars.length - rest.length)).count '\n'
            ⟨.word pieces, line⟩ :: readFrom fuel next rest

/-- The tokens of a program. -/
def read (source : String) : List Lexeme :=
  readFrom (2 * source.length + 2) 1 source.toList

end Token

end ScanLauncher.Shell
