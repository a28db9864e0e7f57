import ScanLauncher.Text.Basic

/-!
The options of commands: letters after a dash, alone or together, some of which take a value.
-/
namespace ScanLauncher.Shell

/-- Options and what follows them. -/
structure Options where
  /-- The options that were given, with the values of those that take one. -/
  given : List (Char × String) := []
  operands : List String := []

namespace Options

/-- Whether an option was given. -/
def has (options : Options) (letter : Char) : Bool := options.given.any (·.1 == letter)

/-- The letters of one word. A letter that takes a value takes the rest of the word; where that is
empty the letter is returned, because the next word is its value. -/
def letters (flags valued : List Char) :
    List Char → Except String (List (Char × String) × Option Char)
  | [] => .ok ([], none)
  | c :: rest =>
    if valued.contains c then
      if rest.isEmpty then .ok ([], some c) else .ok ([(c, String.ofList rest)], none)
    else if flags.contains c then do
      let (more, wantsNext) ← letters flags valued rest
      return ((c, "") :: more, wantsNext)
    else .error ("Illegal option -" ++ String.ofList [c])

/-- The options at the front of some words, up to the first word that is none, or why they make no
sense. -/
def read (flags valued : List Char) : List String → Except String Options
  | [] => .ok {}
  | word :: rest =>
    match word.toList with
    | ['-', '-'] => .ok { operands := rest }
    | '-' :: c :: more => do
      match ← letters flags valued (c :: more), rest with
      | (given, none), rest =>
        let options ← read flags valued rest
        return { options with given := given ++ options.given }
      | (_, some letter), [] => throw ("No arg for -" ++ String.ofList [letter] ++ " option")
      | (given, some letter), value :: rest =>
        let options ← read flags valued rest
        return { options with given := given ++ (letter, value) :: options.given }
    | _ => .ok { operands := word :: rest }

end Options

end ScanLauncher.Shell
