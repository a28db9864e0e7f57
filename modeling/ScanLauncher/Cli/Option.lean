import ScanLauncher.Cli.Grammar
import ScanLauncher.Files.Path
import ScanLauncher.Number.Numeral
import ScanLauncher.Text.Quoted
import ScanLauncher.Value.Basic

/-!
Command lines read by a grammar. A long option may be shortened as long as only one is meant; flags
of one letter may be written together; a value follows an equals sign or is the next argument; and
after two dashes nothing is an option any more.
-/
namespace ScanLauncher.Cli

/-- Why a command line is not carried out. -/
inductive Refusal where
  /-- The help text was asked for. -/
  | help (grammar : Grammar)
  /-- The line is wrong: the grammar that it breaks, and how. -/
  | misuse (grammar : Grammar) (message : Text)
deriving DecidableEq, Repr

namespace Refusal

/-- What a user reads of a refusal, in lines of some width. -/
def text (width : Int) : Refusal → Text
  | help grammar => grammar.help width
  | misuse grammar message =>
    grammar.usage width ++ (grammar.program ++ ": error: ") ++ message ++ "\n"

end Refusal

namespace Grammar

/-- The refusal of a wrong line. -/
def refuse {α : Type} (grammar : Grammar) (message : Text) : Except Refusal α :=
  .error (.misuse grammar message)

/-- The refusal of a wrong option. -/
def refuseOption {α : Type} (grammar : Grammar) (option : OptionSpec) (message : Text) :
    Except Refusal α :=
  grammar.refuse ("argument " ++ option.display ++ ": " ++ message)

/-- All spellings of options, in order. -/
def spellings (grammar : Grammar) : List (String × OptionSpec) :=
  grammar.options.flatMap fun option => option.names.map (·, option)

/-- The option that a text spells. -/
def spelled? (grammar : Grammar) (text : Text) : Option (String × OptionSpec) :=
  grammar.spellings.find? fun (name, _) => Text.ofString name == text

end Grammar

/-- An argument that was recognised as an option. -/
structure OptionUse where
  option : OptionSpec
  /-- The spelling that was meant. -/
  name : String
  /-- The value written into the same argument. -/
  attached : Option Text
deriving DecidableEq, Repr

/-- What an argument is, with its own text. -/
inductive Item where
  | operand (text : Text)
  /-- The two dashes that end the options. -/
  | divider
  | named (text : Text) (use : OptionUse)
  | unknown (text : Text)
deriving DecidableEq, Repr

namespace Item

/-- The argument's own text. -/
def text : Item → Text
  | operand text => text
  | divider => "--"
  | named text _ => text
  | unknown text => text

/-- A digit of any script. -/
def isDigit (g : Glyph) : Bool := g.isIn fun c => (Text.digitValue? c).isSome

/-- A text without a line feed at its end. -/
def chomp (glyphs : List Glyph) : List Glyph :=
  if glyphs.getLast? == some (.char '\n') then glyphs.dropLast else glyphs

/-- Whether a text is a negative number, which is never an option. A line feed may end it. -/
def isNegativeNumber (text : Text) : Bool :=
  match chomp text.glyphs with
  | .char '-' :: rest =>
    match rest.dropWhile isDigit with
    | [] => !rest.isEmpty
    | .char '.' :: fraction => !fraction.isEmpty && fraction.all isDigit
    | _ => false
  | _ => false

/-- The text before the first equals sign, and after it. -/
def splitAtEquals (text : Text) : Text × Option Text :=
  match text.glyphs.dropWhile (· != .char '=') with
  | _ :: rest => (⟨text.glyphs.takeWhile (· != .char '=')⟩, some ⟨rest⟩)
  | [] => (text, none)

/-- The options that a shortened long spelling may mean. -/
def longMatches (grammar : Grammar) (text : Text) : List OptionUse :=
  let (stem, attached) := splitAtEquals text
  (grammar.spellings.filter fun (name, _) => Text.startsWith name stem).map
    fun (name, option) => ⟨option, name, attached⟩

/-- The options that a text with one dash may mean: a letter with something attached, or a shortened
spelling. -/
def shortMatches (grammar : Grammar) (text : Text) : List OptionUse :=
  grammar.spellings.filterMap fun (name, option) =>
    if Text.ofString name == text.take 2 then some ⟨option, name, some (text.drop 2)⟩
    else if Text.startsWith name text then some ⟨option, name, none⟩
    else none

/-- The options that a text may mean. -/
def candidates (grammar : Grammar) (text : Text) : List OptionUse :=
  if text.startsWith "--" then longMatches grammar text else shortMatches grammar text

/-- The option that a text spells exactly, perhaps with a value attached. -/
def exactUse? (grammar : Grammar) (text : Text) : Option OptionUse :=
  match grammar.spelled? text with
  | some (name, option) => some ⟨option, name, none⟩
  | none =>
    match splitAtEquals text with
    | (stem, some attached) =>
      (grammar.spelled? stem).map fun (name, option) => ⟨option, name, some attached⟩
    | (_, none) => none

/-- What an argument before the divider is. -/
def ofText (grammar : Grammar) (text : Text) : Except Refusal Item :=
  if !text.startsWith "-" || text.length == 1 then .ok (.operand text)
  else
    match exactUse? grammar text with
    | some use => .ok (.named text use)
    | none =>
      match candidates grammar text with
      | [use] => .ok (.named text use)
      | [] =>
        if isNegativeNumber text || text.contains ' ' then .ok (.operand text)
        else .ok (.unknown text)
      | uses =>
        grammar.refuse ("ambiguous option: " ++ text ++ " could match " ++
          String.intercalate ", " (uses.map OptionUse.name))

/-- What the arguments of a line are. -/
def ofTexts (grammar : Grammar) : List Text → Except Refusal (List Item)
  | [] => .ok []
  | text :: rest =>
    if text == "--" then .ok (.divider :: rest.map .operand)
    else do return (← ofText grammar text) :: (← ofTexts grammar rest)

end Item

/-- What a line comes to: settings in the order given, arguments that nothing wanted, and the
command with the rest of the line. -/
structure Reading where
  settings : List (String × Value) := []
  extras : List Text := []
  command : Option (Text × List Text) := none
deriving Repr

namespace Reading

/-- The value of a setting; the last one given counts. -/
def get? (reading : Reading) (name : String) : Option Value :=
  reading.settings.reverse.lookup name

/-- Whether a setting was given. -/
def has (reading : Reading) (name : String) : Bool := (reading.get? name).isSome

/-- Gives a setting a value. -/
def give (reading : Reading) (name : String) (value : Value) : Reading :=
  { reading with settings := reading.settings ++ [(name, value)] }

/-- Adds an argument that nothing wanted. -/
def leave (reading : Reading) (text : Text) : Reading :=
  { reading with extras := reading.extras ++ [text] }

end Reading

namespace Grammar

/-- The value that a text gives an option. -/
def valueOf (grammar : Grammar) (option : OptionSpec) (text : Text) : Except Refusal Value :=
  match option.kind with
  | .int =>
    match text.toChars?.map Numeral.readInt with
    | some (.value n) => .ok (.int n)
    | _ => grammar.refuseOption option ("invalid int value: " ++ Text.quoted text)
  | .float =>
    match text.toChars?.bind Numeral.readFloat? with
    | some x => .ok (.float x 0)
    | none => grammar.refuseOption option ("invalid float value: " ++ Text.quoted text)
  | .path => .ok (.text (Path.ofText text).text)
  | _ => .ok (.text text)

/-- Sets an option that takes no value. -/
def setFlag (grammar : Grammar) (reading : Reading) (option : OptionSpec) :
    Except Refusal Reading :=
  match option.kind with
  | .help => .error (.help grammar)
  | _ => .ok (reading.give option.setting (.bool true))

/-- Sets flags in order. -/
def setFlags (grammar : Grammar) (reading : Reading) (options : List OptionSpec) :
    Except Refusal Reading :=
  options.foldlM (setFlag grammar) reading

/-- The flags that letters written after a first one mean. -/
def moreFlags (grammar : Grammar) (option : OptionSpec) :
    (letters : List Glyph) → Except Refusal (List OptionSpec)
  | [] => .ok [option]
  | g :: rest =>
    match grammar.spelled? ⟨[.char '-', g]⟩ with
    | some (_, next) => do return option :: (← moreFlags grammar next rest)
    | none =>
      grammar.refuseOption option ("ignored explicit argument " ++ Text.quoted ⟨g :: rest⟩)

/-- Sets an option to a value written into its own argument; two dashes are the divider there too,
and leave the option with a list of no values. A flag takes none, but letters after a flag of one
letter are flags too. -/
def setAttached (grammar : Grammar) (reading : Reading) (use : OptionUse) (attached : Text) :
    Except Refusal Reading :=
  if use.option.takesValue then
    if attached == "--" then .ok (reading.give use.option.setting (.list []))
    else do return reading.give use.option.setting (← grammar.valueOf use.option attached)
  else if !Text.startsWith use.name "--" && !attached.isEmpty then do
    grammar.setFlags reading (← grammar.moreFlags use.option attached.glyphs)
  else
    grammar.refuseOption use.option ("ignored explicit argument " ++ Text.quoted attached)

/-- Reads the items of a line. `wanted` is the operand still missing. -/
def readItems (grammar : Grammar) (wanted : Option String) (reading : Reading) :
    List Item → Except Refusal (Reading × Option String)
  | [] => .ok (reading, wanted)
  | .unknown text :: rest => readItems grammar wanted (reading.leave text) rest
  | .named _ use :: rest =>
    match use.attached with
    | some attached => do
      readItems grammar wanted (← grammar.setAttached reading use attached) rest
    | none =>
      if use.option.takesValue then
        match rest with
        | .operand text :: rest => do
          let value ← grammar.valueOf use.option text
          readItems grammar wanted (reading.give use.option.setting value) rest
        | _ => grammar.refuseOption use.option "expected one argument"
      else do readItems grammar wanted (← grammar.setFlag reading use.option) rest
  | .operand text :: rest =>
    match grammar.operands, wanted with
    | .command _, _ => .ok ({ reading with command := some (text, rest.map Item.text) }, wanted)
    | _, some setting =>
      match rest with
      | .divider :: rest => readItems grammar none (reading.give setting (.text text)) rest
      | rest => readItems grammar none (reading.give setting (.text text)) rest
    | _, none => readItems grammar wanted (reading.leave text) rest
  | .divider :: rest =>
    match grammar.operands, wanted, rest with
    | .command _, _, _ :: _ =>
      .ok ({ reading with command := some ("--", rest.map Item.text) }, wanted)
    | _, some setting, .operand text :: rest =>
      readItems grammar none (reading.give setting (.text text)) rest
    | _, _, rest => readItems grammar wanted (reading.leave "--") rest

/-- Reads a line. -/
def read (grammar : Grammar) (line : List Text) : Except Refusal Reading := do
  let items ← Item.ofTexts grammar line
  let wanted :=
    match grammar.operands with
    | .one setting _ => some setting
    | _ => none
  match ← grammar.readItems wanted {} items with
  | (reading, none) => return reading
  | (_, some setting) => grammar.refuse ("the following arguments are required: " ++ setting)

end Grammar

end ScanLauncher.Cli
