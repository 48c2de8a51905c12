import Cosmac.Console.Option

/-!
# Command lines

`CommandLine.ofArguments` reads the arguments of a command. Options may stand anywhere and may be
shortened as long as only one fits; the one argument that is neither an option nor the value of one
is the program. After a double dash every argument is a word, whatever it looks like.
-/

set_option autoImplicit false

namespace Cosmac

/-! ### Refusals -/

/-- What is wrong with a command line. -/
inductive UsageError where
  /-- A shortened option fits several. -/
  | ambiguous (text : String)
  /-- An option that stands alone has a value. -/
  | unexpectedValue (text : String)
  /-- An option that needs a value has none. -/
  | missingValue (setting : Setting)
  /-- The value of an option is not of the right kind. -/
  | badValue (setting : Setting) (value : String)
  /-- There is no program. -/
  | missingProgram
  /-- Nobody asked for these arguments. -/
  | unrecognized (texts : List String)
  deriving DecidableEq, Repr

/-- The spelling of a setting. -/
def Setting.spelling (setting : Setting) : String :=
  ((Flag.spellings.find? fun entry ↦ entry.2 = .setting setting).map Prod.fst).getD ""

/-- The wording of an error. -/
def UsageError.message : UsageError → String
  | ambiguous text => "ambiguous option: " ++ text
  | unexpectedValue text => "unexpected value: " ++ text
  | missingValue setting => setting.spelling ++ " needs a value"
  | badValue setting value => "invalid value for " ++ setting.spelling ++ ": " ++ value
  | missingProgram => "a program is required"
  | unrecognized texts => "unrecognized arguments: " ++ " ".intercalate texts

/-- Why a command line is not carried out. -/
inductive Refusal where
  /-- It asks for help. -/
  | help
  /-- It is wrong. -/
  | misuse (cause : UsageError)
  deriving DecidableEq, Repr

/-- The exit code of a refusal. -/
def Refusal.exitCode : Refusal → Nat
  | help => 0
  | misuse _ => 2

/-! ### Arguments -/

/-- What an argument is by its form. -/
inductive Argument where
  /-- The program, or the value of the option before it. -/
  | word (text : String)
  /-- An option, with the value that is attached to it. -/
  | option (flag : Flag) (attached : Option String)
  /-- A cluster of one-letter options that cannot be taken apart. -/
  | badCluster (text : String)
  /-- It looks like an option, but there is none of that name. -/
  | unknown (text : String)
  /-- A double dash. -/
  | separator
  deriving DecidableEq, Repr

namespace Argument

/-- The characters before the first equals sign, and those after it if there is one. -/
def splitValue (cs : List Char) : List Char × Option (List Char) :=
  (cs.takeWhile (· ≠ '='),
    match cs.dropWhile (· ≠ '=') with
    | _ :: value => some value
    | [] => none)

/-- Whether characters are a negative number: a minus sign and digits, perhaps with a point that
has digits after it. A final line feed does not count. -/
def isNegativeNumber (cs : List Char) : Bool :=
  let isDigit (c : Char) : Bool := (Text.decimalDigit? c).isSome
  match if cs.getLast? = some '\n' then cs.dropLast else cs with
  | '-' :: rest =>
    match rest.dropWhile isDigit with
    | [] => !rest.isEmpty
    | '.' :: fraction => !fraction.isEmpty && fraction.all isDigit
    | _ => false
  | _ => false

/-- What the letter for help is together with the characters after it. Those may be more of the same
letter, perhaps after an equals sign, and nothing else. -/
def ofHelpCluster (text : String) (letters : List Char) : Argument :=
  let more := if letters.head? = some '=' then letters.drop 1 else letters
  if !more.isEmpty && more.all (· = 'h') then option .help none else badCluster text

/-- The argument that starts with a dash and is no option as it stands. -/
def ofDashed (text : String) : Except UsageError Argument :=
  let cs := text.toList
  let (name, value) := splitValue cs
  let attached := value.map String.ofList
  let fitting := Flag.spellings.filter fun entry ↦ name.isPrefixOf entry.1.toList
  match cs with
  | ['-'] => .ok (word text)
  | '-' :: 'h' :: letters => .ok (ofHelpCluster text letters)
  | '-' :: '-' :: _ =>
    match Flag.ofSpelling? (String.ofList name), fitting with
    | some flag, _ => .ok (option flag attached)
    | none, [(_, flag)] => .ok (option flag attached)
    | none, [] => .ok (if cs.contains ' ' then word text else unknown text)
    | none, _ => .error (.ambiguous text)
  | _ => .ok (if isNegativeNumber cs || cs.contains ' ' then word text else unknown text)

/-- What an argument is that stands before any double dash. -/
def ofText (text : String) : Except UsageError Argument :=
  if !text.startsWith "-" then .ok (word text)
  else
    match Flag.ofSpelling? text with
    | some flag => .ok (option flag none)
    | none => ofDashed text

/-- What the arguments of a command line are. -/
def ofTexts : List String → Except UsageError (List Argument)
  | [] => .ok []
  | text :: rest =>
    if text = "--" then .ok (separator :: rest.map word)
    else do return (← ofText text) :: (← ofTexts rest)

end Argument

/-! ### Reading -/

/-- A command line that can be carried out. -/
structure CommandLine where
  /-- The program file. -/
  program : String
  /-- What else is asked for. -/
  options : Options
  deriving DecidableEq, Repr

namespace CommandLine

/-- The form of a command line. -/
def usage : String :=
  "usage: cosmac [options] program\noptions: " ++ " ".intercalate (Flag.spellings.map Prod.fst)

/-- What has been read of a command line. -/
structure Draft where
  /-- The program, once it has been read. -/
  program : Option String
  /-- The options so far. -/
  options : Options
  /-- The arguments that nobody asked for, the last one first. -/
  unrecognized : List String

namespace Draft

/-- Takes a word: the first one is the program. -/
def take (draft : Draft) (text : String) : Draft :=
  if draft.program.isNone then { draft with program := some text }
  else { draft with unrecognized := text :: draft.unrecognized }

/-- Gives a setting its value. -/
def assign (draft : Draft) (setting : Setting) (value : String) : Except Refusal Draft :=
  match draft.options.assign? setting value with
  | some options => .ok { draft with options := options }
  | none => .error (.misuse (.badValue setting value))

/-- Reads arguments in order. A double dash belongs to the program that stands beside it, and one
that is attached to a setting is no value. -/
def readAll (draft : Draft) : List Argument → Except Refusal Draft
  | [] => .ok draft
  | .word text :: .separator :: rest =>
    if draft.program.isNone then (draft.take text).readAll rest
    else ((draft.take text).take "--").readAll rest
  | .word text :: rest => (draft.take text).readAll rest
  | .separator :: rest => (if draft.program.isNone then draft else draft.take "--").readAll rest
  | .unknown text :: rest => readAll { draft with unrecognized := text :: draft.unrecognized } rest
  | .badCluster text :: _ => .error (.misuse (.unexpectedValue text))
  | .option .help none :: _ => .error .help
  | .option (.switch switch) none :: rest =>
    readAll { draft with options := draft.options.flip switch } rest
  | .option .help (some value) :: _ | .option (.switch _) (some value) :: _ =>
    .error (.misuse (.unexpectedValue value))
  | .option (.setting setting) (some "--") :: rest =>
    readAll { draft with options := draft.options.blank setting } rest
  | .option (.setting setting) (some value) :: rest =>
    match draft.assign setting value with
    | .ok draft => draft.readAll rest
    | .error refusal => .error refusal
  | .option (.setting setting) none :: .word value :: rest =>
    match draft.assign setting value with
    | .ok draft => draft.readAll rest
    | .error refusal => .error refusal
  | .option (.setting setting) none :: _ => .error (.misuse (.missingValue setting))

/-- The command line of a draft, if it has a program and nothing that nobody asked for. -/
def finish (draft : Draft) : Except Refusal CommandLine :=
  match draft.program, draft.unrecognized with
  | none, _ => .error (.misuse .missingProgram)
  | some program, [] => .ok ⟨program, draft.options⟩
  | some _, texts => .error (.misuse (.unrecognized texts.reverse))

end Draft

/-- Reads the arguments of a command line. -/
def ofArguments (texts : List String) : Except Refusal CommandLine :=
  match Argument.ofTexts texts with
  | .error cause => .error (.misuse cause)
  | .ok arguments =>
    match Draft.readAll ⟨none, .usual, []⟩ arguments with
    | .error refusal => .error refusal
    | .ok draft => draft.finish

end CommandLine

end Cosmac
