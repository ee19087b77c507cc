import DeskCalculator.Text.DecimalDigit
import DeskCalculator.Text.Quoted

/-! Command lines. The options are `--config` with a value, `--no-voice`, `--verbose`, `--help` and `-h`. A
long option may be cut short as long as one option is meant; a value may be the next word or follow
an equals sign. A double dash ends the options, and is no value. All words are told apart before any of
them takes effect. -/

namespace DeskCalculator.CommandLine

inductive Flag where
  | help
  | config
  | noVoice
  | verbose
deriving DecidableEq, Repr

def spellings : List (String × Flag) :=
  [("-h", .help), ("--help", .help), ("--config", .config), ("--no-voice", .noVoice),
    ("--verbose", .verbose)]

def Flag.label : Flag → String
  | .help => "-h/--help"
  | .config => "--config"
  | .noVoice => "--no-voice"
  | .verbose => "--verbose"

/-- The word of an option may hold a value: after an equals sign, or right after a short option. -/
inductive Word where
  | operand
  | divider
  | unknown
  | option (flag : Flag) (short : Bool) (value : Option (List Char))
deriving DecidableEq, Repr

inductive UsageError where
  | ambiguous (word : String) (candidates : List String)
  | missingValue (flag : Flag)
  | unwantedValue (flag : Flag) (value : String)
  | unrecognized (words : List String)
deriving DecidableEq, Repr

def UsageError.message : UsageError → String
  | .ambiguous word candidates =>
    "ambiguous option: " ++ word ++ " could match " ++ String.intercalate ", " candidates
  | .missingValue flag => "argument " ++ flag.label ++ ": expected one argument"
  | .unwantedValue flag value =>
    "argument " ++ flag.label ++ ": ignored explicit argument " ++ Text.quoted value
  | .unrecognized words => "unrecognized arguments: " ++ String.intercalate " " words

def isShort (spelling : String) : Bool :=
  !spelling.startsWith "--"

def spelled? (word : List Char) : Option (String × Flag) :=
  spellings.find? fun entry => entry.1.toList = word

def splitEquals (word : List Char) : List Char × Option (List Char) :=
  match word.dropWhile (· ≠ '=') with
  | [] => (word, none)
  | _ :: value => (word.takeWhile (· ≠ '='), some value)

def candidates (word : List Char) : List (String × Word) :=
  match word with
  | '-' :: '-' :: _ =>
    let (start, value) := splitEquals word
    (spellings.filter fun entry => start.isPrefixOf entry.1.toList).map fun entry =>
      (entry.1, .option entry.2 (isShort entry.1) value)
  | '-' :: letter :: value =>
    (spellings.filter fun entry => entry.1.toList = ['-', letter]).map fun entry =>
      (entry.1, .option entry.2 true (some value))
  | _ => []

def isDecimal (character : Char) : Bool :=
  (Text.digitValue? character).isSome

def isUnsignedNumber (text : List Char) : Bool :=
  match text.dropWhile isDecimal with
  | [] => text ≠ []
  | '.' :: fraction => fraction ≠ [] && fraction.all isDecimal
  | _ => false

/-- A line break at the end does not count. -/
def isNegativeNumber (word : List Char) : Bool :=
  match word with
  | '-' :: number =>
    isUnsignedNumber number ||
      (number.getLast? = some '\n' && isUnsignedNumber number.dropLast)
  | _ => false

/-- Negative numbers and words with a space are operands unless they name an option. -/
def classify (word : String) : Except UsageError Word :=
  let characters := word.toList
  match characters with
  | '-' :: _ :: _ =>
    match spelled? characters with
    | some (spelling, flag) => .ok (.option flag (isShort spelling) none)
    | none =>
      let (start, value) := splitEquals characters
      match value, spelled? start with
      | some value, some (spelling, flag) =>
        .ok (.option flag (isShort spelling) (some value))
      | _, _ =>
        match candidates characters with
        | [] =>
          if isNegativeNumber characters || characters.contains ' ' then .ok .operand
          else .ok .unknown
        | [(_, meant)] => .ok meant
        | several => .error (.ambiguous word (several.map Prod.fst))
  | _ => .ok .operand

/-- Every word with its kind; after a double dash all words are operands. -/
def classifyAll : List String → Except UsageError (List (String × Word))
  | [] => .ok []
  | word :: rest =>
    if word = "--" then .ok ((word, .divider) :: rest.map (·, .operand))
    else
      match classify word, classifyAll rest with
      | .error error, _ => .error error
      | _, .error error => .error error
      | .ok kind, .ok others => .ok ((word, kind) :: others)

structure Request where
  configPath : Option String := none
  noVoice : Bool := false
  verbose : Bool := false
deriving DecidableEq, Repr

inductive Parsed where
  | run (request : Request)
  | help
  | refused (error : UsageError)
deriving DecidableEq, Repr

/-- The letters of a value that are short options without a value are taken for such options; what comes
after them. -/
def afterCluster : List Char → List Char
  | [] => []
  | letter :: rest => if (spelled? ['-', letter]).isSome then afterCluster rest else letter :: rest

def unwanted? (short : Bool) : Option (List Char) → Option (List Char)
  | none => none
  | some [] => some []
  | some value =>
    if ¬ short then some value
    else if afterCluster value = [] then none
    else some (afterCluster value)

/-- The path that a value names. A double dash names none, and takes back what was named before. -/
def pathOf (value : List Char) : Option String :=
  if value = ['-', '-'] then none else some (String.ofList value)

def interpret (request : Request) (extras : List String) : List (String × Word) → Parsed
  | [] => if extras = [] then .run request else .refused (.unrecognized extras)
  | (_, .option .config _ (some value)) :: rest =>
    interpret { request with configPath := pathOf value } extras rest
  | (_, .option .config _ none) :: (path, .operand) :: rest =>
    interpret { request with configPath := some path } extras rest
  | (_, .option .config _ none) :: _ => .refused (.missingValue .config)
  | (_, .option flag short value) :: rest =>
    match unwanted? short value with
    | some value => .refused (.unwantedValue flag (String.ofList value))
    | none =>
      match flag with
      | .help => .help
      | .noVoice => interpret { request with noVoice := true } extras rest
      | .verbose => interpret { request with verbose := true } extras rest
      | .config => .refused (.missingValue .config)
  | (word, _) :: rest => interpret request (extras ++ [word]) rest

def parse (words : List String) : Parsed :=
  match classifyAll words with
  | .error error => .refused error
  | .ok kinds => interpret {} [] kinds

def programName : String := "calculadora-arbol"

def helpLines : List String :=
  ["usage: " ++ programName ++ " [-h] [--config CONFIG] [--no-voice] [--verbose]", "",
    "Calculadora de arbol de expresiones", "", "options:",
    "  -h, --help       show this help message and exit",
    "  --config CONFIG  archivo JSON de configuración",
    "  --no-voice       desactivar feedback por voz",
    "  --verbose        diagnóstico de memoria en consola"]

def errorLine (error : UsageError) : String :=
  programName ++ ": error: " ++ error.message

end DeskCalculator.CommandLine
