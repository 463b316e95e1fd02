import ChannelBus.Document
import ChannelBus.Workload.Run

/-!
# The command line

The program runs one workload. Its options give the size of the workload and the file that holds the
configuration of the bus. It prints the summary, or says why there is none.
-/

namespace ChannelBus

/-- A summary as a document. -/
def Summary.toJson (summary : Summary) : Json.Value :=
  .object
    [("capacity", .number summary.capacity),
      ("expected", .number summary.expected),
      ("delivered", .number summary.delivered),
      ("per_consumer", .array (summary.perConsumer.map .number)),
      ("in_order", .boolean summary.inOrder),
      ("stats", summary.stats.toJson)]

namespace CommandLine

/-- An option that takes a value. -/
inductive Flag where
  /-- The capacity of the channel. -/
  | capacity
  /-- The number of producers. -/
  | producers
  /-- The number of consumers. -/
  | consumers
  /-- The messages of each producer. -/
  | messages
  /-- The size of batches. -/
  | batch
  /-- The file of the configuration. -/
  | config
deriving DecidableEq

/-- The option with this long name. -/
def Flag.ofLong? : String → Option Flag
  | "capacity" => some .capacity
  | "producers" => some .producers
  | "consumers" => some .consumers
  | "messages" => some .messages
  | "batch" => some .batch
  | "config" => some .config
  | _ => none

/-- The option with this letter. -/
def Flag.ofLetter? : Char → Option Flag
  | 'c' => some .capacity
  | 'p' => some .producers
  | 'm' => some .messages
  | 'b' => some .batch
  | _ => none

/-- What the program is asked to do. -/
structure Options where
  /-- The workload to run. -/
  workload : Workload
  /-- The file that holds the configuration. -/
  config : Option String

/-- What the program does if nothing is asked. -/
def Options.default : Options :=
  { workload := { capacity := 4, producers := 3, consumers := 2, messages := 1000, batch := none }
    config := none }

/-! ## Values -/

/-- The number that a run of digits stands for. -/
def digits? (text : List Char) : Option Nat :=
  if text.isEmpty then none
  else text.foldl (fun value c => return (← value) * 10 + (← Json.decimalDigit? c)) (some 0)

/-- The first number that does not fit half a word, `2 ^ 32`. -/
def halfWordLimit : Nat := 0x100000000

/-- A number with an optional plus sign that fits a word. -/
def word? (text : List Char) : Option Nat :=
  let digits := match text with
    | '+' :: rest => rest
    | _ => text
  (digits? digits).filter (· < Json.wordLimit)

/-- A number with an optional sign that is not negative and fits half a word. -/
def halfWord? (text : List Char) : Option Nat :=
  match text with
  | '-' :: rest => (digits? rest).filter (· == 0)
  | '+' :: rest => (digits? rest).filter (· < halfWordLimit)
  | _ => (digits? text).filter (· < halfWordLimit)

/-- Sets an option, unless its value is not acceptable. -/
def Options.set? (options : Options) (flag : Flag) (value : List Char) : Option Options :=
  let workload := options.workload
  match flag with
  | .capacity =>
    (word? value).map fun n => { options with workload := { workload with capacity := n } }
  | .producers =>
    (halfWord? value).map fun n => { options with workload := { workload with producers := n } }
  | .consumers =>
    (halfWord? value).map fun n => { options with workload := { workload with consumers := n } }
  | .messages =>
    (halfWord? value).map fun n => { options with workload := { workload with messages := n } }
  | .batch =>
    (word? value).map fun n => { options with workload := { workload with batch := some n } }
  | .config =>
    if value.isEmpty then none else some { options with config := some (String.ofList value) }

/-! ## Arguments -/

/-- An argument. -/
inductive Argument where
  /-- An option together with its value. -/
  | setting (flag : Flag) (value : List Char)
  /-- An option whose value must follow. -/
  | expecting (flag : Flag)
  /-- The mark after which no options are recognized. -/
  | terminator
  /-- Anything else. -/
  | stray
deriving DecidableEq

/-- Recognizes an argument. A long option may hold its value after an equals sign; a letter may be
followed by its value at once or after an equals sign. -/
def Argument.ofText (text : List Char) : Argument :=
  match text with
  | ['-', '-'] => .terminator
  | '-' :: '-' :: rest =>
    let name := rest.takeWhile (· != '=')
    match Flag.ofLong? (String.ofList name), rest.drop name.length with
    | some flag, [] => .expecting flag
    | some flag, _ :: value => .setting flag value
    | none, _ => .stray
  | '-' :: letter :: rest =>
    match Flag.ofLetter? letter, rest with
    | some flag, [] => .expecting flag
    | some flag, '=' :: value => .setting flag value
    | some flag, value => .setting flag value
    | none, _ => .stray
  | _ => .stray

/-- Whether an argument can be the value of the option before it: a single dash, or anything that
does not start with one. -/
def isValue : List Char → Bool
  | ['-'] => true
  | '-' :: _ => false
  | _ => true

/-- Reads the arguments that are left; `given` lists the options so far. An option may be given
once, and there are no other arguments. -/
def parseFrom (options : Options) (given : List Flag) : List (List Char) → Option Options
  | [] => some options
  | [text] =>
    match Argument.ofText text with
    | .setting flag value => if flag ∈ given then none else options.set? flag value
    | .terminator => some options
    | .expecting _ | .stray => none
  | text :: value :: rest =>
    match Argument.ofText text with
    | .setting flag text =>
      if flag ∈ given then none
      else (options.set? flag text).bind fun options =>
        parseFrom options (flag :: given) (value :: rest)
    | .expecting flag =>
      if flag ∈ given ∨ !isValue value then none
      else (options.set? flag value).bind fun options => parseFrom options (flag :: given) rest
    | .terminator | .stray => none

/-- Reads the arguments of the program. -/
def parse (arguments : List String) : Option Options :=
  parseFrom .default [] (arguments.map String.toList)

/-! ## Running -/

/-- What the program leaves. -/
structure Report where
  /-- The exit code. -/
  exitCode : UInt32
  /-- What it prints. -/
  output : String
  /-- What it complains about. -/
  complaint : Option String
deriving DecidableEq

/-- How the program uses arguments that it does not understand. -/
def usageReport : Report :=
  { exitCode := 2
    output := ""
    complaint := some <|
      "usage: [-c|--capacity N] [-p|--producers N] [--consumers N] [-m|--messages N] " ++
        "[-b|--batch N] [--config FILE]" }

/-- A report of an error. -/
def errorReport (output message : String) : Report :=
  { exitCode := 1, output, complaint := some ("Error: " ++ message) }

/-- The configuration that the options name; `contents` is what their file holds, if it can be
read. -/
def loadConfig (options : Options) (contents : Option String) : Except String Config :=
  match options.config with
  | none => .ok {}
  | some path =>
    match contents with
    | none => .error ("Failed to read config " ++ path)
    | some document =>
      match Config.ofJson document with
      | .ok config => .ok config
      | .error _ => .error ("Invalid config " ++ path)

/-- Runs the program. -/
def run (options : Options) (contents : Option String) : Report :=
  match loadConfig options contents with
  | .error message => errorReport "" message
  | .ok config =>
    match options.workload.run config with
    | .error (.faulted fault) => { exitCode := 101, output := "", complaint := some fault.message }
    | .error error => errorReport "" error.message
    | .ok summary =>
      let output := summary.toJson.spread ++ "\n"
      if summary.inOrder then { exitCode := 0, output, complaint := none }
      else errorReport output "Values from one producer arrived out of order"

end CommandLine

end ChannelBus
