import Stencil.Text.Digit

/-!
# Command-line options

An argument is an option, a value, or the separator after which all arguments are values. Long
options can be shortened to any beginning that only one of them has. Short options can be put
together, and a value can be written into the same argument: behind an equals sign, or directly
behind a short option. A negative number is a value, and so is an argument with a space in it that
is no option.

The separator is never a value of an option: an option that has it attached to it is left without a
value (`Operand`).

All files have to stand together: values after a first group of them are a mistake. Asking for help
ends the reading of arguments, so mistakes that only show at their end do not matter then.
-/

namespace Stencil.Command

/-- What an option is about. -/
inductive Switch where
  | help
  | data
  | partials
  | extension
  | output
  | dataOutput
  | verbose
  deriving DecidableEq, Repr

/-- Options by their long names. -/
def longNames : List (Text × Switch) :=
  [(Text.of "--help", .help), (Text.of "--data", .data), (Text.of "--partials", .partials),
    (Text.of "--ext", .extension), (Text.of "--output", .output),
    (Text.of "--data-out", .dataOutput), (Text.of "--verbose", .verbose)]

/-- Options by their short names. -/
def shortNames : List (CodePoint × Switch) :=
  [(.char 'h', .help), (.char 'd', .data), (.char 'p', .partials), (.char 'e', .extension),
    (.char 'o', .output), (.char 'v', .verbose)]

/-- Whether an option needs a value. -/
def Switch.takesValue : Switch → Bool
  | .help | .verbose => false
  | _ => true

/-- The argument that separates options from values. -/
def separatorText : Text :=
  .of "--"

/-- An argument by its role. -/
inductive Word where
  | value (text : Text)
  | separator
  /-- An option, by its short name or not, perhaps with a text in the same argument. -/
  | option (switch : Switch) (isShort : Bool) (attached : Option Text)
  /-- It looks like an option, but there is no such option. -/
  | unknown
  deriving DecidableEq, Repr

/-- Why the reading of arguments ends without options. -/
inductive Exit where
  | helpWanted
  | misused
  deriving DecidableEq, Repr

/-- A text without a line break at its end, if it ends in one. -/
def withoutLastBreak (text : Text) : Text :=
  if text.getLast? = some (.char '\n') then text.dropLast else text

/-- Whether a text is a minus sign with a decimal number behind it, in digits of any script. A line
break may end it. -/
def isNegativeNumber (text : Text) : Bool :=
  match withoutLastBreak text with
  | .char '-' :: number =>
    let whole := number.takeWhile Text.isDecimal
    match number.dropWhile Text.isDecimal with
    | [] => !whole.isEmpty
    | .char '.' :: fraction => !fraction.isEmpty && fraction.all Text.isDecimal
    | _ => false
  | _ => false

/-- A text up to the first equals sign, and what follows the sign if there is one. -/
def beforeEquals (text : Text) : Text × Option Text :=
  match text.dropWhile (· ≠ .char '=') with
  | [] => (text, none)
  | _ :: after => (text.takeWhile (· ≠ .char '='), some after)

/-- An argument that is no option by name: a value if it is a negative number or has a space. -/
def otherwise (argument : Text) : Word :=
  if isNegativeNumber argument || argument.contains (.char ' ') then .value argument else .unknown

/-- The role of an argument that begins with two hyphens. -/
def classifyLong (argument : Text) : Except Exit Word :=
  let (name, attached) := beforeEquals argument
  match longNames.lookup name with
  | some switch => .ok (.option switch false attached)
  | none =>
    match longNames.filter fun (long, _) => (Text.after? name long).isSome with
    | [] => .ok (otherwise argument)
    | [(_, switch)] => .ok (.option switch false attached)
    | _ => .error .misused

/-- The role of an argument that begins with a hyphen, a letter, and a text behind the letter. An
equals sign directly behind the letter is no part of what is attached to the option. -/
def classifyShort (argument : Text) (letter : CodePoint) (rest : Text) : Word :=
  match shortNames.lookup letter, rest with
  | some switch, [] => .option switch true none
  | some switch, .char '=' :: after => .option switch true (some after)
  | some switch, after => .option switch true (some after)
  | none, _ => otherwise argument

/-- The role of an argument before the separator. -/
def classify (argument : Text) : Except Exit Word :=
  if argument = separatorText then .ok .separator
  else match argument with
    | .char '-' :: .char '-' :: _ => classifyLong argument
    | .char '-' :: letter :: rest => .ok (classifyShort argument letter rest)
    | _ => .ok (.value argument)

/-- The roles of all arguments. -/
def classifyAll : List Text → Except Exit (List Word)
  | [] => .ok []
  | argument :: arguments => do
    match ← classify argument with
    | .separator => return .separator :: arguments.map .value
    | word => return word :: (← classifyAll arguments)

/-- A value of an option, or nothing if the separator is in its place. -/
abbrev Operand := Option Text

/-- The value that an attached text is. -/
def operandOf (attached : Text) : Operand :=
  if attached = separatorText then none else some attached

/-- What an option with its attached text comes to. -/
inductive Cluster where
  /-- Options without values, then perhaps one with its value. -/
  | complete (flags : List Switch) (last : Option (Switch × Operand))
  /-- Options without values, then one whose value is the next argument. -/
  | needsValue (flags : List Switch) (last : Switch)
  | misused
  deriving DecidableEq, Repr

/-- An option without a value in front of others. -/
def Cluster.after (switch : Switch) : Cluster → Cluster
  | .complete flags last => .complete (switch :: flags) last
  | .needsValue flags last => .needsValue (switch :: flags) last
  | .misused => .misused

/-- Reads a short option with a text directly behind it: the value of the option, or else the short
names of further options. -/
def readLetters (switch : Switch) : Text → Cluster
  | [] => if switch.takesValue then .needsValue [] switch else .complete [switch] none
  | letter :: rest =>
    if switch.takesValue then .complete [] (some (switch, operandOf (letter :: rest)))
    else match shortNames.lookup letter with
      | none => .misused
      | some next => (readLetters next rest).after switch

/-- Reads an option with its attached text. An attached text can be empty, but then it is no name of
an option. -/
def readOption (switch : Switch) (isShort : Bool) : Option Text → Cluster
  | none => readLetters switch []
  | some attached =>
    if switch.takesValue then .complete [] (some (switch, operandOf attached))
    else if isShort && !attached.isEmpty then readLetters switch attached
    else .misused

/-- What the arguments ask for. -/
structure Options where
  files : List Text
  dataFiles : List Operand
  partials : Operand
  extension : Operand
  output : Text
  dataOutput : Text
  verbosity : Nat
  deriving DecidableEq, Repr

/-- What is done without arguments. Empty names of output files stand for none. -/
def Options.default : Options :=
  ⟨[], [], some (.of "."), some (.of "mustache"), [], [], 0⟩

/-- Options with a value set. An output file without a name is none. -/
def Options.setValue (options : Options) (value : Operand) : Switch → Options
  | .data => { options with dataFiles := options.dataFiles ++ [value] }
  | .partials => { options with partials := value }
  | .extension => { options with extension := value }
  | .output => { options with output := value.getD [] }
  | .dataOutput => { options with dataOutput := value.getD [] }
  | .help | .verbose => options

/-- Options after some that take no values. -/
def Options.setFlags (options : Options) (flags : List Switch) : Except Exit Options :=
  if flags.contains .help then .error .helpWanted
  else .ok { options with verbosity := options.verbosity + flags.count .verbose }

/-- How far the reading of arguments has come. -/
structure Progress where
  options : Options
  /-- Whether the group of files is over. -/
  filesTaken : Bool
  /-- Whether there was an argument that nothing is known about. -/
  leftOver : Bool

/-- The group of files with which words begin, and the words after it. A separator is no file. -/
def takeFiles : List Word → List Text × List Word
  | .value text :: words =>
    let (files, rest) := takeFiles words
    (text :: files, rest)
  | .separator :: words => takeFiles words
  | words => ([], words)

/-- The words after a group of files are no more than before it. -/
theorem takeFiles_length_le (words : List Word) :
    (takeFiles words).2.length ≤ words.length := by
  fun_induction takeFiles words with
  | case1 _ words _ rest taken inductionHypothesis => simp_all; omega
  | case2 words inductionHypothesis => simp; omega
  | case3 => simp

/-- Reads the words from a point on. -/
def Progress.read (progress : Progress) (words : List Word) : Except Exit Progress :=
  match words with
  | [] => .ok progress
  | .unknown :: rest => Progress.read { progress with leftOver := true } rest
  | .option switch isShort attached :: rest =>
    match readOption switch isShort attached with
    | .misused => .error .misused
    | .complete flags last =>
      match progress.options.setFlags flags with
      | .error exit => .error exit
      | .ok options =>
        let options := match last with
          | some (switch, value) => options.setValue value switch
          | none => options
        Progress.read { progress with options := options } rest
    | .needsValue flags last =>
      match rest with
      | .value text :: more =>
        match progress.options.setFlags flags with
        | .error exit => .error exit
        | .ok options =>
          Progress.read { progress with options := options.setValue (some text) last } more
      | _ => .error .misused
  | .value text :: rest =>
    have := takeFiles_length_le rest
    if progress.filesTaken then
      Progress.read { progress with leftOver := true } (takeFiles rest).2
    else Progress.read
      { progress with
        options := { progress.options with files := text :: (takeFiles rest).1 }
        filesTaken := true } (takeFiles rest).2
  | .separator :: rest =>
    have := takeFiles_length_le rest
    if progress.filesTaken then
      Progress.read { progress with leftOver := true } (takeFiles rest).2
    else Progress.read
      { progress with
        options := { progress.options with files := (takeFiles rest).1 }
        filesTaken := true } (takeFiles rest).2
termination_by words.length

/-- What the arguments ask for, or why reading them ends early. -/
def Options.ofArguments (arguments : List Text) : Except Exit Options :=
  match classifyAll arguments with
  | .error exit => .error exit
  | .ok words =>
    match Progress.read ⟨.default, false, false⟩ words with
    | .error exit => .error exit
    | .ok progress => if progress.leftOver then .error .misused else .ok progress.options

end Stencil.Command
