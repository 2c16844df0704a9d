import RecordFill.Text.Search

namespace RecordFill.Command

/-- What an option does: it stands by itself, takes a value of a kind, or calls for something else than the
command. -/
inductive Use where
  | switch
  | value (accepts : String → Bool)
  | help
  | version

/-- An option has a name and perhaps a letter. -/
structure Flag where
  name : String
  letter : Option Char := none
  use : Use := .switch

/-- What a command may be given. A negative number may stand for the operand although a dash begins it. -/
structure Form where
  flags : List Flag
  acceptsOperand : String → Bool
  negativeOperand : Bool := false

/-- Arguments that lead to no command. -/
inductive Detour where
  | help
  | version
  | wrongUsage
  deriving DecidableEq

/-- What has been given so far, and the option whose value has to come next. -/
structure Given where
  options : List (String × String) := []
  operand : Option String := none
  awaiting : Option Flag := none
  operandsOnly : Bool := false

namespace Given

/-- The value of an option, which is empty for one that takes none. -/
def option? (given : Given) (name : String) : Option String :=
  given.options.lookup name

def has (given : Given) (name : String) : Bool :=
  (given.option? name).isSome

/-- One more option, which may not be given twice. -/
def addOption (given : Given) (flag : Flag) (value : String) : Except Detour Given :=
  if given.has flag.name then .error .wrongUsage
  else .ok { given with options := (flag.name, value) :: given.options, awaiting := none }

/-- A value of an option, which has to be of the right kind. -/
def addValue (given : Given) (flag : Flag) (value : String) : Except Detour Given :=
  match flag.use with
  | .value accepts => if accepts value then given.addOption flag value else .error .wrongUsage
  | _ => .error .wrongUsage

/-- The option without a value of its own: it may await one. -/
def addFlag (given : Given) (flag : Flag) : Except Detour Given :=
  match flag.use with
  | .switch => given.addOption flag ""
  | .value _ => .ok { given with awaiting := some flag }
  | .help => .error .help
  | .version => .error .version

/-- The operand, which may not be given twice. -/
def addOperand (given : Given) (form : Form) (value : String) : Except Detour Given :=
  if given.operand.isSome || !form.acceptsOperand value then .error .wrongUsage
  else .ok { given with operand := some value }

/-- An argument that is no option: the value that is awaited, or the operand. -/
def addPlain (given : Given) (form : Form) (argument : String) : Except Detour Given :=
  match given.awaiting with
  | some flag => given.addValue flag argument
  | none => given.addOperand form argument

/-- An option by its name, perhaps with a value after an equals sign. -/
def addNamed (given : Given) (form : Form) (text : List Char) : Except Detour Given :=
  let (name, value) := match Text.cut? ['='] text with
    | some (name, value) => (name, some (String.ofList value))
    | none => (text, none)
  match form.flags.find? (·.name = String.ofList name), value with
  | some flag, some value => given.addValue flag value
  | some flag, none => given.addFlag flag
  | none, _ => .error .wrongUsage

/-- Options by their letters. What follows the letter of an option with a value is its value, perhaps after an
equals sign. -/
def addLetters (given : Given) (form : Form) : List Char → Except Detour Given
  | [] => .ok given
  | letter :: rest =>
    match form.flags.find? (·.letter = some letter) with
    | none => .error .wrongUsage
    | some flag =>
      match flag.use, rest with
      | .value _, '=' :: value => given.addValue flag (String.ofList value)
      | .value _, first :: value => given.addValue flag (String.ofList (first :: value))
      | _, rest => do addLetters (← given.addFlag flag) form rest

end Given

/-- Whether an exponent ends a number: it has digits, and nothing else. -/
def endsWithExponent : List Char → Bool
  | 'e' :: rest => !rest.isEmpty && rest.all Char.isDigit
  | rest => rest.isEmpty

/-- Whether a text looks like a number: digits, perhaps a point and more digits, perhaps an exponent. -/
def looksNumeric (text : List Char) : Bool :=
  let whole := text.takeWhile Char.isDigit
  let rest := text.drop whole.length
  let afterPoint := match rest with
    | '.' :: fraction => fraction.dropWhile Char.isDigit
    | rest => rest
  !whole.isEmpty && endsWithExponent afterPoint

/-- What is given with one more argument. Two dashes end the options, one dash is a plain argument, and no
option takes another one for its value. -/
def Given.add (form : Form) (given : Given) (argument : String) : Except Detour Given :=
  if given.operandsOnly then given.addOperand form argument
  else
    match argument.toList with
    | ['-', '-'] =>
      if given.awaiting.isSome then .error .wrongUsage else .ok { given with operandsOnly := true }
    | '-' :: '-' :: text =>
      if given.awaiting.isSome then .error .wrongUsage else given.addNamed form text
    | '-' :: first :: rest =>
      if form.negativeOperand && given.operand.isNone && looksNumeric (first :: rest) then
        given.addPlain form argument
      else if given.awaiting.isSome then .error .wrongUsage
      else given.addLetters form (first :: rest)
    | _ => given.addPlain form argument

/-- What the arguments of a command give. -/
def Form.read (form : Form) (arguments : List String) : Except Detour Given := do
  let given ← arguments.foldlM (Given.add form) {}
  if given.awaiting.isSome then .error .wrongUsage else return given

end RecordFill.Command
