import Automation.Chars.Digit

/-!
# Options of a command line

A command line is a list of words. Options begin with a hyphen; the other words are operands. An
option has names of one hyphen and a letter, or of two hyphens and a word, and takes a value or
none.

## Spellings

A long name may be shortened as long as it is clear which option is meant. A value is the next word,
or is attached: to any name by an equals sign, to a letter also by nothing. An attached value of two
hyphens alone is nothing. Letters that take no value may be put together behind one hyphen. Two
hyphens alone make all further words operands. A negative number, a hyphen alone and a word with a
blank in it are operands although they begin with a hyphen, unless they begin with the name of an
option.

## Refusals

A command line is read from left to right and refused at the first thing that is wrong, and so is
one that asks for help; options that nobody knows, and operands that nobody asked for, are refused
at the end only.
-/

namespace Automation

/-- An option. -/
structure CommandOption where
  /-- Its names, with their hyphens. -/
  names : List Text
  /-- Whether it takes a value. -/
  takesValue : Bool := true
  /-- Whether it may have a value. -/
  accepts : Text → Bool := fun _ => true

/-- Why a command line is not carried out. -/
inductive Refusal where
  /-- It asks for help. -/
  | help
  /-- It does not make sense. -/
  | misuse
  deriving DecidableEq, Repr

/-- What a word is taken for. -/
inductive CommandWord where
  /-- An operand, or the value of an option. -/
  | operand (text : Text)
  /-- Two hyphens alone. -/
  | separator
  /-- An option by one of its names, perhaps with something attached. -/
  | option (o : CommandOption) (name : Text) (attached : Option Text)
  /-- An option that nobody knows. -/
  | unknown

/-- Which operands are asked for. -/
inductive Operands where
  /-- None. -/
  | none
  /-- One. -/
  | one
  /-- A command, which takes all further words. -/
  | command
  deriving DecidableEq, Repr

/-- What was read of a command line. -/
structure CommandReading where
  /-- The options that were given, by their last name, with their values; the last one first. An
  option may have been given without a value. -/
  given : List (Text × Option Text) := []
  /-- The operand, or the command with its words. -/
  operands : List Text := []
  /-- Whether there is anything that nobody asked for. -/
  excess : Bool := false
  deriving DecidableEq, Repr

namespace CommandOption

/-- Two hyphens, with which long names begin and which end the options. -/
def hyphens : Text := "--"

/-- The option by which help is asked for. -/
def help : CommandOption := { names := ["-h", "--help"], takesValue := false }

/-- The name by which an option is known. -/
def label (o : CommandOption) : Text :=
  o.names.getLast?.getD []

/-- Whether an option asks for help. -/
def isHelp (o : CommandOption) : Bool :=
  o.names == help.names

/-- The option with a name. -/
def named? (options : List CommandOption) (name : Text) : Option CommandOption :=
  options.find? fun o => o.names.contains name

/-- What is attached to a word by its first equals sign. -/
def attachment? (word : Text) : Option Text :=
  if word.contains '=' then some (word.behind '=') else none

/-- The long names that a word may be short for. -/
def completions (options : List CommandOption) (word : Text) :
    List (CommandOption × Text × Option Text) :=
  options.flatMap fun o => o.names.filterMap fun name =>
    if (word.before '=').isPrefixOf name then some (o, name, attachment? word) else none

/-- The letter that a word begins with, with the rest of the word attached. -/
def lettered (options : List CommandOption) (word : Text) :
    List (CommandOption × Text × Option Text) :=
  (named? options (word.take 2)).toList.map fun o => (o, word.take 2, some (word.drop 2))

/-- Whether a word is a negative number, perhaps with a line break behind it. -/
def isNegativeNumber (word : Text) : Bool :=
  match if word.getLast? = some '\n' then word.dropLast else word with
  | [] => false
  | sign :: digits =>
    decide (sign = '-') &&
      match digits.dropWhile Chars.isAnyDigit with
      | [] => !digits.isEmpty
      | point :: fraction =>
        decide (point = '.') && !fraction.isEmpty && fraction.all Chars.isAnyDigit

/-- What a word with a hyphen that is no name is taken for. -/
def otherWord (options : List CommandOption) (word : Text) : Except Refusal CommandWord :=
  let found :=
    if hyphens.isPrefixOf word then completions options word else lettered options word
  match found with
  | [(o, name, attached)] => .ok (.option o name attached)
  | [] =>
    if isNegativeNumber word || word.contains ' ' then .ok (.operand word) else .ok .unknown
  | _ => .error .misuse

/-- What a word is taken for. -/
def wordOf (options : List CommandOption) (word : Text) : Except Refusal CommandWord :=
  if word.head? ≠ some '-' then .ok (.operand word)
  else
    match named? options word with
    | some o => .ok (.option o word none)
    | none =>
      if word.length ≤ 1 then .ok (.operand word)
      else
        match attachment? word, named? options (word.before '=') with
        | some value, some o => .ok (.option o (word.before '=') (some value))
        | _, _ => otherWord options word

/-- What the words of a command line are taken for, each with its text. -/
def wordsOf (options : List CommandOption) :
    List Text → Except Refusal (List (Text × CommandWord))
  | [] => .ok []
  | text :: rest =>
    if text = hyphens then
      .ok ((text, .separator) :: rest.map fun text => (text, .operand text))
    else do
      let word ← wordOf options text
      let words ← wordsOf options rest
      return (text, word) :: words

/-! ### Reading -/

/-- The options that a word stands for: some without a value, and perhaps a last one that takes a
value, which is attached to it or not. -/
structure Demand where
  /-- The options without a value. -/
  flags : List CommandOption := []
  /-- The option with a value, and the value if it is attached. -/
  last : Option (CommandOption × Option Text) := none

/-- What a letter with something attached stands for. If it takes no value, further letters are
attached. -/
def letterDemand (options : List CommandOption) (o : CommandOption) :
    Text → Except Refusal Demand
  | [] => .ok { flags := [o] }
  | letter :: rest =>
    match named? options ['-', letter] with
    | none => .error .misuse
    | some next =>
      if next.takesValue then
        .ok { flags := [o], last := some (next, if rest.isEmpty then none else some rest) }
      else do
        let demand ← letterDemand options next rest
        return { demand with flags := o :: demand.flags }

/-- What an option stands for. -/
def demand (options : List CommandOption) (o : CommandOption) (name : Text) :
    Option Text → Except Refusal Demand
  | none => .ok (if o.takesValue then { last := some (o, none) } else { flags := [o] })
  | some attached =>
    if o.takesValue then .ok { last := some (o, some attached) }
    else if attached.isEmpty || hyphens.isPrefixOf name then .error .misuse
    else letterDemand options o attached

/-- The reading with some options without a value. -/
def giveFlags (r : CommandReading) (flags : List CommandOption) : Except Refusal CommandReading :=
  if flags.any isHelp then .error .help
  else .ok { r with given := (flags.reverse.map fun o => (o.label, none)) ++ r.given }

/-- The reading with a value of an option. -/
def giveValue (r : CommandReading) (o : CommandOption) (value : Text) :
    Except Refusal CommandReading :=
  if value = hyphens then .ok { r with given := (o.label, none) :: r.given }
  else if o.accepts value then .ok { r with given := (o.label, some value) :: r.given }
  else .error .misuse

/-- The reading with what a word stands for, given the words behind it, and whether the first of
them is taken. -/
def fulfil (r : CommandReading) (d : Demand) (rest : List (Text × CommandWord)) :
    Except Refusal (CommandReading × Bool) :=
  match d.last with
  | none => (giveFlags r d.flags).map fun r => (r, false)
  | some (o, some value) => do
    let r ← giveFlags r d.flags
    let r ← giveValue r o value
    return (r, false)
  | some (o, none) =>
    match rest with
    | (_, .operand value) :: _ => do
      let r ← giveFlags r d.flags
      let r ← giveValue r o value
      return (r, true)
    | _ => .error .misuse

/-- Whether two hyphens alone come next. -/
def separated : List (Text × CommandWord) → Bool
  | (_, .separator) :: _ => true
  | _ => false

/-- The words read one after the other. `skip` says that the first word belongs to the one before
it: it was taken as a value, or it is the two hyphens that may stand behind an operand. -/
def readWords (options : List CommandOption) (wanted : Operands) :
    (skip : Bool) → CommandReading → List (Text × CommandWord) → Except Refusal CommandReading
  | _, r, [] => if wanted ≠ .none ∧ r.operands.isEmpty then .error .misuse else .ok r
  | true, r, _ :: rest => readWords options wanted false r rest
  | false, r, (text, word) :: rest =>
    match word with
    | .option o name attached => do
      let d ← demand options o name attached
      let (r, taken) ← fulfil r d rest
      readWords options wanted taken r rest
    | .unknown => readWords options wanted false { r with excess := true } rest
    | .separator =>
      match wanted, r.operands, rest with
      | .command, [], _ :: _ => .ok { r with operands := text :: rest.map Prod.fst }
      | .one, [], (_, .operand _) :: _ => readWords options wanted false r rest
      | _, _, _ => readWords options wanted false { r with excess := true } rest
    | .operand value =>
      match wanted, r.operands with
      | .command, [] => .ok { r with operands := text :: rest.map Prod.fst }
      | .one, [] => readWords options wanted (separated rest) { r with operands := [value] } rest
      | _, _ => readWords options wanted false { r with excess := true } rest

/-- A command line read, given its options and which operands are asked for. -/
def readLine (options : List CommandOption) (wanted : Operands) (line : List Text) :
    Except Refusal CommandReading := do
  readWords options wanted false {} (← wordsOf options line)

end CommandOption

namespace CommandReading

/-- What was given as the value of an option, if the option was given at all. -/
def value? (r : CommandReading) (label : Text) : Option (Option Text) :=
  r.given.lookup label

end CommandReading

end Automation
