import Restyle.Text.Basic

/-!
# Arguments

The words of a command line are options and operands. An option starts with a dash; some options
take a value, which is the rest of the word after an equals sign or else the next word. Two
dashes end the options. A word that only looks like an option is a misuse, and so is an option
without its value. What a value must be besides is its demand.
-/
namespace Restyle

/-- What a value of a command line must be. -/
inductive Demand where
  /-- Any text. -/
  | text
  /-- A whole number. -/
  | whole
  /-- The path of a file. -/
  | file
  /-- The path of a folder. -/
  | folder
  /-- The path of a folder, or of nothing yet. -/
  | noFile
deriving DecidableEq, Repr

/-- An option that a command line may hold. -/
inductive Flag where
  /-- An option without a value, by its name and maybe a letter. -/
  | switch (name : String) (letter : Option CodePoint := none)
  /-- An option with a value, by its name and what its value must be. -/
  | valued (name : String) (demand : Demand := .text)
deriving DecidableEq, Repr

/-- The words of a command line. -/
structure Arguments where
  /-- The options with their values, latest first. -/
  options : List (String × Text) := []
  /-- The operands, in order. -/
  operands : List Text := []
deriving DecidableEq, Repr

namespace Flag

/-- The name of an option. -/
def name : Flag → String
  | .switch name _ => name
  | .valued name _ => name

/-- What the value of an option must be. -/
def demand : Flag → Demand
  | .switch _ _ => .text
  | .valued _ demand => demand

/-- Whether an option takes a value. -/
def takesValue : Flag → Bool
  | .switch _ _ => false
  | .valued _ _ => true

/-- The option of a letter. -/
def ofLetter? (flags : List Flag) (letter : CodePoint) : Option Flag :=
  flags.find? fun
    | .switch _ own => own = some letter
    | .valued _ _ => false

/-- The option of a name. -/
def ofName? (flags : List Flag) (name : Text) : Option Flag :=
  flags.find? fun flag => flag.name.toText = name

end Flag

namespace Arguments

/-- The value of an option; the latest one counts. -/
def value? (arguments : Arguments) (name : String) : Option Text := arguments.options.lookup name

/-- Whether an option is given. -/
def has (arguments : Arguments) (name : String) : Bool := (arguments.value? name).isSome

/-- The values of the options, in the order in which the options are first given. -/
def values (arguments : Arguments) : List (String × Text) :=
  (arguments.options.reverse.map Prod.fst).eraseDups.filterMap fun name =>
    (arguments.value? name).map fun value => (name, value)

/-- The arguments with one more option. -/
def withOption (arguments : Arguments) (flag : Flag) (value : Text) : Arguments :=
  { arguments with options := (flag.name, value) :: arguments.options }

/-- The arguments with more operands. -/
def withOperands (arguments : Arguments) (words : List Text) : Arguments :=
  { arguments with operands := arguments.operands ++ words }

/-- What a word stands for. -/
inductive Word where
  /-- The end of the options. -/
  | terminator
  /-- An operand. -/
  | operand
  /-- An option, with the value behind its equals sign. -/
  | option (flag : Flag) (value : Option Text)
  /-- Letters that stand for options without a value. -/
  | letters (flags : List Flag)
  /-- No option of this command line. -/
  | unknown

/-- What a word stands for, given the options that there are. -/
def classify (flags : List Flag) (word : Text) : Word :=
  if word = "--".toText then .terminator
  else if word.length < 2 || !Text.startsWith word [.char '-'] then .operand
  else
    let (name, value) :=
      match Text.cut? '=' word with
      | some (name, value) => (name, some value)
      | none => (word, none)
    match Flag.ofName? flags name with
    | some flag => .option flag value
    | none =>
      if Text.startsWith word "--".toText then .unknown
      else match (word.drop 1).mapM (Flag.ofLetter? flags) with
        | some switches => .letters switches
        | none => .unknown

/-- Take words apart, after those that are `done`; none when they are misused. Where operands are
not `mixed` with options, the first operand ends the options. -/
def splitAfter (flags : List Flag) (mixed : Bool) (done : Arguments) :
    List Text → Option Arguments
  | [] => some done
  | word :: rest =>
    match classify flags word with
    | .terminator => some (done.withOperands rest)
    | .operand =>
      if mixed then splitAfter flags mixed (done.withOperands [word]) rest
      else some (done.withOperands (word :: rest))
    | .letters switches =>
      splitAfter flags mixed (switches.foldl (fun done flag => done.withOption flag []) done) rest
    | .unknown => none
    | .option flag value =>
      if flag.takesValue then
        match value with
        | some value => splitAfter flags mixed (done.withOption flag value) rest
        | none =>
          match rest with
          | [] => none
          | value :: others => splitAfter flags mixed (done.withOption flag value) others
      else if value.isSome then none
      else splitAfter flags mixed (done.withOption flag []) rest

/-- Take words apart; none when they are misused. -/
def split (flags : List Flag) (mixed : Bool) (words : List Text) : Option Arguments :=
  splitAfter flags mixed {} words

end Arguments

end Restyle
