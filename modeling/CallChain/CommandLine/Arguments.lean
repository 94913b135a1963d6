/-! Command-line arguments: options, flags and the words between them. -/

namespace CallChain.CommandLine

/-- An option of a command. -/
structure OptionShape where
  long : String
  short : Option Char := none
  /-- Whether a value follows the option. -/
  takesValue : Bool := false
  /-- Whether the option may be given several times. -/
  repeats : Bool := false
  /-- Whether the command makes no sense without the option. -/
  required : Bool := false
  /-- Whether the arguments after the option are not looked at. -/
  isLast : Bool := false
  /-- What the option does, in words. -/
  about : String := ""
deriving DecidableEq, Repr

/-- One argument once it is understood. -/
inductive Argument where
  | option (name : String) (value : Option String)
  | word (text : String)
deriving DecidableEq, Repr

/-- Why arguments make no sense. -/
inductive Misuse where
  | unknown (argument : String)
  | missingValue (option : String)
  | unexpectedValue (option : String)
  | repeated (option : String)
  | missing (what : String)
  | surplus (word : String)
deriving DecidableEq, Repr

namespace Misuse

/-- The misuse in words. -/
def message : Misuse → String
  | unknown argument => s!"unexpected argument '{argument}'"
  | missingValue option => s!"a value is required for '{option}'"
  | unexpectedValue option => s!"'{option}' takes no value"
  | repeated option => s!"'{option}' is given more than once"
  | missing what => s!"{what} is required"
  | surplus word => s!"unexpected argument '{word}'"

end Misuse

/-- Whether an argument is written like an option; a single dash is an ordinary word. -/
def looksLikeOption (argument : List Char) : Bool :=
  match argument with
  | '-' :: _ :: _ => true
  | _ => false

/-- The value for an option that still wants one, and the arguments after it. -/
def takeValue (name : String) : List (List Char) → Except Misuse (String × List (List Char))
  | [] => .error (.missingValue name)
  | value :: rest =>
    if looksLikeOption value then .error (.missingValue name)
    else .ok (String.ofList value, rest)

/-- What comes after the options that letters after a single dash stand for. -/
inductive AfterLetters where
  /-- The next argument. -/
  | argument
  /-- Nothing, since the last option ends the arguments. -/
  | nothing
  /-- The value of one more option, if it is not among the letters already. -/
  | value (name : String) (attached : Option String)
deriving DecidableEq, Repr

/-- What the letters after a single dash mean; an option that takes a value takes all that follows. -/
def shortOptions (shapes : List OptionShape) :
    List Char → Except Misuse (List Argument × AfterLetters)
  | [] => .ok ([], .argument)
  | letter :: rest =>
    match shapes.find? fun shape => shape.short == some letter with
    | none => .error (.unknown (String.ofList ['-', letter]))
    | some shape =>
      if shape.takesValue then
        let attached := match rest with
          | [] => none
          | '=' :: value => some (String.ofList value)
          | value => some (String.ofList value)
        .ok ([], .value shape.long attached)
      else if shape.isLast then .ok ([.option shape.long none], .nothing)
      else do
        let (others, after) ← shortOptions shapes rest
        return (.option shape.long none :: others, after)

/-- Understands arguments one after the other; after a double dash all of them are words. -/
def understand (shapes : List OptionShape) : (fuel : Nat) → List (List Char) →
    Except Misuse (List Argument)
  | 0, _ => .ok []
  | _ + 1, [] => .ok []
  | fuel + 1, argument :: rest =>
    match argument with
    | ['-', '-'] => .ok (rest.map fun word => .word (String.ofList word))
    | '-' :: '-' :: long => do
      let name := String.ofList (long.takeWhile fun c => c != '=')
      let attached := match long.dropWhile fun c => c != '=' with
        | [] => none
        | _ :: value => some (String.ofList value)
      match shapes.find? fun shape => shape.long == name with
      | none => throw (.unknown (String.ofList argument))
      | some shape =>
        if shape.takesValue then
          match attached with
          | some value => return .option name (some value) :: (← understand shapes fuel rest)
          | none =>
            let (value, rest) ← takeValue name rest
            return .option name (some value) :: (← understand shapes fuel rest)
        else if attached.isSome then throw (.unexpectedValue name)
        else if shape.isLast then return [.option name none]
        else return .option name none :: (← understand shapes fuel rest)
    | '-' :: letter :: letters => do
      match ← shortOptions shapes (letter :: letters) with
      | (options, .argument) => return options ++ (← understand shapes fuel rest)
      | (options, .nothing) => return options
      | (options, .value name (some value)) =>
        return options ++ .option name (some value) :: (← understand shapes fuel rest)
      | (options, .value name none) =>
        let (value, rest) ← takeValue name rest
        return options ++ .option name (some value) :: (← understand shapes fuel rest)
    | word => return .word (String.ofList word) :: (← understand shapes fuel rest)

/-- Arguments sorted into options and words. -/
structure Sorted where
  options : List (String × Option String)
  words : List String
deriving Repr

namespace Sorted

/-- Whether an option is given. -/
def has (sorted : Sorted) (name : String) : Bool :=
  sorted.options.any fun option => option.1 == name

/-- How often an option is given. -/
def count (sorted : Sorted) (name : String) : Nat :=
  (sorted.options.filter fun option => option.1 == name).length

/-- The value of an option, if it is given. -/
def value? (sorted : Sorted) (name : String) : Option String :=
  (sorted.options.find? fun option => option.1 == name).bind Prod.snd

end Sorted

/-- Sorts arguments, and refuses options that are given too often. -/
def sort (shapes : List OptionShape) (arguments : List String) : Except Misuse Sorted := do
  let understood ← understand shapes (arguments.length + 1) (arguments.map String.toList)
  let options := understood.filterMap fun
    | .option name value => some (name, value)
    | .word _ => none
  let words := understood.filterMap fun
    | .word text => some text
    | .option _ _ => none
  let sorted : Sorted := ⟨options, words⟩
  for shape in shapes do
    if !shape.repeats && 1 < sorted.count shape.long then throw (.repeated shape.long)
  return sorted

end CallChain.CommandLine
