/-
  Reading the arguments of a command.

  Arguments are first sorted into options and the rest; two dashes end the options.  Then values are
  checked: the options in the order given, the positional argument, and last what is required and
  was not given.  Of an option that is given twice the last value counts.
-/
import SchemaAssist.Cli.Usage
import SchemaAssist.Files.Store
import SchemaAssist.Number.Reading
import SchemaAssist.Text.Similar

namespace SchemaAssist.Cli

open Files

/-- What a parameter accepts. -/
inductive Kind where
  /-- No value at all. -/
  | switch
  | integer
  | file (exist : Bool)
  | directory
  deriving DecidableEq, Repr

structure Parameter where
  name : String
  kind : Kind
  required : Bool
  description : String
  deriving DecidableEq, Repr

structure Signature where
  name : String
  summary : String
  argument : Option (String × Kind)
  options : List Parameter
  deriving DecidableEq, Repr

def helpOption : Parameter := ⟨"--help", .switch, false, "Show this message and exit."⟩

namespace Signature

def allOptions (s : Signature) : List Parameter := s.options ++ [helpOption]

def parameters (s : Signature) : String :=
  "[OPTIONS]" ++ (s.argument.elim "" fun a => " " ++ a.1)

end Signature

/-! ### Sorting -/

/-- Arguments sorted into options with their values and the rest. -/
structure Sorted where
  options : List (Parameter × String)
  rest : List String
  deriving DecidableEq, Repr

def isOption (argument : String) : Bool :=
  match argument.toList with
  | '-' :: _ :: _ => true
  | _ => false

def splitValue (argument : String) : String × Option String :=
  let chars := argument.toList
  let name := String.ofList (chars.takeWhile (· != '='))
  match chars.dropWhile (· != '=') with
  | [] => (name, none)
  | _ :: value => (name, some (String.ofList value))

/-- The mistake of writing an unknown option.  With a single dash only the first letter counts. -/
def unknown (options : List Parameter) (argument : String) : Mistake :=
  if "--".toList.isPrefixOf argument.toList then
    let name := (splitValue argument).1
    .unknownOption name (Text.closeMatches name (options.map (·.name)))
  else .unknownOption (String.ofList (argument.toList.take 2)) []

/-- The value of an option and the arguments after it: written with an equals sign, or the next
argument. -/
def takeValue (o : Parameter) (value : Option String) (more : List String) :
    Except Mistake (String × List String) :=
  match o.kind, value, more with
  | .switch, none, _ => .ok ("", more)
  | .switch, some _, _ => .error (.valueRefused o.name)
  | _, some v, _ => .ok (v, more)
  | _, none, [] => .error (.valueMissing o.name)
  | _, none, v :: others => .ok (v, others)

/-- No arguments appear while a value is taken. -/
theorem takeValue_length {o : Parameter} {value : Option String} {more others : List String}
    {v : String} (h : takeValue o value more = .ok (v, others)) : others.length ≤ more.length := by
  unfold takeValue at h
  split at h <;> cases h
  · exact Nat.le_refl _
  · exact Nat.le_refl _
  · exact Nat.le_succ _

def sortArguments (options : List Parameter) : List String → Except Mistake Sorted
  | [] => .ok ⟨[], []⟩
  | argument :: more =>
    if argument = "--" then .ok ⟨[], more⟩
    else if isOption argument then
      match options.find? (·.name == (splitValue argument).1) with
      | none => .error (unknown options argument)
      | some o =>
        match _h : takeValue o (splitValue argument).2 more with
        | .error m => .error m
        | .ok (v, others) => do
          let s ← sortArguments options others
          pure { s with options := (o, v) :: s.options }
    else do
      let s ← sortArguments options more
      pure { s with rest := argument :: s.rest }
termination_by arguments => arguments.length
decreasing_by
  · have := takeValue_length _h
    simp only [List.length_cons]
    omega
  · simp

/-! ### Checking -/

def checkValue (files : Store) (parameter : String) (kind : Kind) (value : String) :
    Except Mistake Unit :=
  match kind with
  | .switch => .ok ()
  | .integer =>
    match Number.readInteger 10 value.toList with
    | .ok _ => .ok ()
    | .error _ => .error (.notInteger parameter value)
  | .file exist =>
    match files.findText value with
    | .file _ => .ok ()
    | .directory => .error (.directoryGiven parameter value)
    | .missing | .blocked => if exist then .error (.fileMissing parameter value) else .ok ()
  | .directory =>
    match files.findText value with
    | .file _ => .error (.fileGiven parameter value)
    | _ => .ok ()

/-- Arguments that passed all checks. -/
structure Arguments where
  values : List (String × String)
  argument : String
  deriving DecidableEq, Repr

namespace Arguments

def get? (a : Arguments) (name : String) : Option String :=
  (a.values.find? (·.1 == name)).map (·.2)

def has (a : Arguments) (name : String) : Bool := (a.get? name).isSome

def getInt? (a : Arguments) (name : String) : Option Int :=
  (a.get? name).bind fun v => (Number.readInteger 10 v.toList).toOption

end Arguments

/-- The options given, each once at its first place, with its last value. -/
def lastValues (given : List (Parameter × String)) : List (Parameter × String) :=
  ((given.map (·.1)).eraseDups).filterMap fun o =>
    (given.reverse.find? (·.1 == o)).map fun g => (o, g.2)

/-- Checks sorted arguments; what is left over at the end is a mistake too. -/
def checkArguments (files : Store) (s : Signature) (sorted : Sorted) :
    Except Mistake Arguments := do
  let given := lastValues sorted.options
  given.forM fun (o, v) => checkValue files o.name o.kind v
  let (argument, extra) ← match s.argument, sorted.rest with
    | none, rest => pure ("", rest)
    | some (name, _), [] => throw (.argumentMissing name)
    | some (name, kind), value :: rest =>
      checkValue files name kind value
      pure (value, rest)
  match s.options.find? fun o => o.required && !given.any (·.1 == o) with
  | some o => throw (.optionMissing o.name)
  | none => pure ()
  if extra.isEmpty then pure ⟨given.map fun (o, v) => (o.name, v), argument⟩
  else throw (.extraArguments extra)

/-- What the arguments of a command ask for. -/
inductive Request where
  | help
  | run (arguments : Arguments)
  deriving DecidableEq, Repr

/-- Reads the arguments of a command.  Asking for help comes before all checks of values. -/
def readArguments (files : Store) (s : Signature) (arguments : List String) :
    Except Mistake Request := do
  let sorted ← sortArguments s.allOptions arguments
  if sorted.options.any (·.1 == helpOption) then pure .help
  else pure (.run (← checkArguments files s sorted))

end SchemaAssist.Cli
