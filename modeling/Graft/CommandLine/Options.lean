namespace Graft.CommandLine

/-- What a value may be. -/
inductive Kind where
  | text
  /-- A path; it is never empty. -/
  | path
  /-- A number of 64 bits. -/
  | count
  /-- A number of 16 bits. -/
  | port
deriving DecidableEq, Repr

/-- An option that takes a value. A value that is not given is taken from the environment, and else from the default;
without a default it must be set. -/
structure Setting where
  name : String
  source : String
  kind : Kind := .text
  fallback : Option String := none
deriving DecidableEq, Repr

/-- Why a text is no number. -/
inductive NumberFault where
  | empty
  | invalidDigit
  | tooLarge
  | tooSmall
  | outOfRange (value : Int)
deriving DecidableEq, Repr

def NumberFault.message : NumberFault → String
  | empty => "cannot parse integer from empty string"
  | invalidDigit => "invalid digit found in string"
  | tooLarge => "number too large to fit in target type"
  | tooSmall => "number too small to fit in target type"
  | outOfRange value => toString value ++ " is not in 0..=65535"

/-- What is wrong with the options of a command. -/
inductive Complaint where
  | unfit (setting : Setting) (value : String) (fault : NumberFault)
  | empty (setting : Setting)
  | missing (settings : List Setting)
deriving DecidableEq, Repr

/-- The option with a name for its value. -/
def Setting.usage (s : Setting) : String :=
  "--" ++ s.name ++ " <" ++ String.ofList (s.name.toList.map fun c => if c = '-' then '_' else c.toUpper) ++ ">"

def Complaint.message : Complaint → String
  | unfit s value fault => "invalid value '" ++ value ++ "' for '" ++ s.usage ++ "': " ++ fault.message
  | empty s => "a value is required for '" ++ s.usage ++ "' but none was supplied"
  | missing settings =>
    "the following required arguments were not provided:" ++ String.join (settings.map fun s => "\n  " ++ s.usage)

/-- A number from its digits, up to a bound. -/
def digits (bound : Nat) (overflow : NumberFault) : (sofar : Nat) → List Char → Except NumberFault Nat
  | sofar, [] => .ok sofar
  | sofar, c :: cs =>
    if c.isDigit then
      let n := 10 * sofar + (c.toNat - '0'.toNat)
      if n ≤ bound then digits bound overflow n cs else .error overflow
    else .error .invalidDigit

/-- At least one digit. -/
def number (bound : Nat) (overflow : NumberFault) (cs : List Char) : Except NumberFault Nat :=
  if cs = [] then .error .invalidDigit else digits bound overflow 0 cs

/-- A number without a sign or with a plus sign. -/
def natural (text : String) : Except NumberFault Nat :=
  match text.toList with
  | [] => .error .empty
  | '+' :: cs => number 0xffffffffffffffff .tooLarge cs
  | cs => number 0xffffffffffffffff .tooLarge cs

/-- A number with any sign. -/
def integer (text : String) : Except NumberFault Int :=
  match text.toList with
  | [] => .error .empty
  | '+' :: cs => (number 0x7fffffffffffffff .tooLarge cs).map Int.ofNat
  | '-' :: cs => (number 0x8000000000000000 .tooSmall cs).map fun n => -(n : Int)
  | cs => (number 0x7fffffffffffffff .tooLarge cs).map Int.ofNat

def portNumber (text : String) : Except NumberFault Nat := do
  let n ← integer text
  if 0 ≤ n ∧ n ≤ 65535 then return n.toNat else throw (.outOfRange n)

/-- Checks the value of an option. -/
def Setting.check (s : Setting) (value : String) : Except Complaint Unit :=
  match s.kind with
  | .text => .ok ()
  | .path => if value = "" then .error (.empty s) else .ok ()
  | .count => ((natural value).map fun _ => ()).mapError (.unfit s value)
  | .port => ((portNumber value).map fun _ => ()).mapError (.unfit s value)

/-- Why the arguments do not lead to a command. -/
inductive Halt where
  | help
  | version
  | misused
deriving DecidableEq, Repr

/-- What a command accepts. -/
structure Grammar where
  switches : List String := []
  settings : List Setting := []
  commands : List String := []
  hasVersion : Bool := false

/-- What was given: switches, and options with their values. -/
structure Given where
  switches : List String := []
  values : List (String × String) := []

def Given.value? (g : Given) (name : String) : Option String := (g.values.find? (·.1 == name)).map Prod.snd

namespace Grammar

/-- A name and, after an equals sign, a value. -/
def splitValue (cs : List Char) : String × Option String :=
  let name := String.ofList (cs.takeWhile (· != '='))
  match cs.dropWhile (· != '=') with
  | [] => (name, none)
  | _ :: value => (name, some (String.ofList value))

/-- Adds the value of an option that was not given yet. -/
def record (given : Given) (s : Setting) (value : String) : Except Halt Given :=
  match s.check value, given.value? s.name with
  | .ok (), none => .ok { given with values := given.values ++ [(s.name, value)] }
  | _, _ => .error .misused

/-- An argument that can be the value of the option before it. -/
def isValue (arg : String) : Bool := arg == "-" || arg.toList.head? != some '-'

/-- What an argument of its own asks for. -/
def single (g : Grammar) (given : Given) (name : String) : Except Halt Given :=
  if name ∈ g.switches then
    if name ∈ given.switches then .error .misused else .ok { given with switches := name :: given.switches }
  else if name = "help" then .error .help
  else if name = "version" ∧ g.hasVersion then .error .version
  else .error .misused

/-- What a letter asks for. -/
def letter (g : Grammar) (c : Char) : Halt :=
  if c = 'h' then .help else if c = 'V' ∧ g.hasVersion then .version else .misused

/-- Goes through the arguments up to the name of a command, which is returned with the arguments after it. -/
def scan (g : Grammar) (given : Given) : List String → Except Halt (Given × Option (String × List String))
  | [] => .ok (given, none)
  | arg :: rest =>
    match arg.toList with
    | ['-', '-'] => if rest = [] then .ok (given, none) else .error .misused
    | '-' :: '-' :: cs =>
      let (name, value) := splitValue cs
      match g.settings.find? (·.name == name), value, rest with
      | some s, some value, rest => do g.scan (← record given s value) rest
      | some s, none, value :: rest =>
        if isValue value then do g.scan (← record given s value) rest else .error .misused
      | some _, none, [] => .error .misused
      | none, some _, _ => .error .misused
      | none, none, rest => do g.scan (← g.single given name) rest
    | '-' :: c :: _ => .error (g.letter c)
    | _ => if arg ∈ g.commands then .ok (given, some (arg, rest)) else .error .misused
termination_by args => args.length

end Grammar

/-- The value of an option, if it has one. What the environment says is checked. -/
def Setting.resolve (env : String → Option String) (given : Given) (s : Setting) : Except Complaint (Option String) :=
  match given.value? s.name with
  | some value => .ok (some value)
  | none =>
    match env s.source with
    | some value => (s.check value).map fun _ => some value
    | none => .ok s.fallback

/-- The values of all options of a command. -/
def resolve (env : String → Option String) (given : Given) (settings : List Setting) :
    Except Complaint (List (String × String)) := do
  let values ← settings.mapM fun s => do return (s, ← s.resolve env given)
  let missing := values.filter fun v => v.2.isNone
  if missing.isEmpty then return values.map fun v => (v.1.name, v.2.getD "")
  else throw (.missing (missing.map Prod.fst))

end Graft.CommandLine
