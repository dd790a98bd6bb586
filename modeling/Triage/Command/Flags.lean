import Triage.Number.Reader
import Triage.Text.Csv
import Triage.Text.Quoted
import Triage.Time.Duration

/-!
# Flags

Flags stand anywhere among the arguments of a command, until `--`. A long flag takes its value after
`=` or from the next argument; short flags may be written together, and the last one of them may take
a value. A truth flag needs no value.
-/
namespace Triage.Command

open Time (Duration)

/-- What values a flag takes. -/
inductive FlagKind where
  | text
  | truth
  | whole
  | duration
  | texts
  deriving Repr, DecidableEq

/-- A flag of a command, with a letter as its short form if it has one. -/
structure Flag where
  name : String
  kind : FlagKind
  short : Option Char := none
  usage : String := ""
  deriving Repr, DecidableEq

inductive FlagValue where
  | text (s : String)
  | truth (b : Bool)
  | whole (n : Int)
  | duration (d : Duration)
  | texts (l : List String)
  deriving Repr, DecidableEq

/-- Why a command line is refused. -/
inductive UsageError where
  | badFlag (arg : String)
  | unknownFlag (name : String)
  | unknownShort (letter : Char) (cluster : String)
  | missingValue (name : String)
  | missingShortValue (letter : Char) (cluster : String)
  | badValue (flag : Flag) (value problem : String)
  | unknownCommand (word command : String)
  | tooMany (limit given : Nat)
  deriving Repr, DecidableEq

/-- How a refusal of a value names a flag. -/
def Flag.title (f : Flag) : String :=
  match f.short with
  | some c => s!"-{c}, --{f.name}"
  | none => s!"--{f.name}"

/-- The wording of a refusal. -/
def UsageError.message : UsageError → String
  | badFlag arg => s!"bad flag syntax: {arg}"
  | unknownFlag name => s!"unknown flag: --{name}"
  | unknownShort c cluster => s!"unknown shorthand flag: {Text.quotedChar c} in -{cluster}"
  | missingValue name => s!"flag needs an argument: --{name}"
  | missingShortValue c cluster => s!"flag needs an argument: {Text.quotedChar c} in -{cluster}"
  | badValue f value problem =>
    s!"invalid argument {Text.quoted value} for {Text.quoted f.title} flag: {problem}"
  | unknownCommand word command => s!"unknown command {Text.quoted word} for {Text.quoted command}"
  | tooMany limit given => s!"accepts at most {limit} arg(s), received {given}"

/-! ## Values -/

/-- Why a text is no number or truth value. -/
def parseProblem (reader value problem : String) : String :=
  s!"strconv.{reader}: parsing {Text.quoted value}: {problem}"

def wholeProblem (value : String) : Number.IntError → String
  | .malformed => parseProblem "ParseInt" value "invalid syntax"
  | .outOfRange => parseProblem "ParseInt" value "value out of range"

def FlagKind.read (k : FlagKind) (value : String) : Except String FlagValue :=
  match k with
  | .text => .ok (.text value)
  | .truth =>
    match Number.readBool? value with
    | some b => .ok (.truth b)
    | none => .error (parseProblem "ParseBool" value "invalid syntax")
  | .whole => ((Number.readAnyBase value).map .whole).mapError (wholeProblem value)
  | .duration => ((Duration.parse value).map .duration).mapError (·.message value)
  | .texts =>
    if value = "" then .ok (.texts [])
    else ((Text.Csv.firstRecord value).map .texts).mapError (·.message)

/-- The value of a flag that needs none. -/
def FlagKind.implied? : FlagKind → Option String
  | .truth => some "true"
  | _ => none

/-- The flags that were given, with their values, the last one first. -/
abbrev Given := List (String × FlagValue)

namespace Given

/-- The given flags with one more. Values of a list flag add up. -/
def add (g : Given) (name : String) (v : FlagValue) : Given :=
  match v, g.lookup name with
  | .texts l, some (.texts before) => (name, .texts (before ++ l)) :: g
  | v, _ => (name, v) :: g

def text? (g : Given) (name : String) : Option String :=
  match g.lookup name with
  | some (.text s) => some s
  | _ => none

def truth? (g : Given) (name : String) : Option Bool :=
  match g.lookup name with
  | some (.truth b) => some b
  | _ => none

def whole? (g : Given) (name : String) : Option Int :=
  match g.lookup name with
  | some (.whole n) => some n
  | _ => none

def duration? (g : Given) (name : String) : Option Duration :=
  match g.lookup name with
  | some (.duration d) => some d
  | _ => none

def texts? (g : Given) (name : String) : Option (List String) :=
  match g.lookup name with
  | some (.texts l) => some l
  | _ => none

end Given

/-! ## Arguments -/

def Flag.set (f : Flag) (value : String) (g : Given) : Except UsageError Given :=
  match f.kind.read value with
  | .ok v => .ok (g.add f.name v)
  | .error problem => .error (.badValue f value problem)

def findLong? (flags : List Flag) (name : List Char) : Option Flag :=
  flags.find? (·.name.toList == name)

def findShort? (flags : List Flag) (letter : Char) : Option Flag :=
  flags.find? (·.short == some letter)

/-- Reads a long flag without its dashes, given what follows it; also how many of these it takes. -/
def readLong (flags : List Flag) (g : Given) (body : List Char) (rest : List String) :
    Except UsageError (Given × Nat) :=
  let (name, value) := match Text.cutFirst '=' body with
    | some (name, value) => (name, some (String.ofList value))
    | none => (body, none)
  if name.isEmpty || name.head? == some '-' then .error (.badFlag (String.ofList ('-' :: '-' :: body)))
  else
    match findLong? flags name with
    | none => .error (.unknownFlag (String.ofList name))
    | some f =>
      match value.orElse fun _ => f.kind.implied? with
      | some value => (f.set value g).map (·, 0)
      | none =>
        match rest with
        | value :: _ => (f.set value g).map (·, 1)
        | [] => .error (.missingValue (String.ofList name))

/-- The letter that a refusal of short flags shows: the first byte of the text. -/
def leadByte (c : Char) : Char :=
  match (String.singleton c).toUTF8.toList with
  | b :: _ => Char.ofNat b.toNat
  | [] => c

/-- Reads short flags that are written together; also how many of the arguments that follow are taken. -/
def readShort (flags : List Flag) (rest : List String) :
    Given → List Char → Except UsageError (Given × Nat)
  | g, [] => .ok (g, 0)
  | g, c :: cs =>
    match findShort? flags c with
    | none => .error (.unknownShort (leadByte c) (String.ofList (c :: cs)))
    | some f =>
      match cs with
      | '=' :: v :: vs => (f.set (String.ofList (v :: vs)) g).map (·, 0)
      | _ =>
        match f.kind.implied? with
        | some value => do readShort flags rest (← f.set value g) cs
        | none =>
          match cs, rest with
          | _ :: _, _ => (f.set (String.ofList cs) g).map (·, 0)
          | [], value :: _ => (f.set value g).map (·, 1)
          | [], [] => .error (.missingShortValue c (String.ofList [c]))

/-- Arguments with this beginning are meant for a test runner and are passed over. -/
def foreignLead : List Char := "test.".toList

/-- The flags among the arguments, and the other arguments. -/
def readFlags (flags : List Flag) (g : Given) : List String → Except UsageError (Given × List String)
  | [] => .ok (g, [])
  | arg :: rest =>
    match arg.toList with
    | ['-', '-'] => .ok (g, rest)
    | '-' :: '-' :: body => do
      let (g, taken) ← readLong flags g body rest
      readFlags flags g (rest.drop taken)
    | '-' :: c :: cs => do
      let (g, taken) ←
        if (Text.stripLead foreignLead (c :: cs)).isSome then .ok (g, 0)
        else readShort flags rest g (c :: cs)
      readFlags flags g (rest.drop taken)
    | _ => do
      let (g, words) ← readFlags flags g rest
      return (g, arg :: words)
termination_by args => args.length
decreasing_by all_goals simp +arith

end Triage.Command
