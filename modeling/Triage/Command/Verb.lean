import Triage.Command.Flags

/-!
# Commands

The commands of the program and the flags they take. The words that name a command may stand between
flags, so finding them takes some care about which arguments are values of flags.
-/
namespace Triage.Command

/-- A command: the program by itself, or what its words name. -/
inductive Verb where
  | program
  | enrich
  | serve
  | cache
  | cacheClear
  | cacheInfo
  | help
  deriving Repr, DecidableEq

namespace Verb

def word : Verb → String
  | program => "riskrelay"
  | enrich => "enrich"
  | serve => "serve"
  | cache => "cache"
  | cacheClear => "clear"
  | cacheInfo => "info"
  | help => "help"

/-- The commands that a further word may name. -/
def children : Verb → List Verb
  | program => [enrich, serve, cache, help]
  | cache => [cacheClear, cacheInfo]
  | _ => []

def fullName : Verb → String
  | program => program.word
  | cacheClear => s!"{program.word} {cache.word} {cacheClear.word}"
  | cacheInfo => s!"{program.word} {cache.word} {cacheInfo.word}"
  | v => s!"{program.word} {v.word}"

def summary : Verb → String
  | program => "Prioritize vulnerability findings by real-world exploitation risk"
  | enrich => "Enrich findings once and print them ranked by risk"
  | serve => "Enrich findings periodically and serve them over HTTP"
  | cache => "Manage the on-disk cache of source data"
  | cacheClear => "Remove all cached source data"
  | cacheInfo => "Show the cache location and per-source entry counts"
  | help => "Help about any command"

def sharedFlags : List Flag :=
  [ { name := "config", kind := .text, short := some 'c', usage := "Path to a TOML config file" },
    { name := "log-level", kind := .text, usage := "Log level: debug, info, warn, error" },
    { name := "no-cache", kind := .truth, usage := "Disable the on-disk source cache" },
    { name := "workers", kind := .whole, usage := "Maximum concurrent source lookups" },
    { name := "sources", kind := .texts
      usage := "Enrichment sources to use (default: all enabled in config)" } ]

/-- The flag that chooses where findings come from. -/
def modeFlag : Flag := { name := "mode", kind := .text, usage := "Finding source: local, ecr, mock" }

def ownFlags : Verb → List Flag
  | enrich =>
    [ { name := "format", kind := .text, short := some 'f', usage := "Output format: table, json" },
      { name := "output", kind := .text, short := some 'o', usage := "Output file path (default: stdout)" },
      modeFlag,
      { name := "fail-on", kind := .text
        usage := "Exit with code 1 if any finding is at or above this tier, e.g. P1" },
      { name := "no-color", kind := .truth, usage := "Disable coloured table output" },
      { name := "no-progress", kind := .truth, usage := "Hide the progress bar" } ]
  | serve =>
    [ { name := "port", kind := .whole, short := some 'p', usage := "Port to expose the HTTP endpoints on" },
      { name := "refresh-interval", kind := .duration, usage := "Interval between enrichment runs" },
      modeFlag ]
  | _ => []

def flags (v : Verb) : List Flag := v.ownFlags ++ sharedFlags

/-- The flag that asks for an explanation of a command instead of running it. -/
def helpFlag (v : Verb) : Flag :=
  { name := "help", kind := .truth, short := some 'h', usage := s!"help for {v.word}" }

/-- The command does something by itself. -/
def runs : Verb → Bool
  | program | cache => false
  | _ => true

/-- How many arguments a command takes, if that is limited. -/
def checkWords (v : Verb) (words : List String) : Except UsageError Unit :=
  match v with
  | enrich => if 1 < words.length then .error (.tooMany 1 words.length) else .ok ()
  | serve | cacheClear | cacheInfo =>
    match words with
    | word :: _ => .error (.unknownCommand word v.fullName)
    | [] => .ok ()
  | _ => .ok ()

end Verb

/-! ## Finding the command -/

/-- The argument is a flag whose value is the next argument. -/
def takesNext (flags : List Flag) (arg : String) : Bool :=
  let needs (f : Option Flag) := !f.any (·.kind.implied?.isSome)
  !arg.contains '=' &&
    match arg.toList with
    | '-' :: '-' :: name => needs (findLong? flags name)
    | ['-', c] => c.utf8Size == 1 && needs (findShort? flags c)
    | _ => false

/-- The arguments that are neither flags nor values of flags. Nothing follows a flag whose value would be
the last argument. -/
def plainWords (flags : List Flag) : List String → List String
  | [] => []
  | arg :: rest =>
    if arg = "--" then []
    else if takesNext flags arg then
      match rest with
      | _ :: next :: rest => plainWords flags (next :: rest)
      | _ => []
    else if arg = "" || Text.startsWith "-" arg then plainWords flags rest
    else arg :: plainWords flags rest

/-- The arguments without the first `word` that is not the value of a flag. -/
def dropWord (flags : List Flag) (word : String) : List String → List String
  | [] => []
  | arg :: rest =>
    if arg = "--" then arg :: rest
    else if takesNext flags arg then
      match rest with
      | value :: rest => arg :: value :: dropWord flags word rest
      | [] => [arg]
    else if arg = word then rest
    else arg :: dropWord flags word rest

/-- The command that the first word of the arguments names below `v`, and the other arguments. -/
def descend? (v : Verb) (args : List String) : Option (Verb × List String) :=
  match plainWords v.flags args with
  | [] => none
  | word :: _ =>
    (v.children.find? (·.word == word)).map fun child => (child, dropWord v.flags word args)

/-- The command that the arguments name, and the other arguments. Commands are at most two words deep. -/
def locate (args : List String) : Verb × List String :=
  match descend? .program args with
  | none => (.program, args)
  | some (v, args) => (descend? v args).getD (v, args)

/-- The command that the arguments name; the program by itself takes no words. -/
def find (args : List String) : Except UsageError (Verb × List String) :=
  let (v, args) := locate args
  match v, plainWords v.flags args with
  | .program, word :: _ => .error (.unknownCommand word v.fullName)
  | _, _ => .ok (v, args)

end Triage.Command
