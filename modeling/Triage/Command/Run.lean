import Triage.Command.CacheUpkeep
import Triage.Command.Enrich
import Triage.Command.Manual
import Triage.Settings.Environment

/-!
# Running commands

From the arguments of the program to what it prints. A command line is refused before settings are
read, and settings are read before the command begins.
-/
namespace Triage.Command

/-- What a command finds around it, besides the host. -/
structure Surroundings where
  environment : Settings.Environment := fun _ => none
  /-- The terminal shows colours. -/
  colours : Bool := false
  cloud : FindingsSettings.CloudAccess

/-- What the given flags say about shared settings. -/
def Given.choices (g : Given) : Settings.Choices :=
  { config := (g.text? "config").getD ""
    logLevel := g.text? "log-level"
    noCache := g.truth? "no-cache"
    workers := g.whole? "workers"
    sources := g.texts? "sources" }

/-- What the given flags and the words say about an enrichment. -/
def Given.enrichOptions (g : Given) (colours : Bool) : EnrichOptions :=
  { format := (g.text? "format").getD "table"
    output := (g.text? "output").getD ""
    failOn := (g.text? "fail-on").getD ""
    colours := colours && !(g.truth? "no-color").getD false }

/-- The settings for an enrichment: a file may be named by a word, and the mode by a flag. -/
def enrichSettings (g : Given) (words : List String) (s : Settings) : Settings :=
  let s := match words with
    | [file] => { s with findings.mode := "local", findings.file := file }
    | _ => s
  { s with findings.mode := (g.text? "mode").getD s.findings.mode }

def serveSettings (g : Given) (s : Settings) : Settings :=
  { s with
    server.port := (g.whole? "port").getD s.server.port
    server.interval := (g.duration? "refresh-interval").getD s.server.interval
    findings.mode := (g.text? "mode").getD s.findings.mode }

/-- What becomes of a command line: something printed, or a service to run. -/
inductive Outcome where
  | printed (p : Printed)
  | service (s : Settings)

/-- Runs an activity in the world that settings describe. -/
def inWorld {α : Type} (env : Settings.Environment) (s : Settings) (act : StateM World α) : Session α :=
  fun h =>
    let (a, w) := act { host := s.equip h, clients := s.clients env }
    (a, w.host)

/-- The page that the words after `help` ask for. -/
def helpPage (words : List String) : String :=
  match find words with
  | .ok (v, _) => v.manual
  | .error _ => Verb.program.manual

def perform (e : Surroundings) (v : Verb) (g : Given) (words : List String) (s : Settings) :
    Session Outcome :=
  match v with
  | .enrich =>
    let s := enrichSettings g words s
    return .printed (← inWorld e.environment s (enrich e.cloud s (g.enrichOptions e.colours)))
  | .serve =>
    let s := serveSettings g s
    match Pipeline.ofSettings e.cloud s with
    | .error f => return .printed (.failure f)
    | .ok _ => return .service s
  | .cacheClear => return .printed (← clearCache s)
  | .cacheInfo => return .printed (← showCache s)
  | .help => return .printed { output := helpPage words }
  | .program | .cache => return .printed { output := v.manual }

/-- What a command line asks for: a command with its flags and words, or the manual on it. -/
def interpret (args : List String) : Except UsageError (Verb × Option (Given × List String)) := do
  let (v, args) ← find args
  let (g, words) ← readFlags (v.helpFlag :: v.flags) [] args
  if (g.truth? "help").getD false || !v.runs then return (v, none)
  else
    v.checkWords words
    return (v, some (g, words))

/-- Runs the program with arguments. -/
def run (e : Surroundings) (args : List String) : Session Outcome := fun h =>
  match interpret args with
  | .error problem => (.printed (.failure (.plain problem.message)), h)
  | .ok (v, none) => (.printed { output := v.manual }, h)
  | .ok (v, some (g, words)) =>
    match Settings.effective h.disk h.faults e.environment g.choices with
    | .error f => (.printed (.failure f), h)
    | .ok s => perform e v g words s h

end Triage.Command
