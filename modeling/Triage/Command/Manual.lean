import Triage.Command.Verb

/-!
# The manual

What the program says about a command when it is asked for help.
-/
namespace Triage.Command

/-- What a command does, at length, line by line. -/
def Verb.description : Verb → List String
  | .program =>
    [ "riskrelay enriches vulnerability findings with exploitation intelligence",
      "and ranks them by risk.",
      "",
      "Each finding is looked up in:",
      "  - the CISA Known Exploited Vulnerabilities catalog (KEV)",
      "  - the FIRST Exploit Prediction Scoring System (EPSS)",
      "  - GitHub Security Advisories (GHSA), for the fixed version",
      "  - VulnCheck KEV, for exploit maturity (needs VULNCHECK_API_KEY)",
      "",
      "The combined risk score places every finding in one of five tiers,",
      "from P0-IMMEDIATE (known exploited) down to P4-LOW." ]
  | .enrich =>
    [ "Enrich findings once and print them ranked by risk.",
      "",
      "The findings file may be a JSON array of findings, an object with a",
      "\"findings\" array, or a grype style report with a \"matches\" array.",
      "Without a file argument the finding source from the config is used." ]
  | .serve =>
    [ "Enrich findings periodically and serve them over HTTP.",
      "",
      "Endpoints:",
      "  /metrics   Prometheus metrics",
      "  /findings  enriched findings, filterable by priority, cve and source",
      "  /summary   tier counts and the riskiest CVEs",
      "  /health    liveness and readiness" ]
  | v => [v.summary]

def FlagKind.word : FlagKind → String
  | .text => " string"
  | .truth => ""
  | .whole => " int"
  | .duration => " duration"
  | .texts => " strings"

def Flag.form (f : Flag) : String :=
  let short := match f.short with
    | some c => s!"-{c}, "
    | none => "    "
  "  " ++ short ++ "--" ++ f.name ++ f.kind.word

/-- Rows of two columns; the second one begins three characters after the widest entry of the first. -/
def columns (gap : Nat) (rows : List (String × String)) : String :=
  let width := (rows.map (·.1.length)).foldl max 0
  String.join (rows.map fun (a, b) => Text.padRight (width + gap) a ++ b ++ "\n")

def Verb.usageLine : Verb → String
  | .enrich => Verb.enrich.fullName ++ " [findings-file] [flags]"
  | .help => Verb.help.fullName ++ " [command] [flags]"
  | v => if v.runs then v.fullName ++ " [flags]" else v.fullName ++ " [command]"

def Verb.manual (v : Verb) : String :=
  let commands :=
    if v.children.isEmpty then ""
    else "\nAvailable Commands:\n" ++ columns 1 (v.children.map fun c => ("  " ++ c.word, c.summary))
  let shared := if v = .program then Verb.sharedFlags else []
  let inherited :=
    if v = .program then ""
    else "\nGlobal Flags:\n" ++ columns 3 (Verb.sharedFlags.map fun f => (f.form, f.usage))
  Text.join "\n" v.description ++ "\n\nUsage:\n  " ++ v.usageLine ++ "\n" ++ commands ++ "\nFlags:\n" ++
    columns 3 ((v.ownFlags ++ shared ++ [v.helpFlag]).map fun f => (f.form, f.usage)) ++ inherited

end Triage.Command
