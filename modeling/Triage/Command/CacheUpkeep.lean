import Triage.Command.Ending
import Triage.Pipeline

/-!
# Cache upkeep

Showing what is in the cache and removing it. Both concern the cache that the settings name, also if
it is turned off.
-/
namespace Triage.Command

/-- Removes all cached data. -/
def clearCache (s : Settings) : Session Printed := fun h =>
  let (result, _, disk) := s.manager.clear h.machine
  match result with
  | .error e => (.failure e, h)
  | .ok () => ({ output := s!"Cleared cache at {s.manager.root}\n" }, { h with disk })

/-- The last part of a path. -/
def fileName (path : String) : String := ((Text.split '/' path).getLast?).getD path

def cacheLine (c : Cache.Manager) (m : Cache.Machine) (name : String) : Except Failure String := do
  let label := "  " ++ Text.padRight 10 name
  let path := c.pathOf name
  if ← m.disk.holds m.faults path then
    return label ++ s!" {(c.size m name).1} entries ({fileName path})\n"
  else return label ++ " empty\n"

/-- The lines on the sources, up to the first one that fails. -/
def cacheLines (c : Cache.Manager) (m : Cache.Machine) : List String → Printed
  | [] => {}
  | name :: names =>
    match cacheLine c m name with
    | .error e => .failure e
    | .ok line =>
      let rest := cacheLines c m names
      { rest with output := line ++ rest.output }

/-- Shows where the cache is and how many entries it has for each source. -/
def showCache (s : Settings) : Session Printed := fun h =>
  let c := s.manager
  let lines := cacheLines c h.machine (SourceId.all.map (·.name))
  ({ lines with output := s!"Cache dir: {c.root}\nTTL: {c.ttl.text}\n" ++ lines.output }, h)

end Triage.Command
