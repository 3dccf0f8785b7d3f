import Hid.Commands.Input
import Hid.Commands.Npad
import Hid.Commands.Palma
import Hid.Commands.Retired
import Hid.Commands.SixAxis
import Hid.Commands.Vibration
import Hid.Config
import Hid.Dispatch.Stats
import Hid.Service.Sessions

/-!
The service: its command table, the objects it hands out, and the statistics of each.
Targets are numbered: zero is the service itself, and an object has the number under
which it was handed out.
-/

namespace Hid

open Dispatch (Outcome Request Session Stats Table)
open Device (Call)

/-- A service between two requests. -/
structure Service where
  config : Config
  state : Service.State
  sessions : Service.Sessions
  /-- The statistics of each target. -/
  stats : Nat → Stats
  /-- All calls of the device layer so far. -/
  past : List Call

namespace Service

/-- The commands of the service itself. -/
def mainTable (config : Config) : Table Program where
  name := "hid"
  rows :=
    Commands.input config.deviceManaged ++ Commands.sixAxis config.fusionDefaults ++
    Commands.npad ++ Commands.vibration config.activationCapacity ++ Commands.palma ++
    Commands.retired ++ Commands.unbound

/-- The commands of the object at a position. -/
def Interface.table (position : Nat) : Interface → Table Program
  | appletResource aruid => Commands.appletResource aruid
  | deviceList _ => Commands.deviceList position

/-- A new service. What the firmware says of itself counts more than the configuration. -/
def start (config : Config) (deviceManaged : Option Bool := none) : Service where
  config := { config with deviceManaged := deviceManaged.getD config.deviceManaged }
  state := .initial
  sessions := .initial
  stats := fun _ => []
  past := []

/-- The table of a target, if there is such a target. -/
def table? (s : Service) : Nat → Option (Table Program)
  | 0 => some (mainTable s.config)
  | position + 1 => s.state.interfaces[position]?.map (·.table position)

/-- Replaces the statistics of one target. -/
def setStats (s : Service) (target : Nat) (stats : Stats) : Service :=
  { s with stats := fun t => if t = target then stats else s.stats t }

/-- The outcome of a request, the service after it, and the calls it led to. -/
structure Answered where
  outcome : Outcome
  service : Service
  calls : List Call

/-- Answers a request by a table that belongs to a target. -/
def answer (s : Service) (device : Device) (target : Nat) (table : Table Program)
    (request : Request) (session : Session) : Answered :=
  let ran := (table.handle request session (s.stats target)).run device s.past s.state
  let (outcome, stats) := ran.value
  { outcome
    service := { s with state := ran.state, past := s.past ++ ran.calls }.setStats target stats
    calls := ran.calls }

/-- Answers a request to a target, if there is such a target. -/
def handle (s : Service) (device : Device) (target : Nat) (request : Request)
    (session : Session) : Option Answered :=
  (s.table? target).map fun table => s.answer device target table request session

/-- Accepts controllers without any check. -/
def setControllers (s : Service) (ids : List Quantity) : Service :=
  { s with state := { s.state with controllers := .ofList ids } }

end Service
end Hid
