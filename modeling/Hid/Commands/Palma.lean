import Hid.Commands.LentMemory
import Hid.Limits

/-!
Commands of the palma accessory. Each is handed on; wave data comes in memory that the
client lends.
-/

namespace Hid.Commands

open Device (PalmaCall Report)
open Dispatch (Command Context)
open Service Service.Handler
open Wire (Layout)

/-- What a palma is busy with and, on success, the data of it. -/
def operationInfo : Command Program :=
  .implemented
    { name := "GetPalmaOperationInfo"
      parameters := Layout.palmaHandle
      output := some Layout.word64
      handler := fun c => do
        let report ← ask (.palma (.getOperationInfo c.parameters))
        if report.result.isFailure then return { result := report.result }
        let ⟨operation, data⟩ ← required report.value
        let data ← sized "PalmaOperationData" Limits.operationDataSize data
        return { result := report.result, output := some operation, buffers := [data] } }

def writeLedPattern : Command Program :=
  contextual "WritePalmaRgbLedPatternEntry" .palmaHandleWord 0 fun c => do
    ask (.palma (.writeLedPattern c.parameters.handle c.parameters.value (c.rawBuffer 0)))
    return .success

/-- Hands on lent memory of the one size that wave data has. -/
def writeWaveEntry (c : Context PalmaWaveEntry) : Handler ResultCode := do
  let p := c.parameters
  demandDeclared c "transfer memory size" Limits.waveEntryMemorySize p.transferMemorySize
  match ← lentMemory c 0 with
  | none => return .unknown
  | some memory =>
      demandSize c "transfer memory object size" Limits.waveEntryMemorySize memory
      ask (.palma (.writeWaveEntry p.handle p.waveSet memory p.transferMemorySize))
      return .success

def palma : List Row :=
  [(500, reported "GetPalmaConnectionHandle" .idAruid .palmaHandle fun p =>
      ask (.palma (.getConnectionHandle p.id))),
   (501, coded "InitializePalma" .palmaHandle fun h => ask (.palma (.setUp h))),
   (502, handedOut "AcquirePalmaOperationCompleteEvent" .palmaHandle fun h =>
      return ⟨.success, ← ask (.palma (.acquireOperationEvent h))⟩),
   (503, operationInfo),
   (504, coded "PlayPalmaActivity" .palmaHandleWord fun p =>
      ask (.palma (.playActivity p.handle p.value))),
   (505, coded "SetPalmaFrModeType" .palmaHandleWord fun p =>
      ask (.palma (.setFrMode p.handle p.value))),
   (506, coded "ReadPalmaStep" .palmaHandle fun h => ask (.palma (.readStep h))),
   (507, coded "EnablePalmaStep" .palmaStep fun p =>
      ask (.palma (.enableStep p.handle p.enabled))),
   (508, coded "ResetPalmaStep" .palmaHandle fun h => ask (.palma (.resetStep h))),
   (511, performed "ReadPalmaUniqueCode" .palmaHandle fun h => ask (.palma (.readUniqueCode h))),
   (512, performed "SetPalmaUniqueCodeInvalid" .palmaHandle fun h =>
      ask (.palma (.invalidateUniqueCode h))),
   (514, writeLedPattern),
   (515, contextual "WritePalmaWaveEntry" .palmaWaveEntry 1 writeWaveEntry),
   (516, performed "SetPalmaDataBaseIdentificationVersion" .palmaDatabaseVersion fun p =>
      ask (.palma (.setDatabaseVersion p.handle p.version))),
   (517, performed "GetPalmaDataBaseIdentificationVersion" .palmaHandle fun h =>
      ask (.palma (.getDatabaseVersion h))),
   (519, coded "GetPalmaOperationResult" .palmaHandle fun h =>
      ask (.palma (.getOperationResult h))),
   (522, performed "SetIsPalmaAllConnectable" .flagAruid fun p =>
      ask (.palma (.setAllConnectable p.enabled))),
   (524, performed "PairPalma" .palmaHandle fun h => ask (.palma (.pair h))),
   (525, performed "SetPalmaBoostMode" .flagWord fun enabled =>
      ask (.palma (.setBoostMode enabled)))]

end Hid.Commands
