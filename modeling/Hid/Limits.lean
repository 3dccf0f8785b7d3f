/-!
Sizes that the wire contract fixes, in bytes.
-/

namespace Hid.Limits

/-- Device handles a list of active vibration devices holds unless configured. -/
def activationCapacity : Nat := 0x100

def calibrationParameterSize : Nat := 0x744
def icInformationSize : Nat := 0xc8

/-- The buffers of the seven six-axis sensor. -/
def workBufferSize : Nat := 0x1000
def lifoBufferSize : Nat := 0x7f000

def waveEntryMemorySize : Nat := 0x3000
def operationDataSize : Nat := 0x140

end Hid.Limits
