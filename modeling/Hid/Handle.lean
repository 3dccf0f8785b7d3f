import Hid.Number.Basic
import Hid.Vocabulary

/-!
Device handles: a style, a logical controller and an index on that controller.
Vibration motors and six-axis sensors are addressed alike.
-/

namespace Hid

/-- A handle has no identity beyond its three fields. -/
structure DeviceHandle where
  npadStyle : Quantity
  npadId : Quantity
  deviceIndex : Quantity
  deriving DecidableEq, Repr

/-- Handles are told apart by their three fields. -/
def DeviceHandle.same (a b : DeviceHandle) : Bool :=
  a.npadStyle.same b.npadStyle && a.npadId.same b.npadId && a.deviceIndex.same b.deviceIndex

theorem DeviceHandle.same_comm (a b : DeviceHandle) : a.same b = b.same a := by
  simp only [same, Quantity.same_comm]

/-- The three fields as integers, their fractions left out. -/
def DeviceHandle.whole (h : DeviceHandle) : Int × Int × Int :=
  (h.npadStyle.truncate, h.npadId.truncate, h.deviceIndex.truncate)

/-- The three fields as text. -/
def DeviceHandle.describe (h : DeviceHandle) : String :=
  "style=" ++ h.npadStyle.text ++ " id=" ++ h.npadId.text ++ " index=" ++ h.deviceIndex.text

end Hid
