import Hid.Handle
import Hid.Result

/-!
The logical controllers a client accepts, and the validity of device handles.
A vibration handle must name a style with a motor, a controller that is defined and
supported, and an index below the limit of its style. A six-axis handle must name a
defined controller and an index below the common limit.
-/

namespace Hid

/-- The members of a list without later repeats, in their order. -/
def distinct : List Quantity → List Quantity
  | [] => []
  | x :: xs => x :: (distinct xs).filter (· != x)

/-- Leaving out repeats and leaving out members commute. -/
theorem filter_distinct (keep : Quantity → Bool) (xs : List Quantity) :
    (distinct xs).filter keep = distinct (xs.filter keep) := by
  induction xs with
  | nil => rfl
  | cons x xs ih =>
      rw [distinct, List.filter_cons, List.filter_cons, List.filter_filter]
      by_cases kept : keep x = true
      · rw [if_pos kept, if_pos kept, distinct, ← ih, List.filter_filter]
        simp only [Bool.and_comm]
      · rw [if_neg kept, if_neg kept, ← ih]
        apply List.filter_congr
        intro y _
        by_cases same : y = x
        · subst same
          simp [kept]
        · simp [same]

/-- Of equal members the first is kept. -/
theorem distinct_eq_eraseDups : (xs : List Quantity) → distinct xs = xs.eraseDups
  | [] => rfl
  | x :: xs => by
      have shorter : (xs.filter (· != x)).length < (x :: xs).length :=
        Nat.lt_succ_of_le (List.length_filter_le ..)
      rw [distinct, List.eraseDups_cons, filter_distinct,
        distinct_eq_eraseDups (xs.filter (· != x))]
      rfl
termination_by xs => xs.length
decreasing_by exact shorter

theorem nodup_distinct (xs : List Quantity) : (distinct xs).Nodup := by
  induction xs with
  | nil => exact .nil
  | cons x xs ih =>
      refine List.nodup_cons.mpr ⟨?_, ih.filter _⟩
      intro again
      simpa using (List.mem_filter.mp again).2

theorem mem_distinct {x : Quantity} {xs : List Quantity} : x ∈ distinct xs ↔ x ∈ xs := by
  rw [distinct_eq_eraseDups, List.mem_eraseDups]

/-- The ids a client accepts at present, in the order given. The sign of a zero does not
count. -/
structure Controllers where
  supported : List Quantity
  deriving DecidableEq, Repr

namespace Controllers

def ofList (ids : List Quantity) : Controllers := ⟨distinct (ids.map Quantity.plain)⟩

/-- The values of all defined ids. -/
def definedIds : List Quantity := NpadId.all.map fun id => .int id.value

/-- A fresh configuration accepts every defined id. -/
def initial : Controllers := ofList definedIds

def isSupported (c : Controllers) (id : Quantity) : Bool := c.supported.contains id.plain

theorem ofList_int (ids : List Int) : ofList (ids.map .int) = ⟨distinct (ids.map .int)⟩ := by
  have plain : (ids.map Quantity.int).map Quantity.plain = ids.map Quantity.int := by
    rw [List.map_map]
    exact List.map_congr_left fun id _ => Quantity.plain_int id
  rw [ofList, plain]

/-- Repeats in a list make no difference to what is supported. -/
theorem isSupported_ofList (ids : List Int) (id : Quantity) :
    (ofList (ids.map .int)).isSupported id = (ids.map Quantity.int).contains id.plain := by
  rw [Bool.eq_iff_iff, isSupported, List.contains_iff_mem, List.contains_iff_mem, ofList_int,
    mem_distinct]

end Controllers

/-- Whether a number is the value of a defined id. -/
def isNpadIdValid (id : Quantity) : Bool := Controllers.definedIds.contains id.plain

theorem isNpadIdValid_of_mem {id : Quantity} (defined : id ∈ Controllers.definedIds) :
    isNpadIdValid id = true := by
  obtain ⟨named, -, rfl⟩ := List.mem_map.mp defined
  rw [isNpadIdValid, Quantity.plain_int]
  exact List.contains_iff_mem.mpr defined

/-- The styles with a motor and the number of motors of each. -/
def motorCounts : List (Quantity × Quantity) :=
  [(NpadStyle.fullKey.value, DeviceIndex.limit),
   (NpadStyle.handheld.value, DeviceIndex.limit),
   (NpadStyle.joyDual.value, DeviceIndex.limit),
   (NpadStyle.joyLeft.value, DeviceIndex.limit),
   (NpadStyle.joyRight.value, DeviceIndex.limit),
   (NpadStyle.gameCube.value, 1),
   (NpadStyle.n64.value, 1),
   (NpadStyle.systemExt.value, DeviceIndex.limit),
   (NpadStyle.system.value, DeviceIndex.limit)]

/-- The style is checked first, then the controller, then the index. -/
def validateVibrationHandle (h : DeviceHandle) (c : Controllers) : ResultCode :=
  match motorCounts.lookup h.npadStyle.plain with
  | none => .vibrationInvalidStyleIndex
  | some limit =>
      if !isNpadIdValid h.npadId || !c.isSupported h.npadId then .vibrationInvalidNpadId
      else if limit ≤ h.deviceIndex then .vibrationDeviceIndexOutOfRange
      else .success

/-- The controller is checked before the index; supported or not does not matter. -/
def validateSixAxisHandle (h : DeviceHandle) : ResultCode :=
  if !isNpadIdValid h.npadId then .invalidNpadId
  else if DeviceIndex.limit ≤ h.deviceIndex then .npadDeviceIndexOutOfRange
  else .success

end Hid
