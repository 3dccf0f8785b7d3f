import Hid.Config
import Mathlib.Data.List.TakeWhile

/-!
How settings are read from variables. A variable that is read as a number is absent, taken or
refused, and only what is refused gives rise to a warning (`Numeric.Reads`); one that is read as a
flag sets it or not (`ReadsFlag`); one that is read as a log level names a level, switches the log
off, or changes nothing (`LogLevel.Reads`). Blanks around a text do not matter in any of them
(`Padded`).
-/

namespace Hid

open Number (Binary64)
open Number.Numeral (read)

/-! ### Blanks around a text -/

namespace Text

/-- Blanks at the ends of a text are trimmed away. -/
theorem trim_blanks {before after : List Char} (ahead : ∀ c ∈ before, isBlank c = true)
    (behind : ∀ c ∈ after, isBlank c = true) (text : List Char) :
    trim (before ++ text ++ after) = trim text := by
  have all : after.dropWhile isBlank = [] := List.dropWhile_eq_nil_iff.mpr behind
  rw [trim, trim, List.append_assoc, List.dropWhile_append_of_pos ahead, List.dropWhile_append]
  split
  case isTrue nothing => rw [List.isEmpty_iff.mp nothing, all]
  case isFalse =>
    have reversed : ∀ c ∈ after.reverse, isBlank c = true :=
      fun c among => behind c (List.mem_reverse.mp among)
    rw [List.reverse_append, List.dropWhile_append_of_pos reversed]

variable {a b : String} (same : trim a.toList = trim b.toList)
include same

theorem isBlankText_congr : isBlankText a = isBlankText b := by rw [isBlankText, isBlankText, same]

theorem keyword_congr : keyword a = keyword b := by rw [keyword, keyword, same]

theorem read_congr : read a = read b := by rw [Number.Numeral.read, Number.Numeral.read, same]

end Text

namespace Config

/-- The second value of a variable is the first, or the first with blanks around it. -/
inductive Padded : Option String → Option String → Prop where
  | same {raw : Option String} : Padded raw raw
  | blanks {before text after : String} (ahead : ∀ c ∈ before.toList, Text.isBlank c = true)
      (behind : ∀ c ∈ after.toList, Text.isBlank c = true) :
      Padded (some text) (some (before ++ text ++ after))

/-- The variable is set to a text that is not blank. -/
def Given (raw : Option String) (text : String) : Prop :=
  raw = some text ∧ Text.isBlankText text = false

section Variables

variable {raw raw' : Option String} {text : String}

theorem given_some (full : ¬ Text.isBlankText text = true) : Given (some text) text :=
  ⟨rfl, Bool.eq_false_iff.mpr full⟩

theorem not_given_none : ¬ Given none text := nofun

theorem not_given_blank (blank : Text.isBlankText text = true) (other : String) :
    ¬ Given (some text) other := by
  rintro ⟨same, full⟩
  rw [← Option.some.inj same, blank] at full
  cases full

/-- Nothing is changed, or there are two texts with the same word between blanks. -/
theorem Padded.cases_trim (padded : Padded raw raw') :
    raw' = raw ∨ ∃ text text', raw = some text ∧ raw' = some text' ∧
      Text.trim text'.toList = Text.trim text.toList := by
  cases padded with
  | same => exact .inl rfl
  | blanks ahead behind =>
      refine .inr ⟨_, _, rfl, rfl, ?_⟩
      rw [String.toList_append, String.toList_append, Text.trim_blanks ahead behind]

/-! ### Numbers -/

/-- A variable that is read as a number. -/
structure Numeric (α : Type) where
  name : String
  fallback : α
  /-- The text of the fallback in warnings. -/
  shown : String
  /-- The numbers that are taken, and what is made of them. -/
  Accepts : Binary64 → α → Prop

namespace Numeric

variable {α : Type} {v : Numeric α} {usable : Binary64 → Option α}

def warning (v : Numeric α) (text : String) : String :=
  v.name ++ "=\"" ++ text ++ "\" is not valid, using " ++ v.shown

/-- The value of a variable and the warnings about it: it is absent, taken or refused. -/
inductive Reads (v : Numeric α) (raw : Option String) : α → List String → Prop where
  | absent (missing : ∀ text, ¬ Given raw text) : Reads v raw v.fallback []
  | taken {text : String} {value : α} (given : Given raw text)
      (accepted : v.Accepts (read text) value) : Reads v raw value []
  | refused {text : String} (given : Given raw text)
      (unusable : ∀ value, ¬ v.Accepts (read text) value) :
      Reads v raw v.fallback [v.warning text]

/-- What is read of a variable. -/
def ofRaw (v : Numeric α) (usable : Binary64 → Option α) (raw : Option String) : α × List String :=
  Config.readNumber v.name raw v.fallback v.shown usable

theorem reads_ofRaw (accepts : ∀ x value, usable x = some value ↔ v.Accepts x value)
    (raw : Option String) : v.Reads raw (v.ofRaw usable raw).1 (v.ofRaw usable raw).2 := by
  rw [ofRaw, Config.readNumber.eq_def]
  cases raw with
  | none => exact .absent fun text => not_given_none
  | some text =>
      dsimp only
      split
      case isTrue blank => exact .absent (not_given_blank blank)
      case isFalse full =>
        split
        case h_1 value found => exact .taken (given_some full) ((accepts _ _).mp found)
        case h_2 none =>
          refine .refused (given_some full) fun value accepted => ?_
          rw [(accepts _ _).mpr accepted] at none
          cases none

/-- Blanks around a variable change neither its value nor how many warnings there are. -/
theorem ofRaw_of_padded (padded : Padded raw raw') :
    (v.ofRaw usable raw').1 = (v.ofRaw usable raw).1 ∧
      (v.ofRaw usable raw').2.length = (v.ofRaw usable raw).2.length := by
  rcases padded.cases_trim with rfl | ⟨text, text', rfl, rfl, same⟩
  · exact ⟨rfl, rfl⟩
  · rw [ofRaw, ofRaw, Config.readNumber, Config.readNumber, Text.isBlankText_congr same,
      Text.read_congr same]
    split
    case isTrue => exact ⟨rfl, rfl⟩
    case isFalse =>
      cases usable (read text) with
      | some value => exact ⟨rfl, rfl⟩
      | none => exact ⟨rfl, rfl⟩

end Numeric

/-! ### Numbers that can be used -/

/-- The capacity must be a positive integer. -/
def capacity : Numeric Quantity where
  name := "HID_ACTIVATION_CAPACITY"
  fallback := initial.activationCapacity
  shown := initial.activationCapacity.text
  Accepts x value := ∃ n : Int, x.toInt? = some n ∧ 0 < n ∧ value = n

/-- The parameters of fusion must be finite. -/
def fusionParameter (name : String) (fallback : Binary64) : Numeric Binary64 where
  name
  fallback
  shown := fallback.text
  Accepts x value := x.isFinite = true ∧ value = x

def parameter1 : Numeric Binary64 :=
  fusionParameter "HID_FUSION_PARAMETER_1" fusionReset.parameter1

def parameter2 : Numeric Binary64 :=
  fusionParameter "HID_FUSION_PARAMETER_2" fusionReset.parameter2

theorem usableCapacity_eq_some_iff (x : Binary64) (value : Quantity) :
    usableCapacity x = some value ↔ capacity.Accepts x value := by
  rw [usableCapacity]
  constructor
  · intro used
    split at used
    case h_1 n integral =>
      split at used
      case isTrue positive => exact ⟨n, integral, positive, (Option.some.inj used).symm⟩
      case isFalse => cases used
    case h_2 => cases used
  · rintro ⟨n, integral, positive, rfl⟩
    rw [integral]
    exact if_pos positive

example : capacity.ofRaw usableCapacity (some " 0x10 ") = (16, []) := by decide

-- beyond every double
example : capacity.ofRaw usableCapacity (some "1e400") =
    (256, ["HID_ACTIVATION_CAPACITY=\"1e400\" is not valid, using 256"]) := by decide

theorem usableParameter_eq_some_iff (name : String) (fallback x value : Binary64) :
    usableParameter x = some value ↔ (fusionParameter name fallback).Accepts x value := by
  rw [usableParameter]
  constructor
  · intro used
    split at used
    case isTrue finite => exact ⟨finite, (Option.some.inj used).symm⟩
    case isFalse => cases used
  · rintro ⟨finite, rfl⟩
    exact if_pos finite

/-! ### Words -/

/-- The words that set a flag. -/
def onWords : List String := ["1", "true", "yes", "on"]

/-- The value of a flag: any text in its variable decides. -/
inductive ReadsFlag (raw : Option String) (fallback : Bool) : Bool → Prop where
  | absent (missing : ∀ text, ¬ Given raw text) : ReadsFlag raw fallback fallback
  | spelled {text : String} (given : Given raw text) :
      ReadsFlag raw fallback (decide (Text.keyword text ∈ onWords))

theorem readsFlag_readFlag (raw : Option String) (fallback : Bool) :
    ReadsFlag raw fallback (readFlag raw fallback) := by
  rw [readFlag.eq_def]
  cases raw with
  | none => exact .absent fun text => not_given_none
  | some text =>
      dsimp only
      split
      case isTrue blank => exact .absent (not_given_blank blank)
      case isFalse full =>
        rw [List.contains_eq_mem]
        exact .spelled (given_some full)

theorem readFlag_of_padded (padded : Padded raw raw') (fallback : Bool) :
    readFlag raw' fallback = readFlag raw fallback := by
  rcases padded.cases_trim with rfl | ⟨text, text', rfl, rfl, same⟩
  · rfl
  · rw [readFlag, readFlag, Text.isBlankText_congr same, Text.keyword_congr same]

end Variables
end Config

namespace LogLevel

open Config (Given Padded given_some not_given_none not_given_blank)

variable {raw raw' : Option String}

/-- The words that switch a log off. -/
def offWords : List String := ["false", "off", "none"]

/-- The level of a log, or that it is switched off. -/
inductive Reads (raw : Option String) (fallback : Option LogLevel) : Option LogLevel → Prop where
  | absent (missing : ∀ text, ¬ Given raw text) : Reads raw fallback fallback
  | off {text : String} (given : Given raw text) (word : Text.keyword text ∈ offWords) :
      Reads raw fallback none
  | named {text : String} {level : LogLevel} (given : Given raw text)
      (word : Text.keyword text = level.text) : Reads raw fallback (some level)
  | unknown {text : String} (given : Given raw text)
      (other : Text.keyword text ∉ offWords ++ all.map LogLevel.text) : Reads raw fallback fallback

theorem reads_read (raw : Option String) (fallback : Option LogLevel) :
    Reads raw fallback (LogLevel.read raw fallback) := by
  rw [LogLevel.read.eq_def]
  cases raw with
  | none => exact .absent fun text => not_given_none
  | some text =>
      dsimp only
      split
      case isTrue blank => exact .absent (not_given_blank blank)
      case isFalse full =>
        split
        case isTrue off => exact .off (given_some full) (by simpa [offWords] using off)
        case isFalse on =>
          split
          case h_1 level found =>
            have word := List.find?_some found
            exact .named (given_some full) (of_decide_eq_true word).symm
          case h_2 none =>
            refine .unknown (given_some full) fun among => ?_
            rcases List.mem_append.mp among with off | named
            · exact on (by simpa [offWords] using off)
            · obtain ⟨level, listed, word⟩ := List.mem_map.mp named
              exact List.find?_eq_none.mp none level listed (decide_eq_true word)

theorem read_of_padded (padded : Padded raw raw') (fallback : Option LogLevel) :
    LogLevel.read raw' fallback = LogLevel.read raw fallback := by
  rcases padded.cases_trim with rfl | ⟨text, text', rfl, rfl, same⟩
  · rfl
  · rw [LogLevel.read, LogLevel.read, Text.isBlankText_congr same, Text.keyword_congr same]

end LogLevel
end Hid
