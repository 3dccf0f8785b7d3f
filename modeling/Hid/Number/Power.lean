/-!
The powers that number formats are made of: of two for binary words, of ten for decimal
text.
-/

namespace Hid.Number

abbrev twoTo (n : Nat) : Nat := Nat.pow 2 n

abbrev tenTo (n : Nat) : Nat := Nat.pow 10 n

end Hid.Number
