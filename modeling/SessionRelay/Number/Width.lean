/-!
# Integers of a fixed width

The bounds of signed integers with 32 and 64 bits, and of natural numbers with 64 bits.
-/

namespace SessionRelay.Width

def int32Min : Int := -2147483648

def int32Max : Int := 2147483647

def int64Min : Int := -9223372036854775808

def int64Max : Int := 9223372036854775807

def nat64Max : Nat := 18446744073709551615

/-- Whether an integer has a form with a sign in 64 bits. -/
def isInt64 (n : Int) : Bool := int64Min ≤ n && n ≤ int64Max

end SessionRelay.Width
