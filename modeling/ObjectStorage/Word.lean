/-!
# Words

Counts and sizes are below `Word.bound`, and generations and settings lie
between `Word.leastSigned` and `Word.greatestSigned`: they fit into 64 bits
without and with a sign.
-/

namespace ObjectStorage.Word

/-- The number of values of 64 bits. -/
def bound : Nat := 18446744073709551616

/-- The least number of 64 bits with a sign. -/
def leastSigned : Int := -9223372036854775808

/-- The greatest number of 64 bits with a sign. -/
def greatestSigned : Int := 9223372036854775807

end ObjectStorage.Word
