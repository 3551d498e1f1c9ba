/-!
# Powers and sums of whole numbers

Powers such as `2 ^ n` and sums of lists are those of the core library.  An algebraic library that
is imported beside this one has instances of its own for them, which are the same numbers but other
terms; they stand behind those of core here, so that a definition is the same term wherever it is
read.
-/

attribute [instance (2000)] instPowNat instNatPowNat Int.instNatPow Zero.ofOfNat0

attribute [default_instance (20000)] instPowNat
