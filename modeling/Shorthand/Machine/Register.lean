/-!
# Registers

The target machine has thirty-two registers, written `r0` to `r31`.  Some of them also go by
the name of the job they do, such as `sp` for the stack pointer.  A register is named by its
text everywhere, because the text is all that the assembler is given.
-/

namespace Shorthand.Machine

/-- The name of a register. -/
abbrev Register := String

namespace Register

/-- The register that always holds zero, the base of absolute addresses. -/
def zero : Register := "r0"

/-- The names that say what a register is for. -/
def jobs : List Register :=
  ["zero", "at", "et", "bt", "gp", "sp", "fp", "ea", "ba", "sstatus", "ra"]

/-- The numbered names. -/
def numbered : List Register :=
  ["r0", "r1", "r2", "r3", "r4", "r5", "r6", "r7", "r8", "r9", "r10", "r11", "r12", "r13",
   "r14", "r15", "r16", "r17", "r18", "r19", "r20", "r21", "r22", "r23", "r24", "r25", "r26",
   "r27", "r28", "r29", "r30", "r31"]

/-- Every name that the assembler takes for a register. -/
def all : List Register := jobs ++ numbered

end Register

/-- Whether the text names a register. -/
def isRegister (name : String) : Bool := Register.all.contains name

end Shorthand.Machine
