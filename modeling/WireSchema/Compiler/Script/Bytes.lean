namespace WireSchema.Script

/-!
Texts as bytes.

A script works on bytes: it counts them, and a program may print any of them.  Each byte is held as
the character of its number, so that a text of bytes is a text like any other.  What is given to a
script is spelled in this way, and what it prints is read back at the end.
-/

/-- The bytes of a text, each as the character of its number. -/
def spelled (text : String) : String :=
  String.ofList (text.toUTF8.toList.map fun byte => Char.ofNat byte.toNat)

/-- The bytes that a text of bytes holds. -/
def bytesOf (spelling : String) : List UInt8 :=
  spelling.toList.map fun c => c.toNat.toUInt8

def textOf? (spelling : String) : Option String :=
  String.fromUTF8? ⟨(bytesOf spelling).toArray⟩

/-- The character of a byte; greater numbers lose their higher part. -/
def byteChar (number : Nat) : Char := Char.ofNat (number % 256)

end WireSchema.Script
