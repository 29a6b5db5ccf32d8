/-!
# Little-endian numbers

Numbers of fixed width are written and read lowest byte first.
-/

namespace SpriteText.LittleEndian

/-- The lowest bytes of a number, the lowest first. -/
def write : Nat → Nat → List UInt8
  | 0, _ => []
  | width + 1, value => UInt8.ofNat value :: write width (value / 256)

/-- The number that bytes spell, the lowest first. -/
def read : List UInt8 → Nat
  | [] => 0
  | byte :: rest => byte.toNat + 256 * read rest

/-- The width is the number of bytes. -/
@[simp] theorem length_write (width value : Nat) : (write width value).length = width := by
  induction width generalizing value with
  | zero => rfl
  | succ width ih => simp [write, ih]

end SpriteText.LittleEndian
