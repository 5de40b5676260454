/-!
# Text measured in bytes

Offsets count the bytes of the UTF-8 form, columns count characters. A character takes between one
and four bytes, so an offset may point inside one. The cuts below place each character by its first
byte: every character lies on exactly one side of any offset.
-/

namespace DiagnosticRelay.Text

/-- The number of bytes that the characters take. -/
def byteLength : List Char → Nat
  | [] => 0
  | c :: rest => c.utf8Size + byteLength rest

@[simp] theorem byteLength_nil : byteLength [] = 0 := rfl

@[simp] theorem byteLength_cons (c : Char) (cs : List Char) :
    byteLength (c :: cs) = c.utf8Size + byteLength cs := rfl

@[simp] theorem byteLength_append (a b : List Char) :
    byteLength (a ++ b) = byteLength a + byteLength b := by
  induction a with
  | nil => simp
  | cons c a ih => simp [ih, Nat.add_assoc]

/-- The characters that start before byte `n`. -/
def startingBefore : Nat → List Char → List Char
  | 0, _ => []
  | _ + 1, [] => []
  | n + 1, c :: rest => c :: startingBefore (n + 1 - c.utf8Size) rest

/-- The characters that start at byte `n` or later. -/
def startingFrom : Nat → List Char → List Char
  | 0, cs => cs
  | _ + 1, [] => []
  | n + 1, c :: rest => startingFrom (n + 1 - c.utf8Size) rest

@[simp] theorem startingBefore_zero (cs : List Char) : startingBefore 0 cs = [] := by
  cases cs <;> rfl

@[simp] theorem startingBefore_nil (n : Nat) : startingBefore n [] = [] := by
  cases n <;> rfl

@[simp] theorem startingFrom_zero (cs : List Char) : startingFrom 0 cs = cs := by
  cases cs <;> rfl

@[simp] theorem startingFrom_nil (n : Nat) : startingFrom n [] = [] := by
  cases n <;> rfl

/-- Every character lies on exactly one side of an offset. -/
@[simp] theorem startingBefore_append_startingFrom (n : Nat) (cs : List Char) :
    startingBefore n cs ++ startingFrom n cs = cs := by
  induction cs generalizing n with
  | nil => simp
  | cons c cs ih => cases n <;> simp [startingBefore, startingFrom, ih]

end DiagnosticRelay.Text
