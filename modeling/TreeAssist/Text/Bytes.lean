/-!
# Byte offsets into a list of characters

Positions in a document count the bytes of its UTF-8 form, while the document itself is a list of
characters.

* `byteLength cs` — the length of the UTF-8 form.
* `takeBytes n cs` — the longest prefix of `cs` that fits into `n` bytes.
* `dropBytes n cs` — what follows that prefix.

An offset inside a character thus counts as the offset of its start.
-/

namespace TreeAssist.Text

/-- Length of the UTF-8 form of `cs` in bytes. -/
def byteLength : List Char → Nat
  | [] => 0
  | c :: cs => c.utf8Size + byteLength cs

/-- The longest prefix of `cs` that fits into `n` bytes. -/
def takeBytes (n : Nat) : List Char → List Char
  | [] => []
  | c :: cs => if c.utf8Size ≤ n then c :: takeBytes (n - c.utf8Size) cs else []

/-- What follows the longest prefix of `cs` that fits into `n` bytes. -/
def dropBytes (n : Nat) : List Char → List Char
  | [] => []
  | c :: cs => if c.utf8Size ≤ n then dropBytes (n - c.utf8Size) cs else c :: cs

@[simp]
theorem byteLength_nil : byteLength [] = 0 := rfl

@[simp]
theorem byteLength_cons (c : Char) (cs : List Char) :
    byteLength (c :: cs) = c.utf8Size + byteLength cs := rfl

/-- Lengths in bytes add up. -/
@[simp]
theorem byteLength_append (cs ds : List Char) :
    byteLength (cs ++ ds) = byteLength cs + byteLength ds := by
  induction cs with
  | nil => simp
  | cons c cs ih => simp [ih, Nat.add_assoc]

/-- The two parts of a cut make up the whole. -/
@[simp]
theorem takeBytes_append_dropBytes (n : Nat) (cs : List Char) :
    takeBytes n cs ++ dropBytes n cs = cs := by
  induction cs generalizing n with
  | nil => rfl
  | cons c cs ih =>
    by_cases h : c.utf8Size ≤ n
    · simp [takeBytes, dropBytes, h, ih]
    · simp [takeBytes, dropBytes, h]

/-- What is taken fits. -/
theorem byteLength_takeBytes_le (n : Nat) (cs : List Char) : byteLength (takeBytes n cs) ≤ n := by
  induction cs generalizing n with
  | nil => simp [takeBytes]
  | cons c cs ih =>
    by_cases h : c.utf8Size ≤ n
    · have := ih (n - c.utf8Size)
      simp only [takeBytes, h, ↓reduceIte, byteLength_cons]
      omega
    · simp [takeBytes, h]

end TreeAssist.Text
