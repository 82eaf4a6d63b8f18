/-!
# Java identifiers

The characters of the identifiers that are generated, which are those of ASCII, and the words that
the language keeps for itself.
-/
namespace SchemaBeans.Identifier

/-- Whether a character may stand in a generated identifier. -/
def isChar (c : Char) : Bool := c.isAlphanum || c == '_' || c == '$'

/-- The words that are no identifiers. -/
def keywords : List String := [
  "abstract", "assert", "boolean", "break", "byte", "case", "catch", "char", "class", "const",
  "continue", "default", "do", "double", "else", "enum", "extends", "false", "final", "finally",
  "float", "for", "goto", "if", "implements", "import", "instanceof", "int", "interface", "long",
  "native", "new", "null", "package", "private", "protected", "public", "return", "short",
  "static", "strictfp", "super", "switch", "synchronized", "this", "throw", "throws", "transient",
  "true", "try", "void", "volatile", "while", "_"]

/-- Whether a text is one of the words that are no identifiers. -/
def isKeyword (name : List Char) : Bool := keywords.contains (String.ofList name)

/-- Whether a text is an identifier: it is not empty, holds identifier characters alone, starts
with no digit and is no keyword. -/
def isLegal (name : List Char) : Bool :=
  match name with
  | [] => false
  | first :: _ => name.all isChar && !first.isDigit && !isKeyword name

/-- A legal identifier holds identifier characters alone. -/
theorem isChar_of_isLegal {name : List Char} {c : Char} (legal : isLegal name = true)
    (member : c ∈ name) : isChar c = true := by
  cases name with
  | nil => cases member
  | cons first rest =>
    simp only [isLegal, Bool.and_eq_true, List.all_eq_true] at legal
    exact legal.1.1 c member

/-- The characters of an identifier are of ASCII. -/
theorem ascii_of_isChar {c : Char} (legal : isChar c = true) :
    c.toNat < 128 := by
  have below {last : UInt32} (bound : c.val ≤ last) : c.toNat ≤ last.toNat :=
    UInt32.le_iff_toNat_le.mp bound
  have split {left right : Bool} (either : (left || right) = true) : left = true ∨ right = true :=
    Bool.or_eq_true_iff.mp either
  simp only [isChar, Bool.or_eq_true, beq_iff_eq] at legal
  rcases legal with (word | rfl) | rfl
  · rcases split (show (c.isAlpha || c.isDigit) = true from word) with letter | digit
    · rcases split (show (c.isUpper || c.isLower) = true from letter) with capital | small
      · have bounds : c.val ≥ 'A'.val ∧ c.val ≤ 'Z'.val := of_decide_eq_true capital
        exact Nat.lt_of_le_of_lt (below bounds.2) (by decide)
      · have bounds := Bool.and_eq_true_iff.mp
          (show (decide (c.val ≥ 'a'.val) && decide (c.val ≤ 'z'.val)) = true from small)
        exact Nat.lt_of_le_of_lt (below (of_decide_eq_true bounds.2)) (by decide)
    · have bounds := Bool.and_eq_true_iff.mp
        (show (decide (c.val ≥ '0'.val) && decide (c.val ≤ '9'.val)) = true from digit)
      exact Nat.lt_of_le_of_lt (below (of_decide_eq_true bounds.2)) (by decide)
  · decide
  · decide

end SchemaBeans.Identifier
