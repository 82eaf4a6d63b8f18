/-!
# Parts of a text

A text is trimmed at its ends, cut into words at the characters of a class, cut around one
character, and read in lines. Blank characters are those with the Unicode property White_Space and
the four information separators U+001C to U+001F. They include the white space of core
(`isBlank_of_isWhitespace`).

A word is a longest run of characters that do not separate, so no word is empty
(`ne_nil_of_mem_words`) and no word holds a separator (`not_separator_of_mem_words`). The parts
around the first occurrence of a character make up the text (`beforeFirst_append_fromFirst`), and
the part after the last one holds no further occurrence (`not_mem_afterLast`).

A text file may end its lines in a carriage return, a line feed or both. Reading turns each of the
three into one line feed, so that positions in a text do not depend on how its file ends lines.
No carriage return is left (`not_mem_unifyLineEnds`).
-/
namespace SchemaBeans.Text

/-- Whether a character is blank. -/
def isBlank (c : Char) : Bool :=
  let code := c.toNat
  (9 ≤ code && code ≤ 13) || (0x1C ≤ code && code ≤ 0x20) || code == 0x85 || code == 0xA0 ||
    code == 0x1680 || (0x2000 ≤ code && code ≤ 0x200A) || code == 0x2028 || code == 0x2029 ||
    code == 0x202F || code == 0x205F || code == 0x3000

/-- Every white space character of core is blank. -/
theorem isBlank_of_isWhitespace {c : Char} (white : c.isWhitespace = true) : isBlank c = true := by
  simp only [Char.isWhitespace, Bool.or_eq_true, decide_eq_true_eq] at white
  rcases white with ((rfl | rfl) | rfl) | rfl <;> rfl

/-- The text without the characters of a class at its two ends. -/
def trim (drops : Char → Bool) (text : List Char) : List Char :=
  ((text.dropWhile drops).reverse.dropWhile drops).reverse

/-- Put a word before other words, unless it is empty. -/
def consWord (word : List Char) (words : List (List Char)) : List (List Char) :=
  if word.isEmpty then words else word :: words

/-- The run of characters before the first separator, and the words after it. -/
def firstRun (separates : Char → Bool) : List Char → List Char × List (List Char)
  | [] => ([], [])
  | c :: rest =>
    let (run, later) := firstRun separates rest
    if separates c then ([], consWord run later) else (c :: run, later)

/-- The longest runs of characters that are no separators, in order. -/
def words (separates : Char → Bool) (text : List Char) : List (List Char) :=
  consWord (firstRun separates text).1 (firstRun separates text).2

/-- A separator ends no word and starts none. -/
@[simp] theorem words_cons_separator {separates : Char → Bool} {c : Char} {rest : List Char}
    (separator : separates c = true) : words separates (c :: rest) = words separates rest := by
  simp [words, firstRun, separator, consWord]

/-- The words and the first run of a text are not empty and free of separators. -/
private theorem firstRun_clean (separates : Char → Bool) (text : List Char) :
    (∀ c ∈ (firstRun separates text).1, separates c = false) ∧
      ∀ word ∈ (firstRun separates text).2, word ≠ [] ∧ ∀ c ∈ word, separates c = false := by
  induction text with
  | nil => simp [firstRun]
  | cons c rest ih =>
    cases separator : separates c with
    | true =>
      simp only [firstRun, separator, if_true, List.not_mem_nil, false_implies, implies_true,
        true_and]
      intro word member
      unfold consWord at member
      split at member
      · exact ih.2 word member
      · rename_i nonempty
        rcases List.mem_cons.mp member with rfl | later
        · exact ⟨by simpa using nonempty, ih.1⟩
        · exact ih.2 word later
    | false =>
      simp only [firstRun, separator, Bool.false_eq_true, if_false]
      refine ⟨fun d member => ?_, ih.2⟩
      rcases List.mem_cons.mp member with rfl | later
      · exact separator
      · exact ih.1 d later

/-- No word is empty. -/
theorem ne_nil_of_mem_words {separates : Char → Bool} {text word : List Char}
    (member : word ∈ words separates text) : word ≠ [] := by
  unfold words consWord at member
  split at member
  · exact ((firstRun_clean separates text).2 word member).1
  · rename_i nonempty
    rcases List.mem_cons.mp member with rfl | later
    · simpa using nonempty
    · exact ((firstRun_clean separates text).2 word later).1

/-- No word holds a separator. -/
theorem not_separator_of_mem_words {separates : Char → Bool} {text word : List Char}
    (member : word ∈ words separates text) {c : Char} (inside : c ∈ word) :
    separates c = false := by
  unfold words consWord at member
  split at member
  · exact ((firstRun_clean separates text).2 word member).2 c inside
  · rcases List.mem_cons.mp member with rfl | later
    · exact (firstRun_clean separates text).1 c inside
    · exact ((firstRun_clean separates text).2 word later).2 c inside

/-- The text before the first occurrence of a character. -/
def beforeFirst (mark : Char) (text : List Char) : List Char := text.takeWhile (· != mark)

/-- The text from the first occurrence of a character on. -/
def fromFirst (mark : Char) (text : List Char) : List Char := text.dropWhile (· != mark)

/-- The text after the last occurrence of a character; the whole text if there is none. -/
def afterLast (mark : Char) (text : List Char) : List Char :=
  (text.reverse.takeWhile (· != mark)).reverse

/-- Whether a text occurs in another without a gap. -/
def occursIn (part : List Char) : List Char → Bool
  | [] => part.isEmpty
  | c :: rest => part.isPrefixOf (c :: rest) || occursIn part rest

/-- Nothing is lost around the first occurrence. -/
theorem beforeFirst_append_fromFirst (mark : Char) (text : List Char) :
    beforeFirst mark text ++ fromFirst mark text = text :=
  List.takeWhile_append_dropWhile

/-- The part after the last occurrence holds none. -/
theorem not_mem_afterLast (mark : Char) (text : List Char) : mark ∉ afterLast mark text := by
  intro member
  have kept := List.all_takeWhile (l := text.reverse) (p := (· != mark))
  rw [List.all_eq_true] at kept
  simpa using kept mark (List.mem_reverse.mp member)

/-- A text without an occurrence is its last part. -/
theorem afterLast_of_not_mem {mark : Char} {text : List Char} (absent : mark ∉ text) :
    afterLast mark text = text := by
  have other (c : Char) (member : c ∈ text.reverse) : (c != mark) = true := by
    rw [bne_iff_ne]
    rintro rfl
    exact absent (List.mem_reverse.mp member)
  have whole : text.reverse.takeWhile (· != mark) = text.reverse := by
    have before := @List.takeWhile_append_of_pos _ (· != mark) text.reverse [] other
    rwa [List.append_nil, List.takeWhile_nil, List.append_nil] at before
  rw [afterLast, whole, List.reverse_reverse]

/-- The last part is what follows an occurrence, from its own last one on. -/
theorem afterLast_append_cons (mark : Char) (before after : List Char) :
    afterLast mark (before ++ mark :: after) = afterLast mark after := by
  rw [afterLast, afterLast, List.reverse_append, List.reverse_cons, List.append_assoc,
    List.takeWhile_append]
  split
  · rename_i all
    have whole := (List.takeWhile_prefix (l := after.reverse) (· != mark)).eq_of_length all
    rw [whole]
    simp
  · rfl

/-- The text with every line end written as one line feed. -/
def unifyLineEnds : List Char → List Char
  | [] => []
  | '\r' :: '\n' :: rest => '\n' :: unifyLineEnds rest
  | '\r' :: rest => '\n' :: unifyLineEnds rest
  | c :: rest => c :: unifyLineEnds rest

/-- No carriage return is left. -/
theorem not_mem_unifyLineEnds (text : List Char) : '\r' ∉ unifyLineEnds text := by
  fun_induction unifyLineEnds text <;> simp_all
  rintro rfl
  contradiction

/-- A place in a text: the line and the column count from one, the offset from zero. -/
structure Position where
  /-- One more than the number of line feeds before the place. -/
  line : Nat
  /-- One more than the number of characters between the last line feed and the place. -/
  column : Nat
  /-- The number of characters before the place. -/
  offset : Nat
deriving DecidableEq, Repr

/-- The place after the first `offset` characters of a text. -/
def Position.of (text : List Char) (offset : Nat) : Position :=
  let before := text.take offset
  { line := before.count '\n' + 1
    column := (before.reverse.takeWhile (· != '\n')).length + 1
    offset }

end SchemaBeans.Text
