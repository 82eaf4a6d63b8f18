import Mathlib.Data.List.Basic
import SchemaBeans.Text.Parts

/-!
# Words and lines

A text that is made of words with separators between them is cut into these words
(`Spaced.words_eq`), and whatever a text is made of, its words together are the text without its
separators (`flatten_words`). Every text is made of words and separators, and in one way alone: the
words are those into which it is cut (`cutInto_iff`).

A text stands on one line if no line feed is in it. It stays so when it is put together of such
texts, and when characters are left out of it.
-/
namespace SchemaBeans.Text

variable {separates : Char → Bool}

/-- A word that is put before others adds its characters to theirs, also if it is empty. -/
theorem flatten_consWord (word : List Char) (words : List (List Char)) :
    (consWord word words).flatten = word ++ words.flatten := by
  unfold consWord
  split
  · rename_i empty
    rw [List.isEmpty_iff.mp empty, List.nil_append]
  · rw [List.flatten_cons]

/-- The words of a text together are the text without its separators. -/
theorem flatten_words (separates : Char → Bool) (text : List Char) :
    (words separates text).flatten = text.filter (!separates ·) := by
  rw [words, flatten_consWord]
  induction text with
  | nil => rfl
  | cons c rest ih =>
    cases separator : separates c with
    | true =>
      simp only [firstRun, separator, if_true, List.nil_append, flatten_consWord]
      rw [ih, List.filter_cons_of_neg (by simp [separator])]
    | false =>
      simp only [firstRun, separator, Bool.false_eq_true, if_false, List.cons_append]
      rw [ih, List.filter_cons_of_pos (by simp [separator])]

/-- Separators before a text do not show in its words. -/
theorem words_append_separators {run : List Char} (separators : ∀ c ∈ run, separates c = true)
    (rest : List Char) : words separates (run ++ rest) = words separates rest := by
  induction run with
  | nil => rfl
  | cons c run ih =>
    have first : separates c = true := separators c List.mem_cons_self
    rw [List.cons_append, words_cons_separator first]
    exact ih fun d member => separators d (List.mem_cons_of_mem c member)

/-- The first run goes on through characters that are no separators. -/
theorem firstRun_append {word : List Char} (clean : ∀ c ∈ word, separates c = false)
    (rest : List Char) :
    firstRun separates (word ++ rest) =
      (word ++ (firstRun separates rest).1, (firstRun separates rest).2) := by
  induction word with
  | nil => rfl
  | cons c word ih =>
    have first : separates c = false := clean c List.mem_cons_self
    have later := ih fun d member => clean d (List.mem_cons_of_mem c member)
    rw [List.cons_append, firstRun, later, first]
    rfl

/-- A text starts with no word if it is empty or starts with a separator. -/
def Ends (separates : Char → Bool) (text : List Char) : Prop :=
  ∀ c, text.head? = some c → separates c = true

/-- Where a text starts with no word, its first run is empty. -/
theorem firstRun_of_ends {text : List Char} (ends : Ends separates text) :
    (firstRun separates text).1 = [] := by
  cases text with
  | nil => rfl
  | cons c rest =>
    have separator : separates c = true := ends c rfl
    simp only [firstRun, separator, if_true]

/-- A word that ends before the rest of a text is followed by the words of the rest. -/
theorem words_append_word {word rest : List Char} (nonempty : word ≠ [])
    (clean : ∀ c ∈ word, separates c = false) (ends : Ends separates rest) :
    words separates (word ++ rest) = word :: words separates rest := by
  have none : (firstRun separates rest).1 = [] := firstRun_of_ends ends
  rw [words, firstRun_append clean, words, none, List.append_nil]
  simp [consWord, nonempty]

/-- A text that starts with no separator starts with its first word. -/
theorem exists_words_cons {c : Char} (clear : separates c = false) (rest : List Char) :
    ∃ run later, words separates (c :: rest) = (c :: run) :: later := by
  refine ⟨(firstRun separates rest).1, (firstRun separates rest).2, ?_⟩
  simp [words, firstRun, clear, consWord]

/-- A text is cut into words: it is made of them in their order, with separators between them and
around them, and a word ends only where a separator or the end of the text follows. -/
inductive CutInto (separates : Char → Bool) : List Char → List (List Char) → Prop
  /-- Separators alone are cut into no words. -/
  | none {trail : List Char} (after : ∀ c ∈ trail, separates c = true) : CutInto separates trail []
  /-- Separators may stand before a word. -/
  | word {gap word rest : List Char} {words : List (List Char)}
      (before : ∀ c ∈ gap, separates c = true) (nonempty : word ≠ [])
      (clean : ∀ c ∈ word, separates c = false) (ends : Ends separates rest)
      (later : CutInto separates rest words) :
      CutInto separates (gap ++ word ++ rest) (word :: words)

/-- A text after one more separator is cut into the same words. -/
theorem CutInto.cons {c : Char} (separator : separates c = true) {text : List Char}
    {words : List (List Char)} (cut : CutInto separates text words) :
    CutInto separates (c :: text) words := by
  cases cut with
  | none after => exact .none (List.forall_mem_cons.mpr ⟨separator, after⟩)
  | word before nonempty clean ends later =>
    exact .word (List.forall_mem_cons.mpr ⟨separator, before⟩) nonempty clean ends later

/-- A run before the rest of a text is a word, unless it is empty. -/
theorem CutInto.consWord {run rest : List Char} {words : List (List Char)}
    (clean : ∀ c ∈ run, separates c = false) (ends : Ends separates rest)
    (later : CutInto separates rest words) :
    CutInto separates (run ++ rest) (consWord run words) := by
  unfold Text.consWord
  split
  · rename_i empty
    rwa [List.isEmpty_iff.mp empty]
  · rename_i some
    have nonempty : run ≠ [] := by simpa using some
    exact @CutInto.word _ [] run rest words (by simp) nonempty clean ends later

/-- A text is its first run and a rest that is cut into the words after it. -/
theorem exists_firstRun_append (separates : Char → Bool) (text : List Char) :
    ∃ rest, text = (firstRun separates text).1 ++ rest ∧
      (∀ c ∈ (firstRun separates text).1, separates c = false) ∧ Ends separates rest ∧
      CutInto separates rest (firstRun separates text).2 := by
  induction text with
  | nil => exact ⟨[], rfl, by simp [firstRun], by simp [Ends], .none (by simp)⟩
  | cons c text ih =>
    obtain ⟨rest, split, clean, ends, cut⟩ := ih
    cases separator : separates c with
    | true =>
      simp only [firstRun, separator, if_true]
      have whole := CutInto.consWord clean ends cut
      rw [← split] at whole
      exact ⟨c :: text, rfl, by simp, by simp [Ends, separator], whole.cons separator⟩
    | false =>
      simp only [firstRun, separator, Bool.false_eq_true, if_false, List.cons_append]
      exact ⟨rest, congrArg _ split, List.forall_mem_cons.mpr ⟨separator, clean⟩, ends, cut⟩

/-- A text is cut into its words, and into nothing else. -/
theorem cutInto_iff {text : List Char} {parts : List (List Char)} :
    CutInto separates text parts ↔ parts = words separates text := by
  constructor
  · intro cut
    induction cut with
    | none after =>
      have onlySeparators := words_append_separators after []
      rw [List.append_nil] at onlySeparators
      exact onlySeparators.symm
    | word before nonempty clean ends _ ih =>
      rw [List.append_assoc, words_append_separators before, words_append_word nonempty clean ends,
        ih]
  · rintro rfl
    obtain ⟨rest, split, clean, ends, cut⟩ := exists_firstRun_append separates text
    have whole := CutInto.consWord clean ends cut
    rwa [← split] at whole

/-- Words that each follow a run of separators, and separators after the last. -/
structure Spaced (separates : Char → Bool) (gaps : List (List Char × List Char))
    (trail : List Char) : Prop where
  /-- A run before a word is not empty. -/
  apart : ∀ gap ∈ gaps, gap.1 ≠ []
  /-- It holds separators alone. -/
  between : ∀ gap ∈ gaps, ∀ c ∈ gap.1, separates c = true
  /-- A word is not empty. -/
  nonempty : ∀ gap ∈ gaps, gap.2 ≠ []
  /-- It holds no separator. -/
  clean : ∀ gap ∈ gaps, ∀ c ∈ gap.2, separates c = false
  /-- There are separators alone after the last word. -/
  after : ∀ c ∈ trail, separates c = true

/-- The text of words that each follow a run of separators. -/
def spacedText (gaps : List (List Char × List Char)) (trail : List Char) : List Char :=
  gaps.flatMap (fun gap => gap.1 ++ gap.2) ++ trail

namespace Spaced

variable {gap : List Char × List Char} {gaps : List (List Char × List Char)} {trail : List Char}

/-- The words after the first are spaced as well. -/
theorem tail (spaced : Spaced separates (gap :: gaps) trail) : Spaced separates gaps trail where
  apart other member := spaced.apart other (List.mem_cons_of_mem gap member)
  between other member := spaced.between other (List.mem_cons_of_mem gap member)
  nonempty other member := spaced.nonempty other (List.mem_cons_of_mem gap member)
  clean other member := spaced.clean other (List.mem_cons_of_mem gap member)
  after := spaced.after

/-- A text of spaced words starts with no word. -/
theorem ends (spaced : Spaced separates gaps trail) : Ends separates (spacedText gaps trail) := by
  intro c starts
  cases gaps with
  | nil => exact spaced.after c (List.mem_of_mem_head? starts)
  | cons gap rest =>
    obtain ⟨run, word⟩ := gap
    cases run with
    | nil => exact absurd rfl (spaced.apart ([], word) List.mem_cons_self)
    | cons d run =>
      obtain rfl : d = c := by simpa [spacedText] using starts
      exact spaced.between (d :: run, word) List.mem_cons_self d List.mem_cons_self

/-- The words of a text of spaced words are these words. -/
theorem words_eq (spaced : Spaced separates gaps trail) :
    words separates (spacedText gaps trail) = gaps.map (·.2) := by
  induction gaps with
  | nil =>
    have onlySeparators := words_append_separators spaced.after []
    simpa [spacedText, words, firstRun, consWord] using onlySeparators
  | cons gap rest ih =>
    have own : gap ∈ gap :: rest := List.mem_cons_self
    have split : spacedText (gap :: rest) trail = gap.1 ++ (gap.2 ++ spacedText rest trail) := by
      simp only [spacedText, List.flatMap_cons, List.append_assoc]
    rw [split, words_append_separators (spaced.between gap own),
      words_append_word (spaced.nonempty gap own) (spaced.clean gap own) spaced.tail.ends,
      ih spaced.tail, List.map_cons]

end Spaced

/-- Whether no line feed is in a text. -/
def Unbroken (text : String) : Prop := '\n' ∉ text.toList

instance (text : String) : Decidable (Unbroken text) := inferInstanceAs (Decidable (_ ∉ _))

/-- A text of characters of a class without the line feed is unbroken. -/
theorem unbroken_of_forall {isKind : Char → Bool} (apart : isKind '\n' = false) {text : String}
    (kind : ∀ c ∈ text.toList, isKind c = true) : Unbroken text := by
  intro member
  rw [kind '\n' member] at apart
  cases apart

/-- A text that holds characters of an unbroken text alone is unbroken. -/
theorem Unbroken.mono {whole : String} (unbroken : Unbroken whole) {part : String}
    (inside : part.toList ⊆ whole.toList) : Unbroken part :=
  fun member => unbroken (inside member)

/-- Two texts make an unbroken one exactly if both are unbroken. -/
theorem unbroken_append {first second : String} :
    Unbroken (first ++ second) ↔ Unbroken first ∧ Unbroken second := by
  simp [Unbroken]

/-- Unbroken texts make an unbroken one with an unbroken text between any two. -/
theorem unbroken_intercalate {between : String} (separated : Unbroken between)
    {texts : List String} (each : ∀ text ∈ texts, Unbroken text) :
    Unbroken (between.intercalate texts) := by
  induction texts with
  | nil =>
    rw [String.intercalate_nil]
    decide
  | cons first rest ih =>
    have own := each first List.mem_cons_self
    cases rest with
    | nil => rwa [String.intercalate_singleton]
    | cons second rest =>
      have later := ih fun text member => each text (List.mem_cons_of_mem first member)
      rw [String.intercalate_cons_cons, unbroken_append, unbroken_append]
      exact ⟨⟨own, separated⟩, later⟩

/-- The part of a text after the last occurrence of a character is made of its characters. -/
theorem afterLast_subset (mark : Char) (text : List Char) : afterLast mark text ⊆ text :=
  fun _ member =>
    List.mem_reverse.mp ((List.takeWhile_sublist _).subset (List.mem_reverse.mp member))

end SchemaBeans.Text
