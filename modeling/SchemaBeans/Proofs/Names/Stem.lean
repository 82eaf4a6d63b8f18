import SchemaBeans.Names.Naming

/-!
# Stems of names

The stem of a property is made of identifier characters, whatever the property is called
(`plain_stem`), so case is that of ASCII wherever names are made: each character has one
counterpart, and the two mappings undo each other up to case.
-/
namespace SchemaBeans

namespace Text

/-- The first run and the words after it hold characters of the text alone. -/
theorem mem_of_mem_firstRun (separates : Char → Bool) (text : List Char) :
    (∀ c ∈ (firstRun separates text).1, c ∈ text) ∧
      ∀ word ∈ (firstRun separates text).2, ∀ c ∈ word, c ∈ text := by
  induction text with
  | nil => simp [firstRun]
  | cons first rest ih =>
    have later : ∀ c ∈ rest, c ∈ first :: rest := fun c => List.mem_cons_of_mem first
    cases separator : separates first with
    | true =>
      simp only [firstRun, separator, if_true, List.not_mem_nil, false_implies, implies_true,
        true_and]
      intro word member c inside
      unfold consWord at member
      split at member
      · exact later c (ih.2 word member c inside)
      · rcases List.mem_cons.mp member with rfl | known
        · exact later c (ih.1 c inside)
        · exact later c (ih.2 word known c inside)
    | false =>
      simp only [firstRun, separator, Bool.false_eq_true, if_false]
      refine ⟨fun c inside => ?_, fun word member c inside => later c (ih.2 word member c inside)⟩
      rcases List.mem_cons.mp inside with rfl | known
      · exact List.mem_cons_self
      · exact later c (ih.1 c known)

/-- The characters of words are characters of the text. -/
theorem mem_of_mem_words {separates : Char → Bool} {text word : List Char} {c : Char}
    (member : word ∈ words separates text) (inside : c ∈ word) : c ∈ text := by
  have runs := mem_of_mem_firstRun separates text
  unfold words consWord at member
  split at member
  · exact runs.2 word member c inside
  · rcases List.mem_cons.mp member with rfl | known
    · exact runs.1 c inside
    · exact runs.2 word known c inside

end Text

namespace Identifier

/-- A property of the characters of ASCII can be settled one by one. -/
theorem ascii_cases (holds : Char → Prop) (all : ∀ code : Fin 128, holds (Char.ofNat code))
    {c : Char} (legal : isChar c = true) : holds c := by
  have named := all ⟨c.toNat, ascii_of_isChar legal⟩
  rwa [Char.ofNat_toNat] at named

/-- The upper case of an identifier character is one. -/
theorem isChar_toUpper {c : Char} (legal : isChar c = true) : isChar c.toUpper = true :=
  ascii_cases (fun c => isChar c = true → isChar c.toUpper = true) (by decide) legal legal

/-- The lower case of an identifier character is one. -/
theorem isChar_toLower {c : Char} (legal : isChar c = true) : isChar c.toLower = true :=
  ascii_cases (fun c => isChar c = true → isChar c.toLower = true) (by decide) legal legal

/-- The upper case does not depend on the case. -/
theorem toUpper_toLower {c : Char} (legal : isChar c = true) : c.toLower.toUpper = c.toUpper :=
  ascii_cases (fun c => c.toLower.toUpper = c.toUpper) (by decide) legal

/-- The lower case does not depend on the case. -/
theorem toLower_toUpper {c : Char} (legal : isChar c = true) : c.toUpper.toLower = c.toLower :=
  ascii_cases (fun c => c.toUpper.toLower = c.toLower) (by decide) legal

/-- A capital is its own upper case. -/
theorem toUpper_of_isUpper {c : Char} (legal : isChar c = true) (capital : c.isUpper = true) :
    c.toUpper = c :=
  ascii_cases (fun c => c.isUpper = true → c.toUpper = c) (by decide) legal capital

/-- A character that is no capital is its own lower case. -/
theorem toLower_of_not_isUpper {c : Char} (legal : isChar c = true) (small : c.isUpper = false) :
    c.toLower = c :=
  ascii_cases (fun c => c.isUpper = false → c.toLower = c) (by decide) legal small

end Identifier

namespace Naming

/-- A name of identifier characters alone. -/
def Plain (name : List Char) : Prop := ∀ c ∈ name, Identifier.isChar c = true

/-- A plain name is capitalized in ASCII. -/
theorem capitalize_cons {first : Char} {rest : List Char} (plain : Plain (first :: rest)) :
    capitalize (first :: rest) = first.toUpper :: rest := by
  have ascii := Identifier.ascii_of_isChar (plain first List.mem_cons_self)
  rw [capitalize, Text.upper_of_ascii ascii, List.singleton_append]

/-- A plain name is uncapitalized in ASCII. -/
theorem uncapitalize_cons {first : Char} {rest : List Char} (plain : Plain (first :: rest)) :
    uncapitalize (first :: rest) = first.toLower :: rest := by
  have ascii := Identifier.ascii_of_isChar (plain first List.mem_cons_self)
  rw [uncapitalize, Text.lower_of_ascii ascii, List.singleton_append]

/-- A plain name stays plain when it is capitalized. -/
theorem plain_capitalize {name : List Char} (plain : Plain name) : Plain (capitalize name) := by
  cases name with
  | nil => exact plain
  | cons first rest =>
    rw [capitalize_cons plain]
    intro c member
    rcases List.mem_cons.mp member with rfl | later
    · exact Identifier.isChar_toUpper (plain first List.mem_cons_self)
    · exact plain c (List.mem_cons_of_mem first later)

/-- A name made legal is plain. -/
theorem plain_legalize (name : List Char) : Plain (legalize name) :=
  fun _ member => isChar_of_mem_legalize member

/-- Words of a plain name are joined to a plain name. -/
theorem plain_joinWords (naming : Naming) {name : List Char} (plain : Plain name) :
    Plain (naming.joinWords name) := by
  unfold joinWords
  split
  · exact plain
  · rename_i first later cut
    have word {word : List Char} (member : word ∈ first :: later) : Plain word :=
      fun c inside => plain c (Text.mem_of_mem_words (cut ▸ member) inside)
    intro c member
    rcases List.mem_append.mp member with inside | inside
    · exact word List.mem_cons_self c inside
    · obtain ⟨trailing, known, capital⟩ := List.mem_flatMap.mp inside
      exact plain_capitalize (word (List.mem_cons_of_mem first known)) c capital

/-- A plain name stays plain after an underscore. -/
theorem plain_underscore {name : List Char} (plain : Plain name) : Plain ('_' :: name) := by
  intro c member
  rcases List.mem_cons.mp member with rfl | later
  · decide
  · exact plain c later

/-- A plain name stays plain when a digit at its start is guarded. -/
theorem plain_guardDigit {name : List Char} (plain : Plain name) : Plain (guardDigit name) := by
  cases name with
  | nil => exact plain
  | cons first rest =>
    rw [guardDigit]
    split
    · exact plain_underscore plain
    · exact plain

/-- The stem of a property is plain, whatever the property is called. -/
theorem plain_stem (naming : Naming) (property : String) (node : Option Json) :
    Plain (naming.stem property node) :=
  plain_guardDigit (plain_joinWords naming (plain_legalize _))

end Naming

end SchemaBeans
