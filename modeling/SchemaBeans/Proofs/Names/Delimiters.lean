import Mathlib.Data.List.Basic
import SchemaBeans.Proofs.Names.Legal
import SchemaBeans.Proofs.Names.LookAlike
import SchemaBeans.Proofs.Text.Parts

/-!
# Names that hold delimiters

A property may be named by words of letters and digits with delimiters around them. A name is made
legal before it is cut into words, and only delimiters that an identifier may hold are left by then:
the others have become underscores. So the members of the property are named as if the words stood
in camel case, if the underscore is a delimiter or no other character had to be replaced; but for one
coincidence with the guard of a digit, they are not otherwise (`sameNames_iff`).
-/
namespace SchemaBeans.Naming

open Identifier Text

/-- Two properties whose members have the same names, whatever their types. -/
structure SameNames (naming : Naming) (property other : String) (node : Option Json) : Prop where
  /-- Their fields have one name. -/
  field : naming.fieldName property node = naming.fieldName other node
  /-- So have their getters. -/
  getter : ∀ type, naming.getterName property type node = naming.getterName other type node
  /-- So have their setters. -/
  setter : naming.setterName property node = naming.setterName other node
  /-- So have their builders. -/
  builder : naming.builderName property node = naming.builderName other node
  /-- So have classes that are named after them. -/
  className : naming.className property node = naming.className other node

/-- Words of letters and digits with runs of delimiters around them: a run before each word but the
first is not empty. -/
structure DelimitedName (naming : Naming) where
  /-- The run before the first word. -/
  lead : List Char
  /-- The first word. -/
  first : List Char
  /-- The other words, each after its run. -/
  later : List (List Char × List Char)
  /-- The run after the last word. -/
  trail : List Char
  /-- Runs hold delimiters. -/
  delimits : ∀ c ∈ lead ++ (later.flatMap (·.1) ++ trail), naming.separates c = true
  /-- A run between words is not empty. -/
  apart : ∀ gap ∈ later, gap.1 ≠ []
  /-- No word is empty. -/
  nonempty : ∀ word ∈ first :: later.map (·.2), word ≠ []
  /-- Words hold letters and digits of ASCII. -/
  spelled : ∀ word ∈ first :: later.map (·.2), ∀ c ∈ word, c.isAlphanum = true

/-- The number of characters that an identifier does not hold. -/
def foreign (text : List Char) : Nat := text.countP (!isChar ·)

/-- Whether a text starts with a digit. -/
def startsWithDigit : List Char → Bool
  | [] => false
  | first :: _ => isDigit first

namespace DelimitedName

variable {naming : Naming} (name : DelimitedName naming)

/-- The runs of delimiters after the first word. -/
def laterRuns : List Char := name.later.flatMap (·.1) ++ name.trail

/-- All runs of delimiters. -/
def runs : List Char := name.lead ++ name.laterRuns

/-- The name as it is given. -/
def text : List Char := name.lead ++ (name.first ++ spacedText name.later name.trail)

/-- The words in camel case. -/
def camelCase : List Char := name.first ++ (name.later.map (·.2)).flatMap capitalize

end DelimitedName

/-- Letters and digits of ASCII are identifier characters. -/
theorem isChar_of_isAlphanum {c : Char} (letter : c.isAlphanum = true) : isChar c = true := by
  simp [isChar, letter]

/-- Letters and digits of ASCII stay so in upper case. -/
theorem isAlphanum_toUpper {c : Char} (letter : c.isAlphanum = true) :
    c.toUpper.isAlphanum = true :=
  ascii_cases (fun c => c.isAlphanum = true → c.toUpper.isAlphanum = true) (by decide)
    (isChar_of_isAlphanum letter) letter

/-- Only an underscore is one in upper case. -/
theorem toUpper_eq_underscore_iff {c : Char} (legal : isChar c = true) :
    c.toUpper = '_' ↔ c = '_' :=
  ascii_cases (fun c => c.toUpper = '_' ↔ c = '_') (by decide) legal

/-- A digit is its own upper case. -/
theorem toUpper_of_isDigit {c : Char} (legal : isChar c = true) (digit : isDigit c = true) :
    c.toUpper = c :=
  ascii_cases (fun c => isDigit c = true → c.toUpper = c) (by decide +kernel) legal digit

/-- Capitalizing changes no underscore. -/
theorem count_capitalize {word : List Char} (plain : Plain word) :
    (capitalize word).count '_' = word.count '_' := by
  cases word with
  | nil => rfl
  | cons first rest =>
    have same := toUpper_eq_underscore_iff (plain first List.mem_cons_self)
    rw [capitalize_cons plain, List.count_cons, List.count_cons]
    simp [same]

/-- A name that starts with a digit is its own capitalized form. -/
theorem capitalize_of_startsWithDigit {word : List Char} (plain : Plain word)
    (digit : startsWithDigit word = true) : capitalize word = word := by
  cases word with
  | nil => rfl
  | cons first rest =>
    rw [capitalize_cons plain, toUpper_of_isDigit (plain first List.mem_cons_self) digit]

/-- The guard adds an underscore exactly before a digit. -/
theorem count_guardDigit (name : List Char) :
    (guardDigit name).count '_' = name.count '_' + if startsWithDigit name then 1 else 0 := by
  cases name with
  | nil => rfl
  | cons first rest =>
    rw [guardDigit, startsWithDigit]
    split <;> simp

/-- A digit at the start is guarded. -/
theorem guardDigit_of_startsWithDigit {name : List Char} (digit : startsWithDigit name = true) :
    guardDigit name = '_' :: name := by
  cases name with
  | nil => cases digit
  | cons first rest => exact if_pos digit

/-- Joining words keeps all underscores if these do not separate words. -/
theorem count_joinWords {naming : Naming} (kept : naming.separates '_' = false) {name : List Char}
    (plain : Plain name) : (naming.joinWords name).count '_' = name.count '_' := by
  unfold joinWords
  split
  · rfl
  · rename_i first later cut
    have together := flatten_words naming.separates name
    rw [cut, List.flatten_cons] at together
    have capitals : (later.flatMap capitalize).count '_' = later.flatten.count '_' := by
      rw [List.count_flatMap, List.count_flatten]
      congr 1
      refine List.map_congr_left fun word member => count_capitalize fun c inside => ?_
      exact plain c (mem_of_mem_words (cut ▸ List.mem_cons_of_mem first member) inside)
    rw [List.count_append, capitals, ← List.count_append, together]
    exact List.count_filter (by simp [kept])

/-- Making a name legal turns each foreign character into an underscore. -/
theorem count_legalize {name : List Char} (none : '_' ∉ name) :
    (legalize name).count '_' = foreign name := by
  unfold legalize foreign
  rw [List.count, List.countP_map]
  refine List.countP_congr fun c member => ?_
  have other : c ≠ '_' := by
    rintro rfl
    exact none member
  cases legal : isChar c <;> simp [legal, other]

/-- Words that are spaced by separators are joined, whatever separators are before them. -/
theorem joinWords_spaced {naming : Naming} {lead first trail : List Char}
    {gaps : List (List Char × List Char)} (separators : ∀ c ∈ lead, naming.separates c = true)
    (nonempty : first ≠ []) (clean : ∀ c ∈ first, naming.separates c = false)
    (spaced : Spaced naming.separates gaps trail) :
    naming.joinWords (lead ++ (first ++ spacedText gaps trail)) =
      first ++ (gaps.map (·.2)).flatMap capitalize := by
  unfold joinWords
  rw [words_append_separators separators, words_append_word nonempty clean spaced.ends,
    spaced.words_eq]

/-- A name without separators is one word. -/
theorem joinWords_of_clean {naming : Naming} {name : List Char} (nonempty : name ≠ [])
    (clean : ∀ c ∈ name, naming.separates c = false) : naming.joinWords name = name := by
  have none : Spaced naming.separates [] [] := by constructor <;> simp
  have empty : ∀ c ∈ [], naming.separates c = true := by simp
  have alone := joinWords_spaced empty nonempty clean none
  simpa [spacedText] using alone

/-- A name starts with its first character that is no separator. -/
theorem head_joinWords {naming : Naming} {lead : List Char}
    (separators : ∀ c ∈ lead, naming.separates c = true) {c : Char}
    (clear : naming.separates c = false) (rest : List Char) :
    (naming.joinWords (lead ++ c :: rest)).head? = some c := by
  obtain ⟨run, later, cut⟩ := exists_words_cons clear rest
  unfold joinWords
  rw [words_append_separators separators, cut]
  rfl

/-- Members are named after the stem. -/
theorem sameNames_of_stem_eq {naming : Naming} {property other : String} {node : Option Json}
    (same : naming.stem property node = naming.stem other node) :
    naming.SameNames property other node where
  field := by rw [fieldName, same, fieldName]
  getter _ := getterName_congr (congrArg capitalize same) rfl
  setter := setterName_congr (congrArg capitalize same)
  builder := accessorName_congr (congrArg capitalize same) "with"
  className := by simp only [className, same]

/-- A property without another name in its schema is named by its own name. -/
theorem stem_ofList {node : Option Json}
    (unnamed : (node.bind (·.get? "javaName")).bind Json.nonemptyText? = none) (naming : Naming)
    (text : List Char) :
    naming.stem (String.ofList text) node = guardDigit (naming.joinWords (legalize text)) := by
  rw [stem, normalize, givenName, unnamed, Option.getD_none, String.toList_ofList]

namespace DelimitedName

variable {naming : Naming} (name : DelimitedName naming)

/-- The word after a run is one of the words. -/
theorem mem_words {gap : List Char × List Char} (member : gap ∈ name.later) :
    gap.2 ∈ name.first :: name.later.map (·.2) :=
  List.mem_cons_of_mem name.first (List.mem_map_of_mem member)

/-- Words hold identifier characters alone. -/
theorem plain_word {word : List Char} (member : word ∈ name.first :: name.later.map (·.2)) :
    Plain word := fun c inside => isChar_of_isAlphanum (name.spelled word member c inside)

/-- The first word has a first character. -/
theorem exists_first_eq_cons : ∃ c rest, name.first = c :: rest :=
  List.exists_cons_of_ne_nil (name.nonempty _ List.mem_cons_self)

/-- A name is legal in its words, so only its runs change when it is made legal. -/
theorem legalize_text :
    legalize name.text = legalize name.lead ++ (name.first ++
      spacedText (name.later.map fun gap => (legalize gap.1, gap.2)) (legalize name.trail)) := by
  have word {word : List Char} (member : word ∈ name.first :: name.later.map (·.2)) :
      word.map (fun c => if isChar c then c else '_') = word :=
    legalize_eq_self (name.plain_word member)
  have gap : name.later.flatMap (fun gap => legalize (gap.1 ++ gap.2)) =
      name.later.flatMap fun gap => legalize gap.1 ++ gap.2 := by
    refine List.flatMap_congr fun gap member => ?_
    rw [legalize, List.map_append, word (name.mem_words member)]
    rfl
  simp only [text, spacedText, legalize, List.map_append, List.map_flatMap, List.flatMap_map,
    word List.mem_cons_self] at gap ⊢
  rw [gap]

/-- All foreign characters of a name stand in its runs. -/
theorem foreign_text : foreign name.text = foreign name.runs := by
  have none {word : List Char} (member : word ∈ name.first :: name.later.map (·.2)) :
      word.countP (!isChar ·) = 0 := by
    rw [List.countP_eq_zero]
    intro c inside
    simp [name.plain_word member c inside]
  have gap : name.later.map (fun gap => gap.1.countP (!isChar ·) + gap.2.countP (!isChar ·)) =
      name.later.map fun gap => gap.1.countP (!isChar ·) := by
    refine List.map_congr_left fun gap member => ?_
    rw [none (name.mem_words member), Nat.add_zero]
  simp only [foreign, text, runs, laterRuns, spacedText, List.countP_append, List.countP_flatMap,
    none List.mem_cons_self, Function.comp_def, gap]
  omega

section Words

variable (clear : ∀ c, naming.separates c = true → c.isAlphanum = false)

include clear

omit name in
/-- Letters and digits do not separate words. -/
theorem separates_of_isAlphanum {c : Char} (letter : c.isAlphanum = true) :
    naming.separates c = false := by
  cases separator : naming.separates c with
  | false => rfl
  | true => simp [clear c separator] at letter

/-- Words hold no separators. -/
theorem not_separates {word : List Char} (member : word ∈ name.first :: name.later.map (·.2)) :
    ∀ c ∈ word, naming.separates c = false := fun c inside =>
  separates_of_isAlphanum clear (name.spelled word member c inside)

/-- The words stay apart if the delimiters after the first are separators once they are made
legal. -/
theorem spaced_legalize (separators : ∀ c ∈ legalize name.laterRuns, naming.separates c = true) :
    Spaced naming.separates (name.later.map fun gap => (legalize gap.1, gap.2))
      (legalize name.trail) := by
  simp only [laterRuns, legalize, List.map_append, List.map_flatMap] at separators
  constructor
  case apart =>
    intro gap member
    obtain ⟨source, known, rfl⟩ := List.mem_map.mp member
    simpa [legalize] using name.apart source known
  case between =>
    intro gap member c inside
    obtain ⟨source, known, rfl⟩ := List.mem_map.mp member
    refine separators c ?_
    simp only [List.mem_append, List.mem_flatMap]
    exact .inl ⟨source, known, inside⟩
  case nonempty =>
    intro gap member
    obtain ⟨source, known, rfl⟩ := List.mem_map.mp member
    exact name.nonempty source.2 (name.mem_words known)
  case clean =>
    intro gap member
    obtain ⟨source, known, rfl⟩ := List.mem_map.mp member
    have listed := name.mem_words known
    exact name.not_separates clear listed
  case after =>
    intro c inside
    refine separators c ?_
    simp only [List.mem_append]
    exact .inr inside

omit clear in
/-- Words do not change when the runs before them are made legal. -/
theorem words_legalized :
    (name.later.map fun gap => (legalize gap.1, gap.2)).map (·.2) = name.later.map (·.2) := by
  rw [List.map_map]
  rfl

/-- The words are joined if all delimiters are separators once they are made legal. -/
theorem joinWords_legalize_text
    (separators : ∀ c ∈ legalize name.runs, naming.separates c = true) :
    naming.joinWords (legalize name.text) = name.camelCase := by
  have split : legalize name.runs = legalize name.lead ++ legalize name.laterRuns :=
    List.map_append
  rw [split] at separators
  have lead : ∀ c ∈ legalize name.lead, naming.separates c = true := fun c inside =>
    separators c (List.mem_append_left _ inside)
  have spaced := name.spaced_legalize clear fun c inside =>
    separators c (List.mem_append_right _ inside)
  rw [name.legalize_text, joinWords_spaced lead (name.nonempty _ List.mem_cons_self)
    (name.not_separates clear List.mem_cons_self) spaced, words_legalized, camelCase]

omit clear in
/-- The words in camel case are made of letters and digits. -/
theorem isAlphanum_of_mem_camelCase : ∀ c ∈ name.camelCase, c.isAlphanum = true := by
  intro c inside
  rcases List.mem_append.mp inside with first | later
  · exact name.spelled _ List.mem_cons_self c first
  · obtain ⟨word, member, capital⟩ := List.mem_flatMap.mp later
    have spelled := name.spelled word (List.mem_cons_of_mem _ member)
    cases word with
    | nil => exact absurd capital (by simp [capitalize])
    | cons d rest =>
      rw [capitalize_cons (name.plain_word (List.mem_cons_of_mem _ member))] at capital
      rcases List.mem_cons.mp capital with rfl | known
      · exact isAlphanum_toUpper (spelled d List.mem_cons_self)
      · exact spelled c (List.mem_cons_of_mem d known)

/-- The camel case of the words is one word. -/
theorem joinWords_legalize_camelCase :
    naming.joinWords (legalize name.camelCase) = name.camelCase := by
  have letters := name.isAlphanum_of_mem_camelCase
  have nonempty : name.camelCase ≠ [] := by
    simp [camelCase, name.nonempty _ List.mem_cons_self]
  rw [legalize_eq_self fun c inside => isChar_of_isAlphanum (letters c inside)]
  exact joinWords_of_clean nonempty fun c inside => separates_of_isAlphanum clear (letters c inside)

/-- The members are named after the words in camel case if all delimiters are separators once they
are made legal. -/
theorem sameNames_of_separators {node : Option Json}
    (unnamed : (node.bind (·.get? "javaName")).bind Json.nonemptyText? = none)
    (separators : ∀ c ∈ legalize name.runs, naming.separates c = true) :
    naming.SameNames (String.ofList name.text) (String.ofList name.camelCase) node := by
  apply sameNames_of_stem_eq
  rw [stem_ofList unnamed, stem_ofList unnamed, name.joinWords_legalize_text clear separators,
    name.joinWords_legalize_camelCase clear]

end Words

end DelimitedName

/-- A text without foreign characters is legal as it stands. -/
theorem legalize_of_foreign_eq_zero {text : List Char} (none : foreign text = 0) :
    legalize text = text := by
  refine legalize_eq_self fun c inside => ?_
  have clear := List.countP_eq_zero.mp none c inside
  simpa using clear

/-- A text with one foreign character is legal before it and after it. -/
theorem exists_of_foreign_eq_one {text : List Char} (one : foreign text = 1) :
    ∃ before after, legalize text = before ++ '_' :: after ∧
      (∀ c ∈ before, c ∈ text) ∧ ∀ c ∈ after, c ∈ text := by
  have some : 0 < text.countP (!isChar ·) := by
    unfold foreign at one
    omega
  obtain ⟨c, member, other⟩ := List.countP_pos_iff.mp some
  obtain ⟨before, after, rfl⟩ := List.append_of_mem member
  have counted : foreign before + (foreign after + 1) = 1 := by
    simpa [foreign, other] using one
  have legalBefore := legalize_of_foreign_eq_zero (show foreign before = 0 by omega)
  have legalAfter := legalize_of_foreign_eq_zero (show foreign after = 0 by omega)
  refine ⟨before, after, ?_, fun d inside => by simp [inside], fun d inside => by simp [inside]⟩
  have replaced : isChar c = false := by simpa using other
  unfold legalize at legalBefore legalAfter ⊢
  rw [List.map_append, List.map_cons, legalBefore, legalAfter]
  simp [replaced]

namespace DelimitedName

variable {naming : Naming} (name : DelimitedName naming)
  (clear : ∀ c, naming.separates c = true → c.isAlphanum = false)

include clear

/-- One foreign delimiter before the first word stays as an underscore if that is no delimiter. If
the first word starts with a digit, nothing else changes in the words in camel case. -/
theorem joinWords_legalize_text_of_digit (kept : naming.separates '_' = false)
    (lead : foreign name.lead = 1) (later : foreign name.laterRuns = 0)
    (digit : startsWithDigit name.first = true) :
    naming.joinWords (legalize name.text) = '_' :: name.camelCase := by
  obtain ⟨before, after, replaced, inBefore, inAfter⟩ := exists_of_foreign_eq_one lead
  have delimits (c : Char) (member : c ∈ name.lead) : naming.separates c = true :=
    name.delimits c (List.mem_append_left _ member)
  have separators : ∀ c ∈ before, naming.separates c = true := fun c inside =>
    delimits c (inBefore c inside)
  have spaced := name.spaced_legalize clear (by
    rw [legalize_of_foreign_eq_zero later]
    exact fun c inside => name.delimits c (List.mem_append_right _ inside))
  have clean := name.not_separates clear List.mem_cons_self
  have nonempty := name.nonempty _ List.mem_cons_self
  rw [name.legalize_text, replaced, List.append_assoc, List.cons_append]
  cases after with
  | nil =>
    -- The underscore stands at the start of the first word.
    have word : ∀ c ∈ '_' :: name.first, naming.separates c = false := by
      intro c inside
      rcases List.mem_cons.mp inside with rfl | known
      · exact kept
      · exact clean c known
    have joined := joinWords_spaced separators (List.cons_ne_nil '_' name.first) word spaced
    rw [words_legalized, List.cons_append, List.cons_append] at joined
    rw [List.nil_append, joined, camelCase]
  | cons c after =>
    -- The underscore is a word of its own, and the first word comes after it.
    have apart : Spaced naming.separates
        ((c :: after, name.first) :: name.later.map fun gap => (legalize gap.1, gap.2))
        (legalize name.trail) := by
      constructor
      case apart => exact List.forall_mem_cons.mpr ⟨List.cons_ne_nil c after, spaced.apart⟩
      case between =>
        exact List.forall_mem_cons.mpr
          ⟨fun d inside => delimits d (inAfter d inside), spaced.between⟩
      case nonempty => exact List.forall_mem_cons.mpr ⟨nonempty, spaced.nonempty⟩
      case clean => exact List.forall_mem_cons.mpr ⟨clean, spaced.clean⟩
      case after => exact spaced.after
    have joined := joinWords_spaced separators (List.cons_ne_nil '_' []) (by simpa using kept) apart
    rw [List.map_cons, words_legalized, List.flatMap_cons,
      capitalize_of_startsWithDigit (name.plain_word List.mem_cons_self) digit] at joined
    simpa [spacedText, camelCase] using joined

omit clear in
/-- The words in camel case start as the first word does. -/
theorem startsWithDigit_camelCase :
    startsWithDigit name.camelCase = startsWithDigit name.first := by
  obtain ⟨c, rest, spelled⟩ := name.exists_first_eq_cons
  rw [camelCase, spelled]
  rfl

omit clear in
/-- A name without an underscore among its delimiters holds none. -/
theorem underscore_not_mem_text (kept : naming.separates '_' = false) : '_' ∉ name.text := by
  have word {word : List Char} (member : word ∈ name.first :: name.later.map (·.2)) :
      '_' ∉ word := fun inside => by simpa using name.spelled word member '_' inside
  have run : '_' ∉ name.lead ++ (name.later.flatMap (·.1) ++ name.trail) := fun inside => by
    simpa [kept] using name.delimits '_' inside
  simp only [text, spacedText, List.mem_append, List.mem_flatMap, not_or, not_exists,
    not_and] at run ⊢
  refine ⟨run.1, word List.mem_cons_self, fun gap member => ?_, run.2.2⟩
  exact ⟨run.2.1 gap member, word (name.mem_words member)⟩

omit clear in
/-- If underscores do not separate words, the stem of a name has one for each foreign delimiter. -/
theorem count_joinWords_legalize_text (kept : naming.separates '_' = false) :
    (naming.joinWords (legalize name.text)).count '_' = foreign name.runs := by
  rw [count_joinWords kept (plain_legalize _),
    count_legalize (name.underscore_not_mem_text kept), name.foreign_text]

/-- The stem of a name starts as its first word does, if no delimiter before that is foreign. -/
theorem startsWithDigit_joinWords (legal : foreign name.lead = 0) :
    startsWithDigit (naming.joinWords (legalize name.text)) = startsWithDigit name.first := by
  obtain ⟨c, rest, spelled⟩ := name.exists_first_eq_cons
  have separators : ∀ d ∈ name.lead, naming.separates d = true := fun d inside =>
    name.delimits d (List.mem_append_left _ inside)
  have clean : naming.separates c = false :=
    name.not_separates clear List.mem_cons_self c (spelled ▸ List.mem_cons_self)
  rw [name.legalize_text, legalize_of_foreign_eq_zero legal, spelled, List.cons_append]
  have head := head_joinWords separators clean (rest ++ spacedText
    (name.later.map fun gap => (legalize gap.1, gap.2)) (legalize name.trail))
  cases joined : naming.joinWords (name.lead ++ c :: (rest ++ spacedText
      (name.later.map fun gap => (legalize gap.1, gap.2)) (legalize name.trail))) with
  | nil => simp [joined] at head
  | cons first later =>
    obtain rfl : first = c := by simpa [joined] using head
    rfl

/-- If underscores do not separate words, members are named after the words in camel case only if
no delimiter is foreign, but for one before a digit. -/
theorem foreign_of_sameNames {node : Option Json}
    (unnamed : (node.bind (·.get? "javaName")).bind Json.nonemptyText? = none)
    (kept : naming.separates '_' = false)
    (same : naming.SameNames (String.ofList name.text) (String.ofList name.camelCase) node) :
    foreign name.runs = 0 ∨
      foreign name.lead = 1 ∧ foreign name.laterRuns = 0 ∧ startsWithDigit name.first = true := by
  have forms := congrArg (List.count '_') (capitalize_eq_of_accessorName_eq same.builder)
  have letters : name.camelCase.count '_' = 0 := List.count_eq_zero.mpr fun inside => by
    simpa using name.isAlphanum_of_mem_camelCase '_' inside
  rw [count_capitalize (plain_stem _ _ _), count_capitalize (plain_stem _ _ _), stem_ofList unnamed,
    stem_ofList unnamed, count_guardDigit, count_guardDigit, name.joinWords_legalize_camelCase clear,
    name.count_joinWords_legalize_text kept, letters, name.startsWithDigit_camelCase] at forms
  have parts : foreign name.runs = foreign name.lead + foreign name.laterRuns :=
    List.countP_append
  cases digit : startsWithDigit name.first with
  | false =>
    simp only [digit, Bool.false_eq_true, if_false] at forms
    left
    omega
  | true =>
    -- With one underscore before the digit, either the guard or a foreign delimiter made it.
    by_cases legal : foreign name.lead = 0
    · rw [name.startsWithDigit_joinWords clear legal, digit] at forms
      left
      simpa using forms
    · simp only [digit, if_true] at forms
      exact .inr ⟨by omega, by omega, rfl⟩

/-- The members of a property that is named by words with delimiters around them are named after the
words in camel case exactly if the underscore is a delimiter, or no delimiter has to be replaced by
one, or only one before a first word that starts with a digit, where the underscore that guards the
digit stands for it. -/
theorem sameNames_iff {node : Option Json}
    (unnamed : (node.bind (·.get? "javaName")).bind Json.nonemptyText? = none) :
    naming.SameNames (String.ofList name.text) (String.ofList name.camelCase) node ↔
      naming.separates '_' = true ∨ foreign name.runs = 0 ∨
        foreign name.lead = 1 ∧ foreign name.laterRuns = 0 ∧
          startsWithDigit name.first = true := by
  constructor
  · intro same
    cases kept : naming.separates '_' with
    | true => exact .inl rfl
    | false => exact .inr (name.foreign_of_sameNames clear unnamed kept same)
  · intro condition
    cases kept : naming.separates '_' with
    | true =>
      refine name.sameNames_of_separators clear unnamed fun c inside => ?_
      obtain ⟨source, known, rfl⟩ := List.mem_map.mp inside
      split
      · exact name.delimits source known
      · exact kept
    | false =>
      rcases condition with separates | none | ⟨lead, later, digit⟩
      · simp [kept] at separates
      · refine name.sameNames_of_separators clear unnamed ?_
        rw [legalize_of_foreign_eq_zero none]
        exact name.delimits
      · apply sameNames_of_stem_eq
        rw [stem_ofList unnamed, stem_ofList unnamed,
          name.joinWords_legalize_text_of_digit clear kept lead later digit,
          name.joinWords_legalize_camelCase clear,
          guardDigit_of_startsWithDigit (name.startsWithDigit_camelCase.trans digit)]
        rfl

end DelimitedName

/-- What holds of all characters of a text is decided by going through the text. -/
local instance {p : Char → Prop} [DecidablePred p] (text : List Char) :
    Decidable (∀ c ∈ text, p c) := List.decidableBAll p text

/-- With the dollar sign and the hyphen as delimiters, the first separates words and the second does
not, but for one hyphen before a digit. -/
theorem sameNames_iff_dollar_hyphen :
    let naming : Naming := ⟨"$-"⟩
    naming.SameNames "$first$$last" "firstLast" none ∧
      ¬naming.SameNames "first-last" "firstLast" none ∧
      naming.SameNames "$-1st$last" "1stLast" none := by
  intro naming
  have clear : ∀ c, naming.separates c = true → c.isAlphanum = false := by
    intro c separator
    have either : c = '$' ∨ c = '-' := by simpa [separates, naming] using separator
    rcases either with rfl | rfl <;> decide
  let dollars : DelimitedName naming := {
    lead := ['$'], first := "first".toList, later := [(['$', '$'], "last".toList)], trail := []
    delimits := by decide
    apart := by decide
    nonempty := by decide
    spelled := by decide }
  let hyphen : DelimitedName naming := {
    lead := [], first := "first".toList, later := [(['-'], "last".toList)], trail := []
    delimits := by decide
    apart := by decide
    nonempty := by decide
    spelled := by decide }
  let guarded : DelimitedName naming := {
    lead := ['$', '-'], first := "1st".toList, later := [(['$'], "last".toList)], trail := []
    delimits := by decide
    apart := by decide
    nonempty := by decide
    spelled := by decide }
  refine ⟨(dollars.sameNames_iff clear rfl).mpr (by decide), fun same => ?_,
    (guarded.sameNames_iff clear rfl).mpr (by decide)⟩
  have condition := (hyphen.sameNames_iff clear rfl).mp same
  revert condition
  decide

/-- Words around a delimiter that no identifier holds are not joined. -/
theorem not_forall_sameNames :
    ¬∀ name : DelimitedName ⟨"-"⟩,
      Naming.SameNames ⟨"-"⟩ (String.ofList name.text) (String.ofList name.camelCase) none := by
  intro joined
  let name : DelimitedName ⟨"-"⟩ := {
    lead := [], first := "first".toList, later := [(['-'], "name".toList)], trail := []
    delimits := by decide
    apart := by decide
    nonempty := by decide
    spelled := by decide }
  have field := (joined name).field
  revert field
  decide

end SchemaBeans.Naming
