import SchemaBeans.Proofs.Entries
import SchemaBeans.Proofs.Json.Strings

/-!
# Values that are read back

A value without numbers, written in any style that puts commas and colons where the grammar wants
them, reads back as itself (`read_render`). The induction is over the value, and each value is read
where it stands, with whatever follows it (`ReadsBack`); items and members are then read one after
the other. Twice the length of a written value bounds the readers that are under way in it.
-/
namespace SchemaBeans.Json

/-- A value without numbers, whose objects have distinct keys. -/
inductive Textual : Json → Prop
  /-- The null value. -/
  | null : Textual .null
  /-- A truth value. -/
  | bool (value : Bool) : Textual (.bool value)
  /-- A text. -/
  | string (text : String) : Textual (.string text)
  /-- Values in order. -/
  | array {items : List Json} (each : ∀ item ∈ items, Textual item) : Textual (.array items)
  /-- Values under distinct keys. -/
  | object {entries : Entries Json} (distinct : entries.keys.Nodup)
      (each : ∀ entry ∈ entries, Textual entry.2) : Textual (.object entries)

/-- Characters that may stand between tokens. -/
def Blank (space : List Char) : Prop := ∀ c ∈ space, isSpace c = true

/-- A style that puts a comma between items and a colon after keys. -/
structure Style.Readable (style : Style) : Prop where
  /-- Items are separated by a comma and perhaps space. -/
  comma : ∃ space, style.comma = ',' :: space ∧ Blank space
  /-- A key is followed by a colon and perhaps space. -/
  colon : ∃ space, style.colon = ':' :: space ∧ Blank space

/-- Values on one line without spaces are readable. -/
theorem readable_compact : Style.compact.Readable where
  comma := ⟨[], rfl, by simp [Blank]⟩
  colon := ⟨[], rfl, by simp [Blank]⟩

/-- Values on indented lines are readable, whatever the width. -/
theorem readable_indented (width : Nat) : (Style.indented width).Readable where
  comma := ⟨[], rfl, by simp [Blank]⟩
  colon := ⟨[' '], rfl, by simp [Blank, isSpace]⟩

/-- The start of a line holds space only. -/
theorem blank_newLine (style : Style) (level : Nat) : Blank (style.newLine level) := by
  intro c member
  unfold Style.newLine at member
  split at member
  · cases member
  · rcases List.mem_cons.mp member with rfl | later
    · rfl
    · rw [List.eq_of_mem_replicate later]
      rfl

/-- Space is skipped. -/
theorem skipSpace_append {space : List Char} (blank : Blank space) (text : List Char) :
    skipSpace (space ++ text) = skipSpace text :=
  List.dropWhile_append_of_pos blank

/-- A token is not skipped. -/
theorem skipSpace_cons {c : Char} (solid : isSpace c = false) (text : List Char) :
    skipSpace (c :: text) = c :: text := by
  rw [skipSpace, List.dropWhile_cons, solid]
  rfl

/-- Space is skipped up to a token. -/
theorem skipSpace_append_cons {space : List Char} (blank : Blank space) {c : Char}
    (solid : isSpace c = false) (text : List Char) : skipSpace (space ++ c :: text) = c :: text := by
  rw [skipSpace_append blank, skipSpace_cons solid]

/-- Space is skipped up to a written string. -/
theorem skipSpace_append_writeString {space : List Char} (blank : Blank space) (asciiOnly : Bool)
    (key : String) (text : List Char) :
    skipSpace (space ++ (writeString asciiOnly key ++ text)) = writeString asciiOnly key ++ text :=
  skipSpace_append_cons blank rfl _

/-- A written value without numbers starts with a character that is neither space nor a byte order
mark and closes no array. -/
theorem write_head {value : Json} (textual : Textual value) (style : Style) (level : Nat) :
    ∃ first rest, write style level value = first :: rest ∧
      isSpace first = false ∧ first ≠ ']' ∧ first ≠ '\uFEFF' := by
  cases textual with
  | null => exact ⟨_, _, rfl, rfl, by decide, by decide⟩
  | bool value => cases value <;> exact ⟨_, _, rfl, rfl, by decide, by decide⟩
  | string text => exact ⟨_, _, rfl, rfl, by decide, by decide⟩
  | @array items _ => cases items <;> exact ⟨_, _, rfl, rfl, by decide, by decide⟩
  | @object entries _ _ => cases entries <;> exact ⟨_, _, rfl, rfl, by decide, by decide⟩

/-- A bound on readers that allows for the length of a written value is not zero. -/
theorem depth_pos {value : Json} (textual : Textual value) {style : Style} {level depth : Nat}
    (enough : 2 * (write style level value).length ≤ depth) : ∃ less, depth = less + 1 := by
  obtain ⟨first, rest, written, -⟩ := write_head textual style level
  rw [written, List.length_cons] at enough
  exact ⟨depth - 1, by omega⟩

/-- Space is skipped up to a written value. -/
theorem skipSpace_append_write {space : List Char} (blank : Blank space) {value : Json}
    (textual : Textual value) (style : Style) (level : Nat) (text : List Char) :
    skipSpace (space ++ (write style level value ++ text)) = write style level value ++ text := by
  obtain ⟨first, rest, written, solid, -⟩ := write_head textual style level
  rw [written, List.cons_append, skipSpace_append_cons blank solid]

/-- Two items are separated by a comma and space. -/
theorem Style.Readable.separator {style : Style} (readable : style.Readable) (level : Nat) :
    ∃ space, style.separator level = ',' :: space ∧ Blank space := by
  obtain ⟨space, isComma, blank⟩ := readable.comma
  refine ⟨space ++ style.newLine level, ?_, fun c member => ?_⟩
  · rw [Style.separator, isComma, List.cons_append]
  · exact (List.mem_append.mp member).elim (blank c) (blank_newLine style level c)

/-- A written value is read back where it stands, if the bound on readers allows for its length. -/
def ReadsBack (standIn : Nat → Char) (style : Style) (value : Json) : Prop :=
  ∀ level depth rest, 2 * (write style level value).length ≤ depth →
    readValue standIn depth (write style level value ++ rest) = .ok (value, rest)

section Readers

variable {standIn : Nat → Char} {style : Style} (readable : style.Readable) {level depth : Nat}
  {space : List Char}

include readable

/-- Items are read back up to the closing bracket if each of them is. -/
theorem readItems_write {item : Json} {items : List Json}
    (textual : ∀ other ∈ item :: items, Textual other)
    (each : ∀ other ∈ item :: items, ReadsBack standIn style other)
    (enough : 2 * (write style level item ++ writeItems style level items).length < depth)
    (blank : Blank space) (rest : List Char) :
    readItems standIn depth (write style level item ++ (writeItems style level items ++
      (space ++ ']' :: rest))) = .ok (item :: items, rest) := by
  induction items generalizing item depth with
  | nil =>
    obtain ⟨depth, rfl⟩ : ∃ less, depth = less + 1 := ⟨depth - 1, by omega⟩
    rw [List.length_append] at enough
    have first := each item List.mem_cons_self level depth (space ++ ']' :: rest) (by omega)
    have bracket : isSpace ']' = false := rfl
    rw [writeItems, List.nil_append, readItems, first]
    simp only [bind, Except.bind, skipSpace_append_cons blank bracket]
    rfl
  | cons next items ih =>
    obtain ⟨depth, rfl⟩ : ∃ less, depth = less + 1 := ⟨depth - 1, by omega⟩
    obtain ⟨between, separator, afterComma⟩ := readable.separator level
    -- The comma pays for the reader of the items after it.
    have separated : writeItems style level (next :: items) ++ (space ++ ']' :: rest) =
        ',' :: (between ++ (write style level next ++
          (writeItems style level items ++ (space ++ ']' :: rest)))) := by
      simp only [writeItems, separator, List.cons_append, List.append_assoc]
    simp only [writeItems, separator, List.length_append, List.length_cons] at enough
    have first := each item List.mem_cons_self level depth
      (writeItems style level (next :: items) ++ (space ++ ']' :: rest)) (by omega)
    have comma : isSpace ',' = false := rfl
    have skipped := skipSpace_append_write afterComma
      (textual next (List.mem_cons_of_mem item List.mem_cons_self)) style level
      (writeItems style level items ++ (space ++ ']' :: rest))
    have shorter : 2 * (write style level next ++ writeItems style level items).length < depth := by
      rw [List.length_append]
      omega
    have later := ih (fun other member => textual other (List.mem_cons_of_mem item member))
      (fun other member => each other (List.mem_cons_of_mem item member)) shorter
    rw [readItems, first, separated]
    simp only [bind, Except.bind, skipSpace_cons comma, skipped, later]
    rfl

/-- A member is read back, and then what follows it decides. -/
theorem readMembers_member (key : String) {value : Json} (textual : Textual value)
    (reads : ReadsBack standIn style value) (enough : 2 * (write style level value).length ≤ depth)
    (more : List Char) :
    readMembers standIn (depth + 1) (writeString style.asciiOnly key ++ (style.colon ++
      (write style level value ++ more))) =
        match skipSpace more with
        | '}' :: rest => .ok ([(key, value)], rest)
        | ',' :: rest => do
          let (members, last) ← readMembers standIn depth (skipSpace rest)
          return ((key, value) :: members, last)
        | rest => fault .commaExpected rest := by
  obtain ⟨afterKey, isColon, afterColon⟩ := readable.colon
  obtain ⟨inside, opened, named⟩ := readString_writeString standIn style.asciiOnly key
    (style.colon ++ (write style level value ++ more))
  have colon : isSpace ':' = false := rfl
  have reached := skipSpace_append_write afterColon textual style level more
  have read := reads level depth more enough
  rw [opened, readMembers, named]
  simp only [bind, Except.bind, isColon, List.cons_append, skipSpace_cons colon, reached, read]
  rfl

/-- Members are read back up to the closing brace if each of their values is. -/
theorem readMembers_write {key : String} {value : Json} {entries : List (String × Json)}
    (textual : ∀ entry ∈ (key, value) :: entries, Textual entry.2)
    (each : ∀ entry ∈ (key, value) :: entries, ReadsBack standIn style entry.2)
    (enough : 2 * (write style level value ++ writeEntries style level entries).length < depth)
    (blank : Blank space) (rest : List Char) :
    readMembers standIn depth (writeString style.asciiOnly key ++ (style.colon ++
      (write style level value ++ (writeEntries style level entries ++
        (space ++ '}' :: rest))))) = .ok ((key, value) :: entries, rest) := by
  induction entries generalizing key value depth with
  | nil =>
    obtain ⟨depth, rfl⟩ : ∃ less, depth = less + 1 := ⟨depth - 1, by omega⟩
    rw [List.length_append] at enough
    have brace : isSpace '}' = false := rfl
    have first : Textual value := textual (key, value) List.mem_cons_self
    have reads : ReadsBack standIn style value := each (key, value) List.mem_cons_self
    rw [writeEntries, List.nil_append, readMembers_member readable key first reads (by omega),
      skipSpace_append_cons blank brace]
    rfl
  | cons next entries ih =>
    obtain ⟨depth, rfl⟩ : ∃ less, depth = less + 1 := ⟨depth - 1, by omega⟩
    obtain ⟨between, separator, afterComma⟩ := readable.separator level
    obtain ⟨name, other⟩ := next
    simp only [writeEntries, separator, List.length_append, List.length_cons] at enough
    have separated : writeEntries style level ((name, other) :: entries) ++
        (space ++ '}' :: rest) = ',' :: (between ++ (writeString style.asciiOnly name ++
          (style.colon ++ (write style level other ++ (writeEntries style level entries ++
            (space ++ '}' :: rest)))))) := by
      simp only [writeEntries, separator, List.cons_append, List.append_assoc]
    have comma : isSpace ',' = false := rfl
    have first : Textual value := textual (key, value) List.mem_cons_self
    have reads : ReadsBack standIn style value := each (key, value) List.mem_cons_self
    have shorter :
        2 * (write style level other ++ writeEntries style level entries).length < depth := by
      rw [List.length_append]
      omega
    have later := ih (fun entry member => textual entry (List.mem_cons_of_mem (key, value) member))
      (fun entry member => each entry (List.mem_cons_of_mem (key, value) member)) shorter
    rw [readMembers_member readable key first reads (by omega), separated, skipSpace_cons comma]
    simp only [bind, Except.bind, skipSpace_append_writeString afterComma, later]
    rfl

/-- An array is read back if its items are. -/
theorem readsBack_array {items : List Json} (textual : ∀ item ∈ items, Textual item)
    (each : ∀ item ∈ items, ReadsBack standIn style item) :
    ReadsBack standIn style (.array items) := by
  intro level depth rest enough
  obtain ⟨depth, rfl⟩ := depth_pos (.array textual) enough
  cases items with
  | nil => rfl
  | cons item items =>
    have first := textual item List.mem_cons_self
    have inside : 2 * (write style (level + 1) item ++
        writeItems style (level + 1) items).length < depth := by
      simp only [write, List.length_append, List.length_cons] at enough ⊢
      omega
    have inner := readItems_write readable textual each inside (blank_newLine style level) rest
    have written : write style level (.array (item :: items)) ++ rest =
        '[' :: (style.newLine (level + 1) ++ (write style (level + 1) item ++
          (writeItems style (level + 1) items ++ (style.newLine level ++ ']' :: rest)))) := by
      simp only [write, List.cons_append, List.append_assoc, List.nil_append]
    have reached := skipSpace_append_write (blank_newLine style (level + 1)) first style (level + 1)
      (writeItems style (level + 1) items ++ (style.newLine level ++ ']' :: rest))
    obtain ⟨head, tail, starts, -, goesOn, -⟩ := write_head first style (level + 1)
    rw [written, readValue, reached]
    -- A written value does not start with the bracket of an empty array.
    split
    · rename_i closed
      rw [starts, List.cons_append] at closed
      exact absurd (List.cons.inj closed).1 goesOn
    · rw [inner]
      rfl

/-- An object is read back if its values are. -/
theorem readsBack_object {entries : Entries Json} (distinct : entries.keys.Nodup)
    (textual : ∀ entry ∈ entries, Textual entry.2)
    (each : ∀ entry ∈ entries, ReadsBack standIn style entry.2) :
    ReadsBack standIn style (.object entries) := by
  intro level depth rest enough
  obtain ⟨depth, rfl⟩ := depth_pos (.object distinct textual) enough
  cases entries with
  | nil => rfl
  | cons entry entries =>
    obtain ⟨key, value⟩ := entry
    have inside : 2 * (write style (level + 1) value ++
        writeEntries style (level + 1) entries).length < depth := by
      simp only [write, List.length_append, List.length_cons] at enough ⊢
      omega
    have inner := readMembers_write readable textual each inside (blank_newLine style level) rest
    have written : write style level (.object ((key, value) :: entries)) ++ rest =
        '{' :: (style.newLine (level + 1) ++ (writeString style.asciiOnly key ++ (style.colon ++
          (write style (level + 1) value ++ (writeEntries style (level + 1) entries ++
            (style.newLine level ++ '}' :: rest)))))) := by
      simp only [write, List.cons_append, List.append_assoc, List.nil_append]
    rw [written, readValue, skipSpace_append_writeString (blank_newLine style (level + 1))]
    split
    · rename_i closed
      cases closed
    · rw [inner]
      simp only [bind, Except.bind, Entries.ofPairs_of_nodup distinct]
      rfl

/-- A value without numbers is read back. -/
theorem readsBack {value : Json} (textual : Textual value) : ReadsBack standIn style value := by
  induction textual with
  | null =>
    intro level depth rest enough
    obtain ⟨depth, rfl⟩ := depth_pos .null enough
    rfl
  | bool value =>
    intro level depth rest enough
    obtain ⟨depth, rfl⟩ := depth_pos (.bool value) enough
    cases value <;> rfl
  | string text =>
    intro level depth rest enough
    obtain ⟨depth, rfl⟩ := depth_pos (.string text) enough
    obtain ⟨inside, opened, read⟩ := readString_writeString standIn style.asciiOnly text rest
    rw [write, opened, readValue, read]
    rfl
  | array textual each => exact readsBack_array readable textual each
  | object distinct textual each => exact readsBack_object readable distinct textual each

/-- The text of a value without numbers, with space after it, is read as that value. -/
theorem read_render {value : Json} (textual : Textual value) {after : String}
    (blank : Blank after.toList) : read (value.render style ++ after) = .ok value := by
  obtain ⟨first, rest, starts, solid, -, unmarked⟩ := write_head textual style 0
  have text : (value.render style ++ after).toList = write style 0 value ++ after.toList := by
    rw [String.toList_append, render, String.toList_ofList]
  have depth : 2 * (write style 0 value).length ≤
      2 * (write style 0 value ++ after.toList).length + 2 := by
    rw [List.length_append]
    omega
  have inner (standIn : Nat → Char) :=
    @readsBack standIn style readable value textual 0 _ after.toList depth
  have skipped : skipSpace (write style 0 value ++ after.toList) =
      write style 0 value ++ after.toList := by
    rw [starts]
    exact skipSpace_cons solid _
  have ended : skipSpace after.toList = [] := by
    have alone := skipSpace_append blank []
    rwa [List.append_nil] at alone
  have noMark : ((write style 0 value ++ after.toList).head? == some '\uFEFF') = false := by
    rw [starts]
    simpa using unmarked
  rw [read, text, readChars, readWith, noMark, skipped, inner]
  simp only [bind, Except.bind, ended]
  rfl

end Readers

end SchemaBeans.Json
