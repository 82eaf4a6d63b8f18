import Mathlib.Data.List.Nodup
import Mathlib.Data.List.Perm.Subperm
import SchemaBeans.Json.Reader
import SchemaBeans.Proofs.Entries

/-!
# Stand-ins for surrogates

A text is read with stand-ins for the surrogates without their partners. Any other character of its
value is one that a string of the text holds (`mem_chars_of_readWith`). While enough private-use
characters are left, and each character that is held takes one away at most (`length_spareChars`), a
stand-in is none of the others and tells which surrogate it is for (`standInAmong_not_mem`,
`unitOfStandIn_standInAmong`). So the surrogates that `unpaired` lists are those that stand-ins in
the value are for (`mem_unpaired_iff`): nothing is lost by the stand-ins.
-/
namespace SchemaBeans

namespace Text

/-- The private-use characters are distinct. -/
theorem nodup_privateUse : privateUse.Nodup := by
  have code {n : Nat} (listed : n ∈ List.range' 0xF0000 0x20000) : (Char.ofNat n).toNat = n := by
    have bounds := List.mem_range'_1.mp listed
    have valid : n.isValidChar := .inr ⟨by omega, by omega⟩
    rw [Char.ofNat, dif_pos valid]
    rfl
  refine List.Nodup.map_on (fun first inFirst second inSecond same => ?_) List.nodup_range'
  rw [← code inFirst, same, code inSecond]

/-- The characters that are left are distinct. -/
theorem nodup_spareChars (used : List Char) : (spareChars used).Nodup := nodup_privateUse.filter _

/-- Each character in use takes at most one private-use character away. -/
theorem length_spareChars (used : List Char) :
    0x20000 ≤ (spareChars used).length + used.length := by
  have taken : (privateUse.filter fun c => used.contains c).length ≤ used.length :=
    (List.Nodup.subperm (nodup_privateUse.filter _) fun c member =>
      List.contains_iff_mem.mp (List.mem_filter.mp member).2).length_le
  have parts := List.length_eq_length_filter_add (l := privateUse) fun c => used.contains c
  have all : privateUse.length = 0x20000 := by
    rw [privateUse, List.length_map, List.length_range']
  unfold spareChars
  omega

section Enough

variable {used : List Char} (enough : 0x800 ≤ (spareChars used).length) {unit : Nat}
  (surrogate : isSurrogate unit = true)

include enough surrogate

/-- The stand-in for a surrogate has its place among the characters that are left. -/
theorem getElem?_spareChars :
    (spareChars used)[unit - 0xD800]? = some (standInAmong used unit) := by
  have bounds : 0xD800 ≤ unit ∧ unit ≤ 0xDFFF := by
    simp only [isSurrogate, isHighSurrogate, isLowSurrogate, Bool.or_eq_true, Bool.and_eq_true,
      decide_eq_true_eq] at surrogate
    omega
  have inside : unit - 0xD800 < (spareChars used).length := by omega
  rw [standInAmong, List.getElem?_eq_getElem inside]
  rfl

/-- The stand-in for a surrogate is not in use. -/
theorem standInAmong_not_mem : standInAmong used unit ∉ used := by
  have spare := List.mem_of_getElem? (getElem?_spareChars enough surrogate)
  simpa using (List.mem_filter.mp spare).2

/-- The stand-in for a surrogate tells which it is for. -/
theorem unitOfStandIn_standInAmong : unitOfStandIn used (standInAmong used unit) = unit := by
  have place := getElem?_spareChars enough surrogate
  obtain ⟨inside, there⟩ := List.getElem?_eq_some_iff.mp place
  have index : (spareChars used).idxOf (standInAmong used unit) = unit - 0xD800 := by
    rw [← there]
    exact (nodup_spareChars used).idxOf_getElem _ inside
  have bounds : 0xD800 ≤ unit := by
    simp only [isSurrogate, isHighSurrogate, isLowSurrogate, Bool.or_eq_true, Bool.and_eq_true,
      decide_eq_true_eq] at surrogate
    omega
  rw [unitOfStandIn, index]
  omega

end Enough

/-- A character that units denote is a stand-in, or they denote it whatever stands in. -/
theorem mem_joinSurrogates {standIn : Nat → Char} {units : List Nat} {c : Char}
    (member : c ∈ joinSurrogates standIn units) (other : Nat → Char) :
    c ∈ joinSurrogates other units ∨ ∃ unit, isSurrogate unit = true ∧ c = standIn unit := by
  have alone (unit : Nat) : charOfUnit standIn unit = charOfUnit other unit ∨
      ∃ surrogate, isSurrogate surrogate = true ∧
        charOfUnit standIn unit = standIn surrogate := by
    unfold charOfUnit
    cases half : isSurrogate unit with
    | true => exact .inr ⟨unit, half, rfl⟩
    | false => exact .inl rfl
  fun_induction joinSurrogates standIn units with
  | case1 => cases member
  | case2 unit =>
    obtain rfl := List.mem_singleton.mp member
    rw [joinSurrogates, List.mem_singleton]
    exact alone unit
  | case3 first second rest pair ih =>
    rw [joinSurrogates, if_pos pair, List.mem_cons, or_assoc]
    exact (List.mem_cons.mp member).imp_right ih
  | case4 first second rest single ih =>
    rw [joinSurrogates, if_neg single, List.mem_cons, or_assoc]
    rcases List.mem_cons.mp member with rfl | later
    · exact (alone first).imp_right .inr
    · exact .inr (ih later)

end Text

namespace Json

open Text

/-- What is in use in the text after a character is in use in the whole. -/
theorem charsInUse_subset_cons (c : Char) (text : List Char) :
    charsInUse text ⊆ charsInUse (c :: text) := by
  intro used member
  by_cases quote : c = '"'
  · subst quote
    rw [charsInUse]
    split
    · exact List.mem_append_right _ member
    · exact member
  · rwa [charsInUse]
    exact quote

/-- What is in use in the end of a text is in use in the whole. -/
theorem charsInUse_subset {part text : List Char} (suffix : part <:+ text) :
    charsInUse part ⊆ charsInUse text := by
  obtain ⟨before, rfl⟩ := suffix
  induction before with
  | nil => exact List.Subset.refl _
  | cons c before ih => exact List.Subset.trans ih (charsInUse_subset_cons c _)

/-- What is left of a text after characters are taken from it: its end, and the characters taken are
in use in the text or stand-ins. -/
structure Takes (standIn : Nat → Char) (text chars after : List Char) : Prop where
  /-- The end of the text is left. -/
  suffix : after <:+ text
  /-- The characters are in use or stand-ins. -/
  held : ∀ c ∈ chars, c ∈ charsInUse text ∨ ∃ unit, isSurrogate unit = true ∧ c = standIn unit

namespace Takes

variable {standIn : Nat → Char} {text chars after : List Char}

/-- No characters are taken. -/
theorem nil (suffix : after <:+ text) : Takes standIn text [] after := ⟨suffix, by simp⟩

/-- More characters are taken from what is left. -/
theorem append {more last : List Char} (first : Takes standIn text chars after)
    (second : Takes standIn after more last) : Takes standIn text (chars ++ more) last where
  suffix := second.suffix.trans first.suffix
  held c member := by
    rcases List.mem_append.mp member with own | later
    · exact first.held c own
    · exact (second.held c later).imp_left fun used => charsInUse_subset first.suffix used

/-- What is taken from the end of a text is taken from the text. -/
theorem within {whole : List Char} (takes : Takes standIn text chars after)
    (suffix : text <:+ whole) : Takes standIn whole chars after :=
  (nil suffix).append takes

/-- Less is left where something is passed over. -/
theorem pass {last : List Char} (takes : Takes standIn text chars after) (suffix : last <:+ after) :
    Takes standIn text chars last :=
  ⟨suffix.trans takes.suffix, takes.held⟩

/-- Some of the characters are taken. -/
theorem mono {fewer : List Char} (takes : Takes standIn text chars after) (part : fewer ⊆ chars) :
    Takes standIn text fewer after :=
  ⟨takes.suffix, fun c member => takes.held c (part member)⟩

end Takes

/-- Space before a token is passed over. -/
theorem skipSpace_suffix (text : List Char) : skipSpace text <:+ text := List.dropWhile_suffix _

/-- What follows a character behind space is the end of the text. -/
theorem suffix_of_skipSpace {text rest : List Char} {c : Char}
    (found : skipSpace text = c :: rest) : rest <:+ text := by
  have skipped := skipSpace_suffix text
  rw [found] at skipped
  exact (List.suffix_cons c rest).trans skipped

/-- A reader that is followed by others reads something and leaves what they read from. -/
theorem exists_read_of_bind {α β : Type} {reader : Except Fault (α × List Char)}
    {next : α × List Char → Except Fault β} {result : β} (read : reader >>= next = .ok result) :
    ∃ found left, reader = .ok (found, left) ∧ next (found, left) = .ok result := by
  cases reader with
  | error fault => cases read
  | ok found => exact ⟨found.1, found.2, rfl, read⟩

/-- The end of a text is left after the units of a string. -/
theorem readUnits_suffix {opening text after : List Char} {units : List Nat}
    (read : readUnits opening text = .ok (units, after)) : after <:+ text := by
  fun_induction readUnits opening text generalizing units with
  | case1 | case3 | case4 | case6 | case7 | case9 => cases read
  | case2 rest =>
    cases read
    exact List.suffix_cons _ _
  | case5 a b c d e rest unit value ih =>
    obtain ⟨later, left, inner, done⟩ := exists_read_of_bind read
    cases done
    exact (ih inner).trans (List.suffix_append ['\\', 'u', a, b, c, d] (e :: rest))
  | case8 c rest _ _ char escaped ih =>
    obtain ⟨later, left, inner, done⟩ := exists_read_of_bind read
    cases done
    exact (ih inner).trans (List.suffix_append ['\\', c] rest)
  | case10 c rest _ _ _ _ _ _ ih =>
    obtain ⟨later, left, inner, done⟩ := exists_read_of_bind read
    cases done
    exact (ih inner).trans (List.suffix_cons c rest)

/-- A string takes the characters that it denotes. -/
theorem takes_readString {standIn : Nat → Char} {rest after : List Char} {text : String}
    (read : readString standIn rest = .ok (text, after)) :
    Takes standIn ('"' :: rest) text.toList after := by
  obtain ⟨units, left, inner, done⟩ := exists_read_of_bind read
  cases done
  let draft (_ : Nat) := '\uFFFD'
  have drafted : readString draft rest =
      .ok (String.ofList (joinSurrogates draft units), after) := by
    rw [readString, inner]
    rfl
  refine ⟨(readUnits_suffix inner).trans (List.suffix_cons _ _), fun c member => ?_⟩
  rw [String.toList_ofList] at member
  refine (mem_joinSurrogates member draft).imp_left fun denoted => ?_
  rw [charsInUse, drafted]
  exact List.mem_append_left _ (by rwa [String.toList_ofList])

/-- The end of a text is left after an integer without sign. -/
theorem naturalPart?_suffix {text digits after : List Char}
    (read : naturalPart? text = some (digits, after)) : after <:+ text := by
  unfold naturalPart? at read
  split at read
  · cases read
    exact List.suffix_cons _ _
  · simp only [] at read
    split at read
    · cases read
    · cases read
      exact List.dropWhile_suffix _

/-- The end of a text is left after a fraction. -/
theorem fractionPart_suffix (text : List Char) : (fractionPart text).2 <:+ text := by
  unfold fractionPart
  split
  · simp only []
    split
    · exact List.suffix_refl _
    · exact (List.dropWhile_suffix _).trans (List.suffix_cons _ _)
  · exact List.suffix_refl _

/-- The end of a text is left after the sign of an exponent. -/
theorem exponentSign_suffix (text : List Char) : (exponentSign text).2 <:+ text := by
  unfold exponentSign
  split
  · exact List.suffix_cons _ _
  · exact List.suffix_cons _ _
  · exact List.suffix_refl _

/-- The end of a text is left after an exponent. -/
theorem exponentPart_suffix (text : List Char) : (exponentPart text).2 <:+ text := by
  unfold exponentPart
  split
  · exact List.suffix_refl _
  · rename_i c rest
    split
    · simp only []
      split
      · exact List.suffix_refl _
      · exact ((List.dropWhile_suffix _).trans (exponentSign_suffix rest)).trans
          (List.suffix_cons c rest)
    · exact List.suffix_refl _

/-- The end of a text is left after the sign of a number. -/
theorem numberSign_suffix (text : List Char) : (numberSign text).2 <:+ text := by
  unfold numberSign
  split
  · exact List.suffix_cons _ _
  · exact List.suffix_refl _

/-- No character is taken for a number. -/
theorem takes_readNumber {standIn : Nat → Char} {text after : List Char} {value : Json}
    (read : readNumber text = .ok (value, after)) : Takes standIn text value.chars after := by
  unfold readNumber at read
  simp only [] at read
  split at read
  · cases read
  · rename_i digits rest natural
    have unsigned := (naturalPart?_suffix natural).trans (numberSign_suffix text)
    have whole := ((exponentPart_suffix _).trans (fractionPart_suffix rest)).trans unsigned
    split at read
    · split at read
      · cases read
        exact .nil whole
      · cases read
    · cases read
      exact .nil whole

/-- No character is taken for a value that is neither a string, an array nor an object. -/
theorem takes_readScalar {standIn : Nat → Char} {text after : List Char} {value : Json}
    (read : readScalar text = .ok (value, after)) : Takes standIn text value.chars after := by
  unfold readScalar at read
  split at read
  · rename_i found named
    cases read
    obtain ⟨constant, listed, starts⟩ := List.exists_of_findSome?_eq_some named
    obtain ⟨rest, cut, same⟩ := Option.map_eq_some_iff.mp starts
    obtain ⟨rfl, rfl⟩ := Prod.mk.inj same
    have plain : ∀ constant ∈ constants, constant.2.chars = [] := by
      simp only [constants, List.forall_mem_cons]
      simp [chars]
    rw [plain constant listed, ← List.append_eq_of_isPrefixOf?_eq_some cut]
    exact .nil (List.suffix_append _ _)
  · exact takes_readNumber read

section Readers

variable {standIn : Nat → Char} {depth : Nat}

/-- The entries that members leave take no other characters than the members. -/
theorem charsOfEntries_ofPairs (members : List (String × Json)) :
    charsOfEntries (Entries.ofPairs members) ⊆ charsOfEntries members := by
  have made (entries : List (String × Json)) : charsOfEntries entries =
      entries.flatMap fun entry => entry.1.toList ++ entry.2.chars := by
    induction entries with
    | nil => rfl
    | cons entry rest ih => rw [charsOfEntries, ih, List.flatMap_cons]
  rw [made, made]
  intro c member
  obtain ⟨entry, left, inside⟩ := List.mem_flatMap.mp member
  exact List.mem_flatMap.mpr ⟨entry, Entries.mem_of_mem_ofPairs left, inside⟩

/-- A reader of values takes characters that are in use or stand-ins. -/
def ValuesTake (standIn : Nat → Char) (depth : Nat) : Prop :=
  ∀ ⦃text value after⦄, readValue standIn depth text = .ok (value, after) →
    Takes standIn text value.chars after

/-- A reader of items takes characters that are in use or stand-ins. -/
def ItemsTake (standIn : Nat → Char) (depth : Nat) : Prop :=
  ∀ ⦃text items after⦄, readItems standIn depth text = .ok (items, after) →
    Takes standIn text (charsOfItems items) after

/-- A reader of members takes characters that are in use or stand-ins. -/
def MembersTake (standIn : Nat → Char) (depth : Nat) : Prop :=
  ∀ ⦃text members after⦄, readMembers standIn depth text = .ok (members, after) →
    Takes standIn text (charsOfEntries members) after

/-- A value takes what its string, its items or its members take. -/
theorem valuesTake_succ (items : ItemsTake standIn depth) (members : MembersTake standIn depth) :
    ValuesTake standIn (depth + 1) := by
  intro text value after read
  unfold readValue at read
  split at read
  case h_1 => cases read
  case h_2 less rest same =>
    obtain ⟨text, left, string, done⟩ := exists_read_of_bind read
    cases done
    exact takes_readString string
  case h_3 less rest same =>
    cases same
    have opened : rest <:+ '[' :: rest := List.suffix_cons _ _
    split at read
    · rename_i left closed
      cases read
      exact .nil ((suffix_of_skipSpace closed).trans opened)
    · obtain ⟨inner, left, found, done⟩ := exists_read_of_bind read
      cases done
      exact (items found).within ((skipSpace_suffix rest).trans opened)
  case h_4 less rest same =>
    cases same
    have opened : rest <:+ '{' :: rest := List.suffix_cons _ _
    split at read
    · rename_i left closed
      cases read
      exact .nil ((suffix_of_skipSpace closed).trans opened)
    · obtain ⟨inner, left, found, done⟩ := exists_read_of_bind read
      cases done
      have taken := (members found).mono (charsOfEntries_ofPairs inner)
      exact taken.within ((skipSpace_suffix rest).trans opened)
  case h_5 => exact takes_readScalar read

/-- Items take what the first and the others take. -/
theorem itemsTake_succ (values : ValuesTake standIn depth) (items : ItemsTake standIn depth) :
    ItemsTake standIn (depth + 1) := by
  intro text taken after read
  unfold readItems at read
  obtain ⟨item, left, first, read⟩ := exists_read_of_bind read
  have own := values first
  simp only [] at read
  split at read
  · rename_i rest closed
    cases read
    rw [charsOfItems, charsOfItems, List.append_nil]
    exact own.pass (suffix_of_skipSpace closed)
  · rename_i rest comma
    obtain ⟨more, last, others, done⟩ := exists_read_of_bind read
    cases done
    have reached := (skipSpace_suffix rest).trans (suffix_of_skipSpace comma)
    exact (own.pass reached).append (items others)
  · cases read

/-- Members take what the key and the value of the first and what the others take. -/
theorem membersTake_succ (values : ValuesTake standIn depth)
    (members : MembersTake standIn depth) : MembersTake standIn (depth + 1) := by
  intro text taken after read
  unfold readMembers at read
  split at read
  case h_1 => cases read
  case h_3 => cases read
  case h_2 less rest same =>
    cases same
    obtain ⟨name, afterKey, key, read⟩ := exists_read_of_bind read
    have named := takes_readString key
    simp only [] at read
    split at read
    · rename_i beforeValue colon
      have reached := (skipSpace_suffix beforeValue).trans (suffix_of_skipSpace colon)
      obtain ⟨held, left, value, read⟩ := exists_read_of_bind read
      have own := (named.pass reached).append (values value)
      simp only [] at read
      split at read
      · rename_i rest closed
        cases read
        rw [charsOfEntries, charsOfEntries, List.append_nil]
        exact own.pass (suffix_of_skipSpace closed)
      · rename_i rest comma
        obtain ⟨more, last, others, done⟩ := exists_read_of_bind read
        cases done
        have onward := (skipSpace_suffix rest).trans (suffix_of_skipSpace comma)
        exact (own.pass onward).append (members others)
      · cases read
    · cases read

/-- Whatever the bound on readers is, they take characters that are in use or stand-ins. -/
theorem readersTake (standIn : Nat → Char) (depth : Nat) :
    ValuesTake standIn depth ∧ ItemsTake standIn depth ∧ MembersTake standIn depth := by
  induction depth with
  | zero =>
    refine ⟨?_, ?_, ?_⟩ <;> intro text taken after read
    · simp only [readValue] at read
      cases read
    · simp only [readItems] at read
      cases read
    · simp only [readMembers] at read
      cases read
  | succ depth ih =>
    obtain ⟨values, items, members⟩ := ih
    exact ⟨valuesTake_succ items members, itemsTake_succ values items,
      membersTake_succ values members⟩

end Readers

/-- A character of the value of a text is in use in the text, or it is a stand-in. -/
theorem mem_chars_of_readWith {standIn : Nat → Char} {text : List Char} {value : Json}
    (read : readWith standIn text = .ok value) {c : Char} (member : c ∈ value.chars) :
    c ∈ charsInUse text ∨ ∃ unit, isSurrogate unit = true ∧ c = standIn unit := by
  unfold readWith at read
  split at read
  · cases read
  · obtain ⟨held, left, inner, read⟩ := exists_read_of_bind read
    simp only [] at read
    split at read
    · cases read
      have taken := (readersTake standIn (2 * text.length + 2)).1 inner
      exact (taken.within (skipSpace_suffix text)).held c member
    · cases read

/-- The surrogates that are listed for a text are those whose stand-ins its value holds, if there
are enough of these. -/
theorem mem_unpaired_iff {text : List Char} {value : Json} (read : readChars text = .ok value)
    (enough : 0x800 ≤ (spareChars (charsInUse text)).length) {unit : Nat} {c : Char} :
    (unit, c) ∈ unpaired text ↔
      isSurrogate unit = true ∧ c = standIn text unit ∧ c ∈ value.chars := by
  have listed : (unit, c) ∈ unpaired text ↔
      (c ∈ value.chars ∧ c ∉ charsInUse text) ∧ unitOfStandIn (charsInUse text) c = unit := by
    simp only [unpaired, read, List.mem_map, List.mem_filter, Prod.mk.injEq]
    constructor
    · rintro ⟨other, ⟨held, unused⟩, same, rfl⟩
      exact ⟨⟨held, by simpa using unused⟩, same⟩
    · rintro ⟨⟨held, unused⟩, same⟩
      exact ⟨c, ⟨held, by simpa using unused⟩, same, rfl⟩
  rw [listed]
  constructor
  · rintro ⟨⟨held, unused⟩, rfl⟩
    rcases mem_chars_of_readWith read held with used | ⟨unit, surrogate, rfl⟩
    · exact absurd used unused
    · have told : unitOfStandIn (charsInUse text) (standIn text unit) = unit :=
        unitOfStandIn_standInAmong enough surrogate
      rw [told]
      exact ⟨surrogate, rfl, held⟩
  · rintro ⟨surrogate, rfl, held⟩
    exact ⟨⟨held, standInAmong_not_mem enough surrogate⟩,
      unitOfStandIn_standInAmong enough surrogate⟩

end Json

end SchemaBeans
