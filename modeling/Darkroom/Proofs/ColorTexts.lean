/-
# Darkroom.Proofs.ColorTexts -- which texts are colours, and which colours they are

A colour text is a numeral (`Numeral`), digits with or without a mark, and one that
is `Spelt` like a colour has at most six digits behind its zeros.  The reader goes by
the size of the number instead; both are one condition (`Numeral.lt_iff`), so the
grammar says exactly what is read (`ofHexText_found_iff`) and what is refused
(`ofHexText_of_not_spelt`).

A colour is a number of 24 bits and is written as one (`hexChars_eq`), so reading undoes
writing, and what is written of a text that was read are its own last digits
(`Spelt.ofHexText_iff`).
-/
import Darkroom.Color.Swatch
import Darkroom.Proofs.Hexadecimal
import Darkroom.Proofs.Sides

namespace Darkroom

set_option autoImplicit false

namespace Rgb

variable {s : String} {c : Rgb}

/-! ## Colours as numbers -/

/-- The 24-bit number of a colour. -/
def toNat (c : Rgb) : Nat := 65536 * c.red.toNat + 256 * c.green.toNat + c.blue.toNat

theorem toNat_lt (c : Rgb) : c.toNat < 16 ^ 6 := by
  have red := c.red.toNat_lt
  have green := c.green.toNat_lt
  have blue := c.blue.toNat_lt
  unfold toNat
  omega

theorem toNat_ofNat {n : Nat} (small : n < 16 ^ 6) : (ofNat n).toNat = n := by
  simp only [toNat, ofNat, UInt8.toNat_ofNat']
  omega

theorem ofNat_toNat (c : Rgb) : ofNat c.toNat = c := by
  obtain ⟨red, green, blue⟩ := c
  have high := red.toNat_lt
  have middle := green.toNat_lt
  have low := blue.toNat_lt
  simp only [ofNat, toNat, mk.injEq, ← UInt8.toNat_inj, UInt8.toNat_ofNat']
  omega

/-- The text of a colour is that of its number. -/
theorem hexChars_eq (c : Rgb) : c.hexChars = Text.hexDigits 6 c.toNat := by
  have green := c.green.toNat_lt
  have blue := c.blue.toNat_lt
  rw [hexChars, Text.hexDigits_append 2 2 _ _ green, Text.hexDigits_append 4 2 _ _ blue, toNat]
  congr 1
  ring

/-! ## The grammar -/

/-- A text is these digits, one at least, with or without a mark in front. -/
structure Numeral (s : String) (digits : List Char) : Prop where
  parts : s.toList = digits ∨ s.toList = '#' :: digits
  onlyDigits : ∀ c ∈ digits, c ∈ Text.hexAlphabet
  some_ : digits ≠ []

/-- A text that is a colour: any number of zeros in front of at most six digits. -/
structure Spelt (s : String) (zeros digits : List Char) : Prop where
  numeral : Numeral s (zeros ++ digits)
  onlyZeros : ∀ c ∈ zeros, c = '0'
  few : digits.length ≤ 6

variable {zeros digits : List Char}

theorem hexBody_of_digits {cs : List Char} (onlyDigits : ∀ c ∈ cs, c ∈ Text.hexAlphabet) :
    hexBody cs = cs := by
  unfold hexBody
  split
  · exact absurd (onlyDigits '#' List.mem_cons_self) (by decide)
  · rfl

/-- A numeral is what the reader takes for one. -/
theorem numeral_iff : Numeral s digits ↔
    hexBody s.toList = digits ∧ digits ≠ [] ∧ ∃ n, Text.hexNumber? digits = some n := by
  constructor
  · rintro ⟨parts, onlyDigits, some_⟩
    refine ⟨?_, some_, Text.hexNumber?_found_iff.mpr onlyDigits⟩
    obtain same | same := parts
    · rw [same, hexBody_of_digits onlyDigits]
    · rw [same, hexBody]
  · rintro ⟨rfl, some_, number⟩
    refine ⟨?_, Text.hexNumber?_found_iff.mp number, some_⟩
    cases text : s.toList with
    | nil => exact .inl rfl
    | cons c rest =>
      unfold hexBody
      split
      case h_1 same => exact .inr same
      case h_2 => exact .inl rfl

/-- A numeral is a colour when its number has 24 bits at most. -/
theorem Numeral.ofHexText (numeral : Numeral s digits) : ∃ n, Text.hexNumber? digits = some n ∧
    Rgb.ofHexText s =
      if n ≤ 0xFFFFFF then .ok (ofNat n) else .error (.invalidHex (.text s) .tooLarge) := by
  obtain ⟨body, some_, n, read⟩ := numeral_iff.mp numeral
  refine ⟨n, read, ?_⟩
  rw [Rgb.ofHexText, body, read]
  cases digits with
  | nil => exact absurd rfl some_
  | cons d rest => rfl

/-- Any other text is refused. -/
theorem ofHexText_of_not_numeral (other : ∀ digits, ¬Numeral s digits) :
    ofHexText s = .error (.invalidHex (.text s) .notHexadecimal) := by
  have unread := fun some_ number => other _ (numeral_iff.mpr ⟨rfl, some_, number⟩)
  unfold ofHexText
  cases body : hexBody s.toList with
  | nil => rfl
  | cons d rest =>
    rw [body] at unread
    cases read : Text.hexNumber? (d :: rest) with
    | none =>
      dsimp only
      rw [read]
    | some n => exact absurd ⟨n, read⟩ (unread (List.cons_ne_nil d rest))

/-- A numeral is spelt like a colour when its number has 24 bits at most. -/
theorem Numeral.lt_iff {n : Nat} (numeral : Numeral s digits)
    (read : Text.hexNumber? digits = some n) :
    n < 16 ^ 6 ↔ ∃ zeros rest, digits = zeros ++ rest ∧ Spelt s zeros rest := by
  rw [Text.hexNumber?_lt_iff read]
  constructor
  · intro zeros
    have split : digits.rdrop 6 ++ digits.rtake 6 = digits := List.take_append_drop _ _
    refine ⟨_, _, split.symm, by rwa [split], zeros, ?_⟩
    rw [List.rtake, List.length_drop]
    omega
  · rintro ⟨zeros, rest, rfl, spelt⟩ c member
    refine spelt.onlyZeros c (List.mem_of_mem_take (i := (zeros ++ rest).length - 6) ?_)
    have few := spelt.few
    rwa [List.rdrop, List.take_append_of_le_length (by rw [List.length_append]; omega)] at member

/-! ## Reading colours -/

/-- A text that is spelt like a colour is the colour of its number. -/
theorem Spelt.ofHexText (spelt : Spelt s zeros digits) :
    ∃ c, Rgb.ofHexText s = .ok c ∧ Text.hexNumber? (zeros ++ digits) = some c.toNat := by
  obtain ⟨n, number, read⟩ := spelt.numeral.ofHexText
  have small := (spelt.numeral.lt_iff number).mpr ⟨zeros, digits, rfl, spelt⟩
  rw [if_pos (Nat.le_of_lt_succ small)] at read
  exact ⟨ofNat n, read, by rw [number, toNat_ofNat small]⟩

/-- Any other text is quoted, with what is wrong with it. -/
theorem ofHexText_of_not_spelt (other : ∀ zeros digits, ¬Spelt s zeros digits) :
    (∃ digits, Numeral s digits) ∧
        ofHexText s = .error (.invalidHex (.text s) .tooLarge) ∨
      (∀ digits, ¬Numeral s digits) ∧
        ofHexText s = .error (.invalidHex (.text s) .notHexadecimal) := by
  by_cases numeral : ∃ digits, Numeral s digits
  · obtain ⟨digits, numeral⟩ := numeral
    obtain ⟨n, number, read⟩ := numeral.ofHexText
    refine .inl ⟨⟨digits, numeral⟩, ?_⟩
    rw [read, if_neg]
    intro small
    obtain ⟨zeros, rest, -, spelt⟩ := (numeral.lt_iff number).mp (Nat.lt_succ_of_le small)
    exact other zeros rest spelt
  · exact .inr ⟨not_exists.mp numeral, ofHexText_of_not_numeral (not_exists.mp numeral)⟩

theorem ofHexText_found_iff :
    (∃ c, ofHexText s = .ok c) ↔ ∃ zeros digits, Spelt s zeros digits := by
  constructor
  · rintro ⟨c, read⟩
    by_contra none_
    obtain ⟨-, refused⟩ | ⟨-, refused⟩ :=
      ofHexText_of_not_spelt fun zeros digits spelt => none_ ⟨zeros, digits, spelt⟩
    all_goals cases read.symm.trans refused
  · rintro ⟨zeros, digits, spelt⟩
    obtain ⟨c, read, -⟩ := spelt.ofHexText
    exact ⟨c, read⟩

/-- The last six digits in small letters, zeros standing in for those that are missing. -/
def sixDigits (digits : List Char) : List Char :=
  List.leftpad 6 '0' ((digits.rtake 6).map Char.toLower)

theorem hexChars_of_hexNumber? (number : Text.hexNumber? digits = some c.toNat) :
    c.hexChars = sixDigits digits := by
  rw [hexChars_eq, Text.hexDigits_of_hexNumber? number, sixDigits]

theorem hexBody_hex (c : Rgb) : hexBody c.hex.toList = c.hexChars := by
  rw [hex, String.toList_ofList, hexBody]

theorem hexNumber?_hexChars (c : Rgb) : Text.hexNumber? c.hexChars = some c.toNat := by
  rw [hexChars_eq, Text.hexNumber?_hexDigits, Nat.mod_eq_of_lt c.toNat_lt]

theorem length_hexChars (c : Rgb) : c.hexChars.length = 6 := by
  rw [hexChars_eq, Text.length_hexDigits]

theorem spelt_hex (c : Rgb) : Spelt c.hex [] c.hexChars := by
  refine ⟨numeral_iff.mpr ⟨hexBody_hex c, fun empty => ?_, _, hexNumber?_hexChars c⟩, nofun,
    (length_hexChars c).le⟩
  have length := length_hexChars c
  rw [← List.nil_append c.hexChars, empty] at length
  cases length

/-- What is written of a colour is read as that colour. -/
theorem ofHexText_hex (c : Rgb) : ofHexText c.hex = .ok c := by
  obtain ⟨d, read, number⟩ := (spelt_hex c).ofHexText
  rw [List.nil_append, hexNumber?_hexChars, Option.some.injEq] at number
  rw [read, ← ofNat_toNat c, number, ofNat_toNat]

theorem hex_injective : Function.Injective hex := fun c d same =>
  Except.ok.inj ((ofHexText_hex c).symm.trans ((congrArg ofHexText same).trans (ofHexText_hex d)))

/-- A spelt text is the colour that is written with its last digits. -/
theorem Spelt.ofHexText_iff (spelt : Spelt s zeros digits) : Rgb.ofHexText s = .ok c ↔
    c.hex = String.ofList ('#' :: sixDigits (zeros ++ digits)) := by
  obtain ⟨d, read, number⟩ := spelt.ofHexText
  rw [read, Except.ok.injEq, ← hexChars_of_hexNumber? number]
  exact ⟨fun same => by rw [same]; rfl, fun same => hex_injective same.symm⟩

/-! ## Normal forms -/

/-- A mark and six digits in small letters. -/
def IsNormal (s : String) : Prop :=
  ∃ digits, s.toList = '#' :: digits ∧ digits.length = 6 ∧ ∀ c ∈ digits, c ∈ Text.smallAlphabet

theorem isNormal_hex (c : Rgb) : IsNormal c.hex := by
  refine ⟨c.hexChars, by rw [hex, String.toList_ofList], length_hexChars c, fun d member => ?_⟩
  rw [hexChars_eq] at member
  exact Text.mem_hexDigits member

/-- The normal forms are the texts that are written. -/
theorem isNormal_iff : IsNormal s ↔ ∃ c : Rgb, c.hex = s := by
  constructor
  · rintro ⟨digits, text, length, small⟩
    have some_ : [] ++ digits ≠ [] := by
      rintro rfl
      cases length
    have numeral : Numeral s ([] ++ digits) :=
      ⟨.inr text, fun d member => List.mem_append_left _ (small d member), some_⟩
    have spelt : Spelt s [] digits := ⟨numeral, nofun, length.le⟩
    have lower : digits.map Char.toLower = digits :=
      (List.map_congr_left fun d member => Text.toLower_small (small d member)).trans
        (List.map_id' digits)
    obtain ⟨c, read, -⟩ := spelt.ofHexText
    refine ⟨c, ?_⟩
    rw [spelt.ofHexText_iff.mp read, sixDigits, List.nil_append, List.rtake, length]
    simp [lower, List.leftpad, length, ← text]
  · rintro ⟨c, rfl⟩
    exact isNormal_hex c

end Rgb

/-! ## Colours given channel by channel -/

theorem Number.le_int (m n : ℤ) : (Number.int m).le (.int n) = decide (m ≤ n) := by
  simp [le, isNan, lt, ← decide_not]

namespace Swatch

variable {s : Swatch}

/-- The channels hold the bytes of a colour. -/
structure Means (s : Swatch) (c : Rgb) : Prop where
  red : s.red.number? = some (.int c.red.toNat)
  green : s.green.number? = some (.int c.green.toNat)
  blue : s.blue.number? = some (.int c.blue.toNat)

/-- A swatch of whole channels. -/
def IsWhole (s : Swatch) : Prop := ∀ v ∈ s.channels, ∃ n, v.number? = some (.int n)

/-- A whole channel in range is a byte. -/
theorem exists_byte {name : String} {given : Value} (inside : checkChannel name given = .ok ())
    (whole : ∃ n, given.number? = some (.int n)) :
    ∃ b : UInt8, given.number? = some (.int b.toNat) := by
  obtain ⟨n, number⟩ := whole
  simp only [checkChannel, Value.toNumber_of_number? number, Outcome.ok_bind, Number.le_int,
    ← Bool.decide_and, decide_eq_true_eq] at inside
  split_ifs at inside with range
  have byte : (UInt8.ofNat n.toNat).toNat = n.toNat :=
    UInt8.toNat_ofNat_of_lt (by rw [UInt8.size]; omega)
  exact ⟨.ofNat n.toNat, by rw [number, byte, Int.toNat_of_nonneg range.1]⟩

/-- A swatch of whole channels in range is a colour. -/
theorem exists_means (inside : ofChannels s.channels = .ok s) (whole : s.IsWhole) :
    ∃ c, s.Means c := by
  simp only [channels, ofChannels, Outcome.bind_eq_ok] at inside
  simp only [IsWhole, channels, List.forall_mem_cons] at whole
  obtain ⟨_, insideRed, _, insideGreen, _, insideBlue, -⟩ := inside
  obtain ⟨wholeRed, wholeGreen, wholeBlue, -⟩ := whole
  obtain ⟨r, red⟩ := exists_byte insideRed wholeRed
  obtain ⟨g, green⟩ := exists_byte insideGreen wholeGreen
  obtain ⟨b, blue⟩ := exists_byte insideBlue wholeBlue
  exact ⟨⟨r, g, b⟩, red, green, blue⟩

/-- It is written as that colour. -/
theorem Means.hexChars {c : Rgb} (means : s.Means c) : s.hexChars = .ok c.hexChars := by
  obtain ⟨red, green, blue⟩ := means
  simp only [Swatch.hexChars, channelHex, Value.toNumber_of_number? red,
    Value.toNumber_of_number? green, Value.toNumber_of_number? blue, Outcome.ok_bind,
    Outcome.pure_eq, Int.toNat_natCast, Rgb.hexChars]

end Swatch

namespace Rgb

/-- Colour texts are read by their grammar, and reading undoes writing.  A text is a
colour when it is at most six hexadecimal digits behind any number of zeros, with or
without a mark; it is the colour that is written with its last six digits.  Any other
text is quoted with its flaw, too large a number or no number at all.  A colour, also
one given by its channels, is read from what is written of it; so the written texts, a
mark and six small digits, are normal forms, one for each colour. -/
theorem hex_texts_exact :
    (∀ s, (∃ c, ofHex (.text s) = .ok c) ↔ ∃ zeros digits, Spelt s zeros digits) ∧
    (∀ s zeros digits c, Spelt s zeros digits → (ofHex (.text s) = .ok c ↔
      c.hex = String.ofList ('#' :: sixDigits (zeros ++ digits)))) ∧
    (∀ s fault, ofHex (.text s) = .error fault →
      (∃ digits, Numeral s digits) ∧ fault = .invalidHex (.text s) .tooLarge ∨
      (∀ digits, ¬Numeral s digits) ∧ fault = .invalidHex (.text s) .notHexadecimal) ∧
    (∀ c : Rgb, ofHex (.text c.hex) = .ok c) ∧
    (∀ s : Swatch, Swatch.ofChannels s.channels = .ok s → s.IsWhole →
      ∃ c, s.Means c ∧ s.hexChars = .ok c.hexChars) ∧
    (∀ s t, (ofHex (.text s)).map hex = .ok t →
      IsNormal t ∧ (ofHex (.text t)).map hex = .ok t) ∧
    (∀ s, IsNormal s ↔ (ofHex (.text s)).map hex = .ok s) ∧
    Function.Injective hex := by
  have again (c : Rgb) : (ofHex (.text c.hex)).map hex = .ok c.hex := by
    rw [ofHex, ofHexText_hex]
    rfl
  refine ⟨fun s => ofHexText_found_iff, fun s zeros digits c spelt => spelt.ofHexText_iff,
    fun s fault refused => ?_, ofHexText_hex, fun s inside whole => ?_, fun s t normal => ?_,
    fun s => ⟨fun normal => ?_, fun normal => ?_⟩, hex_injective⟩
  · have other : ∀ zeros digits, ¬Spelt s zeros digits := fun zeros digits spelt => by
      obtain ⟨c, read, -⟩ := spelt.ofHexText
      cases read.symm.trans refused
    obtain ⟨numeral, large⟩ | ⟨none_, flawed⟩ := ofHexText_of_not_spelt other
    · exact .inl ⟨numeral, Except.error.inj (refused.symm.trans large)⟩
    · exact .inr ⟨none_, Except.error.inj (refused.symm.trans flawed)⟩
  · obtain ⟨c, means⟩ := Swatch.exists_means inside whole
    exact ⟨c, means, means.hexChars⟩
  · obtain ⟨c, -, rfl⟩ := Outcome.map_eq_ok.mp normal
    exact ⟨isNormal_hex c, again c⟩
  · obtain ⟨c, rfl⟩ := isNormal_iff.mp normal
    exact again c
  · obtain ⟨c, -, same⟩ := Outcome.map_eq_ok.mp normal
    exact isNormal_iff.mpr ⟨c, same⟩

end Rgb

end Darkroom
