/-
# Darkroom.Proofs.Extensions -- formats that names and outputs ask for

A format is named by a text without its blanks, in small letters and without dots in
front, in that order.  The reading makes only A to Z small; `Lowers` is what any
lower-casing of texts does, and no two of them disagree on a name (`mem_names_lower`).

An output names a format by the extension of its last part (`Extends`): a part is what
stands between slashes, and an extension what stands behind the last dot of a part,
with something on both sides of that dot (`suffix_eq_iff`).
-/
import Darkroom.Proofs.Complaints
import Darkroom.Proofs.Jobs
import Mathlib.Data.List.DropRight

namespace Darkroom

set_option autoImplicit false

/-! ## Small letters -/

namespace Text

/-- A lower-casing of texts.  ASCII is made small letter by letter.  From a character
beyond ASCII comes one beyond ASCII, or the small k that the Kelvin sign has. -/
structure Lowers (lower : List Char → List Char) : Prop where
  ascii : ∀ cs : List Char, (∀ c ∈ cs, c.toNat < 128) → lower cs = cs.map Char.toLower
  beyond : ∀ (cs : List Char) (c : Char), c ∈ cs → 128 ≤ c.toNat →
    ∃ d ∈ lower cs, 128 ≤ d.toNat ∨ d = 'k'

/-- A character that is in no name of a format. -/
def Foreign (c : Char) : Prop := 128 ≤ c.toNat ∨ c = 'k'

variable {lower : List Char → List Char} {cs : List Char} {c : Char}

theorem toLower_beyond (beyond : 128 ≤ c.toNat) : c.toLower = c := by
  unfold Char.toLower
  rw [dif_neg]
  rintro ⟨-, capital⟩
  have capital : c.toNat ≤ 90 := capital
  omega

/-- Only a dot becomes a dot: the small letters are no dots. -/
theorem toLower_eq_dot (dot : c.toLower = '.') : c = '.' := by
  unfold Char.toLower at dot
  split_ifs at dot with capital
  · have low : 65 ≤ c.val.toNat := capital.1
    have high : c.val.toNat ≤ 90 := capital.2
    have same : (c.val + 32).toNat = 46 := congrArg Char.toNat dot
    rw [UInt32.toNat_add, show (32 : UInt32).toNat = 32 from rfl] at same
    omega
  · exact dot

/-- A lower-casing agrees with that of the letters A to Z, or both leave a foreign
character. -/
theorem Lowers.agree (lowers : Lowers lower) (cs : List Char) :
    lower cs = cs.map Char.toLower ∨
      (∃ c ∈ lower cs, Foreign c) ∧ ∃ c ∈ cs.map Char.toLower, Foreign c := by
  by_cases ascii : ∀ c ∈ cs, c.toNat < 128
  · exact .inl (lowers.ascii cs ascii)
  · simp only [not_forall, not_lt] at ascii
    obtain ⟨c, member, beyond⟩ := ascii
    refine .inr ⟨lowers.beyond cs c member beyond, c, ?_, .inl beyond⟩
    exact List.mem_map.mpr ⟨c, member, toLower_beyond beyond⟩

/-- Blanks behind a dot are behind its text. -/
theorem strip_dot (e : List Char) : strip ('.' :: e) = '.' :: e.rdropWhile isBlank := by
  have solid : isBlank '.' = false := by decide
  rw [strip, List.dropWhile_cons_of_neg (by simp [solid]), List.reverse_cons,
    List.dropWhile_append, List.dropWhile_cons_of_neg (by simp [solid]), List.rdropWhile]
  split_ifs with blank
  · rw [List.isEmpty_iff.mp blank]
    rfl
  · simp

end Text

/-! ## Names -/

namespace Format

open Text (Lowers Foreign)

variable {lower : List Char → List Char} {s : String} {f : Format} {t e : List Char} {c : Char}

theorem not_mem_names_of_foreign (member : c ∈ t) (foreign : Foreign c) (f : Format) :
    String.ofList t ∉ f.names := by
  intro named
  have each : ((names f).all fun name => name.toList.all fun c =>
      decide (c.toNat < 128 ∧ c ≠ 'k')) = true := by
    cases f <;> decide
  have native := List.all_eq_true.mp (List.all_eq_true.mp each _ named) c (by simpa using member)
  have native := of_decide_eq_true native
  rcases foreign with beyond | rfl
  · omega
  · exact native.2 rfl

/-- Taking dots off the front leaves a foreign character where it is. -/
theorem not_mem_names_of_foreign_undotted (member : c ∈ t) (foreign : Foreign c) (f : Format) :
    String.ofList (t.dropWhile (· == '.')) ∉ f.names := by
  apply not_mem_names_of_foreign (c := c) _ foreign
  rw [← List.takeWhile_append_dropWhile (p := (· == '.')) (l := t), List.mem_append] at member
  refine member.resolve_left fun front => ?_
  have dot := List.mem_takeWhile_imp front
  obtain rfl : c = '.' := eq_of_beq dot
  rcases foreign with beyond | same
  · exact absurd beyond (by decide)
  · exact absurd same (by decide)

theorem ofKey?_eq_some {key : String} : ofKey? key = some f ↔ key ∈ f.names := by
  constructor
  · intro found
    have named := List.find?_some found
    exact List.contains_iff_mem.mp named
  · intro named
    cases f <;> simp only [names, List.mem_cons, List.not_mem_nil, or_false] at named
    case png | gif | bmp => subst named; decide
    case jpeg | tiff => rcases named with rfl | rfl <;> decide

theorem ofName_eq_ok {given : Value} : ofName given = .ok f ↔ nameKey given.plain ∈ f.names := by
  rw [← ofKey?_eq_some, ofName]
  split <;> simp [*]

/-- Every lower-casing reads the same names. -/
theorem nameKey_mem_names (lowers : Lowers lower) : nameKey s ∈ f.names ↔
    String.ofList ((lower (Text.strip s.toList)).dropWhile (· == '.')) ∈ f.names := by
  rcases lowers.agree (Text.strip s.toList) with same | ⟨⟨c, member, foreign⟩, d, member', foreign'⟩
  · rw [nameKey, same]
  · exact iff_of_false (not_mem_names_of_foreign_undotted member' foreign' f)
      (not_mem_names_of_foreign_undotted member foreign f)

theorem mem_names_lower (lowers : Lowers lower) :
    String.ofList (t.map Char.toLower) ∈ f.names ↔ String.ofList (lower t) ∈ f.names := by
  rcases lowers.agree t with same | ⟨⟨c, member, foreign⟩, d, member', foreign'⟩
  · rw [same]
  · exact iff_of_false (not_mem_names_of_foreign member' foreign' f)
      (not_mem_names_of_foreign member foreign f)

/-- The key of an extension: the blanks behind it go, and its letters are small. -/
theorem nameKey_extension (undotted : '.' ∉ e) : nameKey (String.ofList ('.' :: e)) =
    String.ofList ((e.rdropWhile Text.isBlank).map Char.toLower) := by
  have stays : '.' ∉ (e.rdropWhile Text.isBlank).map Char.toLower := by
    intro dotted
    obtain ⟨c, member, dot⟩ := List.mem_map.mp dotted
    rw [Text.toLower_eq_dot dot] at member
    exact undotted ((List.rdropWhile_prefix Text.isBlank e).subset member)
  have dot : Char.toLower '.' = '.' := rfl
  rw [nameKey, String.toList_ofList, Text.strip_dot, List.map_cons, dot,
    List.dropWhile_cons_of_pos (by simp)]
  congr 1
  cases letters : (e.rdropWhile Text.isBlank).map Char.toLower with
  | nil => rfl
  | cons c cs =>
      rw [letters] at stays
      apply List.dropWhile_cons_of_neg
      rintro same
      exact stays (by simp [eq_of_beq same])

end Format

/-! ## Parts of a path -/

namespace Path

variable {o : String} {n p e : List Char}

theorem splitSlashes_eq (cs : List Char) : splitSlashes cs = cs.splitOn '/' := by
  induction cs with
  | nil => rfl
  | cons c cs ih =>
      rw [splitSlashes, List.splitOn_cons_eq_if_modifyHead, ih]
      simp only [beq_iff_eq]
      split_ifs
      · rfl
      · cases split : cs.splitOn '/' with
        | nil => exact absurd split (List.splitOn_ne_nil '/' cs)
        | cons name rest => rfl

/-- The parts of a path that count. -/
def parts (o : String) : List (List Char) :=
  (o.toList.splitOn '/').filter fun part => part ≠ [] ∧ part ≠ ['.']

theorem names_ofText (o : String) : (ofText o).names = (parts o).map String.ofList := by
  simp [ofText, namesOf, parts, splitSlashes_eq]

/-- An output whose last part is a stem and an extension, with the last dot between them. -/
structure Extends (o : String) (p e : List Char) : Prop where
  last : (parts o).getLast? = some (p ++ '.' :: e)
  stem : p ≠ []
  extension : e ≠ []
  undotted : '.' ∉ e

theorem suffixOf_undotted (undotted : '.' ∉ n) : suffixOf n = [] := by
  rw [suffixOf]
  exact if_neg fun ⟨_, _, dotted⟩ => undotted (List.contains_iff_mem.mp dotted)

/-- What stands behind the last dot is the suffix, unless one side of the dot is empty. -/
theorem suffixOf_dotted (undotted : '.' ∉ e) :
    suffixOf (p ++ '.' :: e) = if p ≠ [] ∧ e ≠ [] then '.' :: e else [] := by
  have after : (p ++ '.' :: e).reverse.takeWhile (· ≠ '.') = e.reverse := by
    rw [List.reverse_append, List.reverse_cons, List.append_assoc,
      List.takeWhile_append_of_pos fun c member => ?_]
    · simp
    · have other : c ≠ '.' := fun dot => undotted (by simpa [dot] using member)
      simpa using other
  have before : (p ++ '.' :: e).length - e.reverse.length - 1 = p.length := by
    simp
    omega
  simp only [suffixOf, after, before, List.reverse_reverse]
  simp [List.length_pos_iff, and_comm]

/-- A text with a dot in it has a last one. -/
theorem exists_last_dot (dotted : '.' ∈ n) : ∃ p e, n = p ++ '.' :: e ∧ '.' ∉ e := by
  obtain ⟨e, p, same, undotted⟩ := List.eq_append_cons_of_mem (List.mem_reverse.mpr dotted)
  refine ⟨p.reverse, e.reverse, ?_, by simpa using undotted⟩
  rw [← List.reverse_reverse n, same]
  simp

theorem suffixOf_eq_cons : suffixOf n = '.' :: e ↔
    ∃ p, n = p ++ '.' :: e ∧ p ≠ [] ∧ e ≠ [] ∧ '.' ∉ e := by
  constructor
  · intro has
    by_cases dotted : '.' ∈ n
    · obtain ⟨p, e', rfl, undotted⟩ := exists_last_dot dotted
      rw [suffixOf_dotted undotted] at has
      split_ifs at has with sides
      obtain rfl := (List.cons.inj has).2
      exact ⟨p, rfl, sides.1, sides.2, undotted⟩
    · rw [suffixOf_undotted dotted] at has
      cases has
  · rintro ⟨p, rfl, stem, extension, undotted⟩
    rw [suffixOf_dotted undotted, if_pos ⟨stem, extension⟩]

/-- A suffix is a dot with something behind it, if it is anything. -/
theorem suffixOf_cases (n : List Char) : suffixOf n = [] ∨ ∃ e, suffixOf n = '.' :: e := by
  unfold suffixOf
  dsimp only
  split_ifs
  · exact .inr ⟨_, rfl⟩
  · exact .inl rfl

theorem suffix_ofText (o : String) : (ofText o).suffix =
    String.ofList (((parts o).getLast?.map suffixOf).getD []) := by
  rw [suffix, names_ofText, List.getLast?_map]
  cases (parts o).getLast? <;> simp

theorem suffix_eq_iff : (ofText o).suffix = String.ofList ('.' :: e) ↔ ∃ p, Extends o p e := by
  rw [suffix_ofText, String.ofList_inj]
  cases last : (parts o).getLast? with
  | none =>
      refine iff_of_false (by simp) ?_
      rintro ⟨p, shaped⟩
      exact absurd (last.symm.trans shaped.last) (by simp)
  | some n =>
      rw [Option.map_some, Option.getD_some, suffixOf_eq_cons]
      constructor
      · rintro ⟨p, rfl, stem, extension, undotted⟩
        exact ⟨p, last, stem, extension, undotted⟩
      · rintro ⟨p, same, stem, extension, undotted⟩
        exact ⟨p, Option.some.inj (last.symm.trans same), stem, extension, undotted⟩

theorem suffix_cases (o : String) : (ofText o).suffix = "" ∨
    ∃ p e, Extends o p e ∧ (ofText o).suffix = String.ofList ('.' :: e) := by
  have shape : (ofText o).suffix = "" ∨ ∃ e, (ofText o).suffix = String.ofList ('.' :: e) := by
    rw [suffix_ofText]
    cases (parts o).getLast? with
    | none => exact .inl rfl
    | some n =>
        rw [Option.map_some, Option.getD_some]
        rcases suffixOf_cases n with none | ⟨e, some⟩
        · exact .inl (by rw [none])
        · exact .inr ⟨e, by rw [some]⟩
  refine shape.imp_right fun ⟨e, has⟩ => ?_
  obtain ⟨p, shaped⟩ := suffix_eq_iff.mp has
  exact ⟨p, e, shaped, has⟩

end Path

/-! ## Outputs -/

namespace Command

open Text (Lowers)

variable {lower : List Char → List Char} {asked : Option String} {o : String} {f : Format}

/-- The extension of an output, without the blanks behind it, is a name of the format. -/
def Suggests (lower : List Char → List Char) (o : String) (f : Format) : Prop :=
  ∃ p e, Path.Extends o p e ∧ String.ofList (lower (e.rdropWhile Text.isBlank)) ∈ f.names

/-- Where no format is asked for the suffix decides; the standard stream has none. -/
theorem outputFormat_suffix (unasked : givenPath asked = none) : (outputFormat asked o).1 =
    .ok (Format.ofKey? (Format.nameKey (Path.ofText o).suffix)) := by
  rw [outputFormat_unasked unasked]
  split_ifs with stream
  · rw [stream]
    rfl
  · rfl

theorem suggests_iff (lowers : Lowers lower) : Suggests lower o f ↔
    Format.nameKey (Path.ofText o).suffix ∈ f.names := by
  constructor
  · rintro ⟨p, e, shaped, named⟩
    rw [Path.suffix_eq_iff.mpr ⟨p, shaped⟩, Format.nameKey_extension shaped.undotted,
      Format.mem_names_lower lowers]
    exact named
  · intro named
    rcases Path.suffix_cases o with bare | ⟨p, e, shaped, has⟩
    · rw [bare] at named
      exact absurd named (by cases f <;> decide)
    · rw [has, Format.nameKey_extension shaped.undotted, Format.mem_names_lower lowers] at named
      exact ⟨p, e, shaped, named⟩

/-- The format of an output that no format is asked for. -/
theorem outputFormat_suggested (lowers : Lowers lower) (unasked : givenPath asked = none) :
    (outputFormat asked o).1 = .ok (some f) ↔ Suggests lower o f := by
  rw [outputFormat_suffix unasked, suggests_iff lowers, ← Format.ofKey?_eq_some]
  exact ⟨Except.ok.inj, congrArg Except.ok⟩

theorem outputFormat_plain (lowers : Lowers lower) (unasked : givenPath asked = none)
    (plain : ∀ f, ¬Suggests lower o f) : (outputFormat asked o).1 = .ok none := by
  rw [outputFormat_suffix unasked]
  cases found : Format.ofKey? (Format.nameKey (Path.ofText o).suffix) with
  | none => rfl
  | some f =>
      rw [Format.ofKey?_eq_some, ← suggests_iff lowers] at found
      exact absurd found (plain f)

end Command

namespace Format

open Command (Suggests outputFormat standardStream)

/-- A text without the blanks around it, in small letters and without dots in front. -/
def spelled (lower : List Char → List Char) (s : String) : String :=
  String.ofList ((lower (Text.strip s.toList)).dropWhile (· == '.'))

theorem mem_some_names {key : String} :
    key ∈ ["jpeg", "jpg", "png", "gif", "tiff", "tif", "bmp"] ↔ ∃ f : Format, key ∈ f.names := by
  have all_names : ["jpeg", "jpg", "png", "gif", "tiff", "tif", "bmp"] = all.flatMap names := rfl
  rw [all_names, List.mem_flatMap]
  exact ⟨fun ⟨f, _, named⟩ => ⟨f, named⟩, fun ⟨f, named⟩ => ⟨f, by cases f <;> decide, named⟩⟩

/-- Names of formats and extensions of outputs are read exactly: a text names the format
that it spells, and an output asks for the format that its extension spells, unless a
format was asked for by name.  Only a name that was asked for is ever refused. -/
theorem names_read {lower : List Char → List Char} (lowers : Text.Lowers lower) :
    (∀ s, (∃ f, ofName (.text s) = .ok f) ↔
      spelled lower s ∈ ["jpeg", "jpg", "png", "gif", "tiff", "tif", "bmp"]) ∧
    (∀ s f, ofName (.text s) = .ok f ↔ spelled lower s ∈ f.names) ∧
    (∀ s, (∀ f : Format, spelled lower s ∉ f.names) →
      ofName (.text s) = .error (.unsupportedFormat (.text s))) ∧
    (∀ o f, (outputFormat none o).1 = .ok (some f) ↔ Suggests lower o f) ∧
    (∀ o, (∀ f, ¬Suggests lower o f) → (outputFormat none o).1 = .ok none) ∧
    (outputFormat none standardStream).1 = .ok none ∧
    (∀ name o, name ≠ "" →
      (outputFormat (some name) o).1 = (ofName (.text name)).map some) ∧
    ∀ o, outputFormat (some "") o = outputFormat none o := by
  have named (s : String) (f : Format) :
      ofName (.text s) = .ok f ↔ spelled lower s ∈ f.names :=
    ofName_eq_ok.trans (nameKey_mem_names lowers)
  refine ⟨fun s => ?some, named, fun s none => ?refused,
    fun o f => Command.outputFormat_suggested lowers rfl,
    fun o plain => Command.outputFormat_plain lowers rfl plain, rfl, fun name o given => ?flag,
    fun o => rfl⟩
  case some => rw [mem_some_names, exists_congr (named s)]
  case refused =>
    have unknown (f : Format) : nameKey s ∉ f.names :=
      fun known => none f ((nameKey_mem_names lowers).mp known)
    exact ofName_eq_error.mpr ⟨unknown, rfl⟩
  case flag =>
    have flagged : Command.givenPath (some name) = some name := by
      simp [Command.givenPath, Option.filter, given]
    exact Command.outputFormat_flag flagged

/-- A lower-casing that knows the two characters beyond ASCII in whose small form a letter
of ASCII stands: the Kelvin sign and the capital i with a dot. -/
def lowerDotted (cs : List Char) : List Char :=
  cs.flatMap fun c =>
    if c = Char.ofNat 0x212a then ['k']
    else if c = Char.ofNat 0x130 then ['i', Char.ofNat 0x307]
    else [c.toLower]

theorem lowers_lowerDotted : Text.Lowers lowerDotted where
  ascii cs ascii := by
    rw [lowerDotted, ← List.flatMap_pure_eq_map]
    refine List.flatMap_congr fun c member => ?_
    have small := ascii c member
    rw [if_neg, if_neg]
    · rfl
    all_goals rintro rfl; exact absurd small (by decide)
  beyond cs c member beyond := by
    have step : ∃ d ∈ (if c = Char.ofNat 0x212a then ['k']
        else if c = Char.ofNat 0x130 then ['i', Char.ofNat 0x307]
        else [c.toLower]), 128 ≤ d.toNat ∨ d = 'k' := by
      split_ifs
      · exact ⟨'k', by simp, .inr rfl⟩
      · exact ⟨Char.ofNat 0x307, by simp, .inl (by decide)⟩
      · exact ⟨c.toLower, by simp, .inl (by rwa [Text.toLower_beyond beyond])⟩
    obtain ⟨d, small, foreign⟩ := step
    exact ⟨d, List.mem_flatMap.mpr ⟨c, member, small⟩, foreign⟩

/-- A name with blanks and a dot, and an output with capitals and a slash behind it. -/
theorem tif_read : Text.Lowers lowerDotted ∧ ofName (.text " .JPG\t") = .ok .jpeg ∧
    (outputFormat none "scans/./Cat.Tif /").1 = .ok (some .tiff) ∧
    (outputFormat none "scans/Cat.T\u0130F").1 = .ok none := by
  have laws := names_read lowers_lowerDotted
  refine ⟨lowers_lowerDotted, (laws.2.1 _ _).mpr (by decide), (laws.2.2.2.1 _ _).mpr ?_, ?_⟩
  · exact ⟨['C', 'a', 't'], ['T', 'i', 'f', ' '], ⟨by decide, by decide, by decide, by decide⟩,
      by decide⟩
  · refine laws.2.2.2.2.1 _ fun f ⟨p, e, shaped, named⟩ => ?_
    have suffix : (Path.ofText "scans/Cat.T\u0130F").suffix =
        String.ofList ('.' :: ['T', Char.ofNat 0x130, 'F']) := by decide
    have same := suffix.symm.trans (Path.suffix_eq_iff.mpr ⟨p, shaped⟩)
    obtain rfl := (List.cons.inj (String.ofList_injective same)).2
    exact absurd named (by cases f <;> decide)

end Format

end Darkroom
