/-
# Darkroom.Proofs.Files -- what writing a file changes

`locate_inside` is the one fact about walks that the rest needs: where a path leads
hangs on the directories alone, so as long as they are kept it leads there, and what it
finds is what now stands there.

Making directories keeps every directory and every file (`Extends`).  A write puts one
file where nothing or another file stood and keeps all others (`Written`); what is
written is what is read back, and a path that could be read before leads to the same
file.  A write that is refused has made directories at most, and one that breaks off
leaves what came through in the one file (`write_ends`).

A null character is found by nothing but a path that has one (`locate_null_iff`).
-/
import Darkroom.Disk
import Darkroom.Proofs.Outcome

namespace Darkroom.Disk

set_option autoImplicit false

open Outcome

variable {d made changed : Disk} {p : Path} {names : List String} {node : Option Node}
  {c : Content}

/-! ## Nodes -/

theorem node?_nil : d.node? [] = some .directory := if_pos rfl

theorem node?_put (below : names ≠ []) (n : Node) (other : List String) :
    (d.put names n).node? other = if other = names then some n else d.node? other := by
  unfold node? put
  by_cases root : other = []
  · rw [if_pos root, if_pos root, if_neg (root ▸ below.symm)]
  · rw [if_neg root, if_neg root]
    by_cases same : other = names
    · rw [if_pos same, List.find?_cons_of_pos (by simpa using same.symm)]
      rfl
    · have apart (entry : List String × Node) :
          (entry.1 ≠ names ∧ entry.1 = other) ↔ entry.1 = other := by
        rw [and_iff_right_iff_imp]
        rintro rfl
        exact same
      rw [if_neg same, List.find?_cons_of_neg (by simpa using Ne.symm same), List.find?_filter]
      simp only [decide_eq_true_eq, apart]

/-! ## Walks -/

/-- A walk goes where the directories lead. -/
theorem enter_of_kept {place there : Place}
    (kept : ∀ names, d.node? names = some .directory → changed.node? names = some .directory)
    (entered : d.enter place names = .ok there) : changed.enter place names = .ok there := by
  induction names generalizing place with
  | nil => exact entered
  | cons name rest ih =>
      unfold enter at entered ⊢
      split at entered
      · cases entered
      · rename_i short
        rw [if_neg short]
        dsimp only at entered ⊢
        have open_ (found : d.look (step place name) name = some .directory) :
            changed.look (step place name) name = some .directory := by
          cases next : step place name with
          | inside names => rw [next] at found; exact kept names found
          | above n => rw [next] at found; exact found
        split at entered
        · rename_i found
          rw [open_ found]
          exact ih entered
        · cases entered
        · cases entered

theorem enter_ne_null (place : Place) (names : List String) :
    d.enter place names ≠ .error .nullCharacter := by
  induction names generalizing place with
  | nil => nofun
  | cons name rest ih =>
      unfold enter
      split
      · nofun
      · dsimp only
        split
        · exact ih _
        · nofun
        · nofun

/-- Where a path leads: to its start, or one name further than its directory. -/
theorem locate_eq_ok {place : Place} : d.locate p = .ok (place, node) ↔
    hasNull p = false ∧ (p.names = [] ∧ place = start p ∧ node = some .directory ∨
      ∃ name directory, p.names.getLast? = some name ∧
        d.enter (start p) p.names.dropLast = .ok directory ∧ name.utf8ByteSize ≤ longestName ∧
          place = step directory name ∧ node = d.look place name) := by
  unfold locate
  cases hasNull p with
  | true => simp
  | false =>
      cases last : p.names.getLast? with
      | none =>
          have root : p.names = [] := List.getLast?_eq_none_iff.mp last
          simp [root, eq_comm]
      | some name =>
          have some_ : p.names ≠ [] := by
            rintro empty
            simp [empty] at last
          simp only [Bool.false_eq_true, if_false, bind_eq_ok, some_, false_and, false_or,
            true_and, Option.some.injEq, exists_and_left, exists_eq_left']
          refine exists_congr fun directory => and_congr_right fun _ => ?_
          by_cases long : longestName < name.utf8ByteSize
          · simp [long, Nat.not_le_of_lt long]
          · simp only [long, if_false, pure_eq, Except.ok.injEq, Prod.mk.injEq,
              Nat.le_of_not_lt long, true_and]
            constructor
            · rintro ⟨rfl, rfl⟩
              exact ⟨rfl, rfl⟩
            · rintro ⟨rfl, rfl⟩
              exact ⟨rfl, rfl⟩

/-- A path that leads into the tree finds what stands there, and it leads there as long
as the directories are kept. -/
theorem locate_inside (found : d.locate p = .ok (.inside names, node)) :
    node = d.node? names ∧ ∀ changed : Disk,
      (∀ names, d.node? names = some .directory → changed.node? names = some .directory) →
        changed.locate p = .ok (.inside names, changed.node? names) := by
  obtain ⟨plain, ⟨root, here, rfl⟩ | ⟨name, directory, last, entered, short, here, rfl⟩⟩ :=
    locate_eq_ok.mp found
  · have top : names = [] := by
      unfold start at here
      split_ifs at here
      exact Place.inside.inj here
    subst top
    exact ⟨node?_nil.symm, fun changed _ =>
      locate_eq_ok.mpr ⟨plain, .inl ⟨root, here, node?_nil⟩⟩⟩
  · exact ⟨rfl, fun changed kept => locate_eq_ok.mpr ⟨plain, .inr ⟨name, directory, last,
      enter_of_kept kept entered, short, here, rfl⟩⟩⟩

/-- Only a path with a null character in it is refused for one. -/
theorem locate_null_iff : d.locate p = .error .nullCharacter ↔ hasNull p = true := by
  unfold locate
  cases hasNull p with
  | true => simp
  | false =>
      rw [if_neg Bool.false_ne_true, iff_false_intro Bool.false_ne_true, iff_false]
      split
      · nofun
      · cases entered : d.enter (start p) p.names.dropLast with
        | error o =>
            rintro same
            obtain rfl := Except.error.inj same
            exact enter_ne_null _ _ entered
        | ok directory =>
            rw [ok_bind]
            split <;> nofun

/-! ## Reading -/

/-- What is read is a file of the tree. -/
theorem read_eq_ok : d.read p = .ok c ↔
    ∃ names, d.locate p = .ok (.inside names, some (.file c)) := by
  constructor
  · intro came
    unfold read at came
    split at came
    case h_1 => cases came
    case h_3 => cases came
    case h_4 => cases came
    case h_2 place content found =>
      obtain rfl := Except.ok.inj came
      cases place with
      | inside names => exact ⟨names, found⟩
      | above levels =>
          obtain ⟨-, ⟨-, -, directory⟩ | ⟨name, -, -, -, -, -, seen⟩⟩ := locate_eq_ok.mp found
          · cases directory
          · unfold look at seen
            dsimp only at seen
            split_ifs at seen
            cases seen
  · rintro ⟨names, found⟩
    rw [read, found]

/-! ## Directories -/

/-- More directories, and the same files in the same system. -/
structure Extends (d made : Disk) : Prop where
  directories : ∀ names, d.node? names = some .directory → made.node? names = some .directory
  files : ∀ names c, made.node? names = some (.file c) ↔ d.node? names = some (.file c)
  breaks : made.breaks = d.breaks

namespace Extends

theorem refl (d : Disk) : d.Extends d := ⟨fun _ found => found, fun _ _ => .rfl, rfl⟩

theorem trans (first : d.Extends made) (then_ : made.Extends changed) : d.Extends changed :=
  ⟨fun names found => then_.directories names (first.directories names found),
    fun names c => (then_.files names c).trans (first.files names c),
    then_.breaks.trans first.breaks⟩

/-- What could be read can be read. -/
theorem read (more : d.Extends made) (found : d.read p = .ok c) : made.read p = .ok c := by
  obtain ⟨names, leads⟩ := read_eq_ok.mp found
  obtain ⟨here, stays⟩ := locate_inside leads
  refine read_eq_ok.mpr ⟨names, ?_⟩
  rw [stays made more.directories, (more.files names c).mpr here.symm]

end Extends

theorem extends_makeDirectory (came : d.makeDirectory p = .ok made) : d.Extends made := by
  unfold makeDirectory at came
  split at came
  case h_1 => cases came
  case h_2 => cases came
  case h_4 => cases came
  case h_3 names found =>
    obtain rfl := Except.ok.inj came
    have free : d.node? names = none := (locate_inside found).1.symm
    have below : names ≠ [] := by
      rintro rfl
      rw [node?_nil] at free
      cases free
    refine ⟨fun other kept => ?_, fun other c => ?_, rfl⟩
    · rw [node?_put below]
      split
      · rfl
      · exact kept
    · rw [node?_put below]
      split
      · simp [*]
      · rfl

theorem extends_ensureDirectory (came : d.ensureDirectory p = .ok made) : d.Extends made := by
  unfold ensureDirectory at came
  split at came
  · rename_i fresh
    obtain rfl := Except.ok.inj came
    exact extends_makeDirectory fresh
  · split_ifs at came
    obtain rfl := Except.ok.inj came
    exact .refl d

theorem extends_attempt {result : Except Refusal Disk}
    (each : ∀ made, result = .ok made → d.Extends made) : d.Extends (d.attempt result).1 := by
  cases result with
  | ok made => exact each made rfl
  | error r => exact .refl d

/-- Whether they are refused or not, directories do no harm to files. -/
theorem extends_ensureDirectories (root : String) (names : List String) :
    d.Extends (d.ensureDirectories root names).1 := by
  induction names generalizing d with
  | nil => exact extends_attempt fun _ => extends_ensureDirectory
  | cons name above ih =>
      unfold ensureDirectories
      dsimp only
      split
      case h_1 fresh => exact extends_makeDirectory fresh
      case h_2 =>
        split
        · have upper := ih (d := d)
          split
          case h_1 same => rw [same] at upper; exact upper
          case h_2 same =>
            rw [same] at upper
            exact upper.trans (extends_attempt fun _ => extends_ensureDirectory)
        · exact extends_attempt fun _ => extends_ensureDirectory

/-! ## Writing -/

/-- One file is put where nothing or another file stood; all others are as before. -/
structure Written (d changed : Disk) (target : List String) (c : Content) : Prop where
  here : changed.node? target = some (.file c)
  directories : ∀ names, d.node? names = some .directory → changed.node? names = some .directory
  others : ∀ names ≠ target, ∀ content,
    changed.node? names = some (.file content) ↔ d.node? names = some (.file content)

namespace Written

variable {target : List String}

theorem after (more : d.Extends made) (put : made.Written changed target c) :
    d.Written changed target c :=
  ⟨put.here, fun names kept => put.directories names (more.directories names kept),
    fun names other content => (put.others names other content).trans (more.files names content)⟩

/-- A path that could be read leads to the same file: to the one that was written, or
to one that is as before. -/
theorem read (put : d.Written changed target c) {q : Path} {content : Content}
    (found : d.read q = .ok content) :
    changed.locate q = .ok (.inside target, some (.file c)) ∨ changed.read q = .ok content := by
  obtain ⟨names, leads⟩ := read_eq_ok.mp found
  obtain ⟨there, stays⟩ := locate_inside leads
  by_cases same : names = target
  · subst same
    left
    rw [stays changed put.directories, put.here]
  · right
    refine read_eq_ok.mpr ⟨names, ?_⟩
    rw [stays changed put.directories, (put.others names same content).mpr there.symm]

end Written

/-- A content is in the file that a path leads to, and nowhere else. -/
structure Holds (d changed : Disk) (p : Path) (target : List String) (c : Content) : Prop where
  put : d.Written changed target c
  leads : changed.locate p = .ok (.inside target, some (.file c))

theorem holds_put {target : List String} (found : d.locate p = .ok (.inside target, node))
    (free : node ≠ some .directory) : d.Holds (d.put target (.file c)) p target c := by
  obtain ⟨here, stays⟩ := locate_inside found
  have taken : d.node? target ≠ some .directory := here ▸ free
  have below : target ≠ [] := by
    rintro rfl
    exact taken node?_nil
  have written : d.Written (d.put target (.file c)) target c := by
    refine ⟨by rw [node?_put below, if_pos rfl], fun names kept => ?_,
      fun names other content => ?_⟩
    · rw [node?_put below, if_neg (by rintro rfl; exact taken kept)]
      exact kept
    · rw [node?_put below, if_neg other]
  exact ⟨written, by rw [stays _ written.directories, written.here]⟩

/-- What comes of a write: the content is where the path leads, or the write is refused
and no file changes, or it breaks off and what came through is where the path leads. -/
inductive WriteEnds (d : Disk) (p : Path) (c : Content) : Disk × Option Refusal → Prop
  | done {changed : Disk} {target : List String} (holds : d.Holds changed p target c) :
      d.WriteEnds p c (changed, none)
  | refused {made : Disk} (more : d.Extends made) (r : Refusal) : d.WriteEnds p c (made, some r)
  | broken {changed : Disk} {target : List String} {b : Break}
      (breaks : d.breaks target c = some b) (holds : d.Holds changed p target b.kept) :
      d.WriteEnds p c (changed, some ⟨b.obstacle, p⟩)

theorem WriteEnds.after {result : Disk × Option Refusal} (more : d.Extends made)
    (ends : made.WriteEnds p c result) : d.WriteEnds p c result := by
  cases ends with
  | done holds => exact .done ⟨.after more holds.put, holds.leads⟩
  | refused later r => exact .refused (more.trans later) r
  | broken breaks holds => exact .broken (more.breaks ▸ breaks) ⟨.after more holds.put, holds.leads⟩

theorem writeFile_ends : d.WriteEnds p c (d.writeFile p c) := by
  unfold writeFile
  split
  case h_1 | h_2 | h_4 => exact .refused (.refl d) _
  case h_3 target node busy found =>
    have free : node ≠ some .directory := by
      rintro rfl
      exact busy rfl
    unfold fill
    split
    case h_1 => exact .done (holds_put found free)
    case h_2 b breaks => exact .broken breaks (holds_put found free)

/-- A write comes to one of the three ends, whatever directories it makes. -/
theorem write_ends : d.WriteEnds p c (d.write p c) := by
  have more := extends_ensureDirectories (d := d) p.root p.parent.names.reverse
  unfold write
  split
  case h_1 made r same =>
    rw [same] at more
    exact .refused more r
  case h_2 made same =>
    rw [same] at more
    exact .after more writeFile_ends

/-! ## Null characters -/

/-- A path is refused for a null character exactly when it has one. -/
def NullAware {α : Type} (p : Path) (result : Except Refusal α) : Prop :=
  (hasNull p = true → result = .error ⟨.nullCharacter, p⟩) ∧
    ∀ r, result = .error r → r.obstacle = .nullCharacter → hasNull p = true

/-- What fails with a walk, and for no null character after it, is aware of them. -/
theorem nullAware_of_locate {α : Type} {result : Except Refusal α}
    (fails : ∀ o, d.locate p = .error o → result = .error ⟨o, p⟩)
    (goes : ∀ found r, d.locate p = .ok found → result = .error r → r.obstacle ≠ .nullCharacter) :
    NullAware p result := by
  refine ⟨fun null => fails _ (locate_null_iff.mpr null), fun r refused null => ?_⟩
  rw [← locate_null_iff (d := d)]
  cases walked : d.locate p with
  | ok found => exact absurd null (goes found r walked refused)
  | error o =>
      obtain rfl := Except.error.inj (refused.symm.trans (fails o walked))
      exact congrArg Except.error null

theorem nullAware_read : NullAware p (d.read p) := by
  refine nullAware_of_locate (fun o failed => by rw [read, failed]) fun found r walked refused => ?_
  unfold read at refused
  rw [walked] at refused
  split at refused
  case h_1 impossible => cases impossible
  all_goals cases refused <;> nofun

theorem nullAware_makeDirectory : NullAware p (d.makeDirectory p) := by
  refine nullAware_of_locate (fun o failed => by rw [makeDirectory, failed])
    fun found r walked refused => ?_
  unfold makeDirectory at refused
  rw [walked] at refused
  split at refused
  case h_1 impossible => cases impossible
  all_goals cases refused <;> nofun

theorem writeFile_null_iff :
    (∃ r, (d.writeFile p c).2 = some r ∧ r.obstacle = .nullCharacter) ↔ hasNull p = true := by
  rw [← locate_null_iff (d := d)]
  cases walked : d.locate p with
  | error o => simp [writeFile, walked]
  | ok found =>
      rw [iff_false_right nofun]
      rintro ⟨r, refused, null⟩
      unfold writeFile at refused
      rw [walked] at refused
      split at refused
      case h_1 impossible => cases impossible
      case h_2 | h_4 =>
        cases refused
        cases null
      case h_3 =>
        unfold fill at refused
        split at refused <;> cases refused
        cases null

theorem nullAware_ensureDirectory : NullAware p (d.ensureDirectory p) := by
  obtain ⟨meets, only⟩ := nullAware_makeDirectory (d := d) (p := p)
  unfold ensureDirectory
  refine ⟨fun null => by rw [meets null]; rfl, fun r refused null => ?_⟩
  split at refused
  · cases refused
  · rename_i other made
    split_ifs at refused
    obtain rfl := Except.error.inj refused
    exact only other made null

/-- The obstacle of an attempt. -/
theorem attempt_eq_some {result : Except Refusal Disk} {r : Refusal} :
    (d.attempt result).2 = some r ↔ result = .error r := by
  cases result <;> simp [attempt]

theorem attempt_null_iff {result : Except Refusal Disk} (aware : NullAware p result) :
    (∃ r, (d.attempt result).2 = some r ∧ r.obstacle = .nullCharacter) ↔ hasNull p = true := by
  constructor
  · rintro ⟨r, refused, null⟩
    exact aware.2 r (attempt_eq_some.mp refused) null
  · intro null
    exact ⟨_, attempt_eq_some.mpr (aware.1 null), rfl⟩

/-- Directories are refused for a null character exactly when a name of theirs has one. -/
theorem ensureDirectories_null_iff (root : String) (names : List String) :
    (∃ r, (d.ensureDirectories root names).2 = some r ∧ r.obstacle = .nullCharacter) ↔
      hasNull ⟨root, names.reverse⟩ = true := by
  induction names generalizing d with
  | nil => exact attempt_null_iff nullAware_ensureDirectory
  | cons name above ih =>
      obtain ⟨meets, only⟩ :=
        nullAware_makeDirectory (d := d) (p := ⟨root, (name :: above).reverse⟩)
      unfold ensureDirectories
      dsimp only
      split
      case h_1 made fresh =>
        constructor
        · nofun
        · intro null
          cases fresh.symm.trans (meets null)
      case h_2 r refused =>
        split
        case isFalse => exact attempt_null_iff nullAware_ensureDirectory
        case isTrue missing =>
          have plain : ¬hasNull ⟨root, (name :: above).reverse⟩ = true := by
            intro null
            obtain rfl := Except.error.inj (refused.symm.trans (meets null))
            cases missing
          have upper := ih (d := d)
          split
          case h_1 made refusal same =>
            rw [same] at upper
            refine iff_of_false (fun null => plain ?_) plain
            have part := upper.mp null
            simp only [hasNull, List.reverse_cons, List.any_append, Bool.or_eq_true] at part ⊢
            exact .inl part
          case h_2 made same => exact attempt_null_iff nullAware_ensureDirectory

/-- A write is refused for a null character when its path has one and nothing was in the
way before it was met. -/
theorem write_null_iff : (∃ r, (d.write p c).2 = some r ∧ r.obstacle = .nullCharacter) ↔
    hasNull p = true ∧ (hasNull p.parent = true ∨
      (d.ensureDirectories p.root p.parent.names.reverse).2 = none) := by
  have above := ensureDirectories_null_iff (d := d) p.root p.parent.names.reverse
  rw [List.reverse_reverse] at above
  have inherits (null : hasNull p.parent = true) : hasNull p = true := by
    obtain ⟨name, member, holds⟩ := List.any_eq_true.mp null
    exact List.any_eq_true.mpr ⟨name, List.dropLast_subset _ member, holds⟩
  unfold write
  split
  case h_1 made r same =>
    rw [same] at above ⊢
    have parent : hasNull ⟨p.root, p.parent.names⟩ = hasNull p.parent := rfl
    rw [above, parent]
    constructor
    · intro null
      exact ⟨inherits null, .inl null⟩
    · rintro ⟨-, null | impossible⟩
      · exact null
      · cases impossible
  case h_2 made same =>
    rw [same]
    rw [writeFile_null_iff]
    simp

end Darkroom.Disk
