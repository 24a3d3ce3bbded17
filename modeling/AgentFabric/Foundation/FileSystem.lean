import AgentFabric.Foundation.Lists
import AgentFabric.Foundation.PyError
import Mathlib.Data.List.Infix
import Mathlib.Data.String.Basic

namespace AgentFabric.PosixPath

variable (path : String)

/-- The parts of a path without the empty ones and the ones that stay in place. -/
def parts : List String :=
  ((path.toList.splitOn '/').map String.ofList).filter fun part => part ≠ "" ∧ part ≠ "."

def isAbsolute : Bool := path.toList.head? = some '/'

/-- A part is entered, and two dots leave the last part that was entered. -/
def enter (entered : List String) (part : String) : List String :=
  if part = ".." then
    match entered.getLast? with
    | none => [".."]
    | some last => if last = ".." then entered ++ [".."] else entered.dropLast
  else entered ++ [part]

/-- The place of a path from a root. A path that leaves the root starts with two dots, and an absolute
path starts with a slash. -/
def resolve : List String :=
  let place := (parts path).foldl enter []
  if isAbsolute path then "/" :: place else place

/-- A place below the root. -/
def isInside (place : List String) : Bool :=
  place ≠ [] && place.head? ≠ some ".." && place.head? ≠ some "/"

end AgentFabric.PosixPath

namespace AgentFabric.PathText

variable {Symbol : Type*} {separator : Symbol}

/-- The text of a path has every name behind a separator. -/
def joined (separator : Symbol) (names : List (List Symbol)) : List Symbol :=
  names.flatMap fun name => separator :: name

variable (first second : List (List Symbol))

/-- The second path continues the last name of the first path. -/
def ExtendsName : Prop :=
  ∃ parents name more rest, first = parents ++ [name] ∧ second = parents ++ (name ++ more) :: rest ∧
    more ≠ []

theorem not_extendsName_nil (first : List (List Symbol)) : ¬ ExtendsName first [] := by
  rintro ⟨parents, name, more, rest, _, second, _⟩
  simp at second

/-- Two paths with one first name extend each other below it. -/
theorem extendsName_cons_iff (name : List Symbol) (first second : List (List Symbol)) :
    ExtendsName (name :: first) (name :: second) ↔ ExtendsName first second := by
  constructor
  · rintro ⟨parents, last, more, rest, left, right, extra⟩
    cases parents with
    | nil =>
        obtain ⟨rfl, _⟩ := List.cons.inj left
        obtain ⟨same, _⟩ := List.cons.inj right
        exact absurd (List.append_cancel_left ((List.append_nil _).trans same)).symm extra
    | cons head parents =>
        obtain ⟨_, left⟩ := List.cons.inj left
        obtain ⟨_, right⟩ := List.cons.inj right
        exact ⟨parents, last, more, rest, left, right, extra⟩
  · rintro ⟨parents, last, more, rest, rfl, rfl, extra⟩
    exact ⟨name :: parents, last, more, rest, rfl, rfl, extra⟩

variable {name other : List Symbol}

/-- A path with another first name is extended in this name only. -/
theorem extendsName_cons_iff_of_ne (different : name ≠ other) (first second : List (List Symbol)) :
    ExtendsName (name :: first) (other :: second) ↔
      first = [] ∧ ∃ more, more ≠ [] ∧ other = name ++ more := by
  constructor
  · rintro ⟨parents, last, more, rest, left, right, extra⟩
    cases parents with
    | nil =>
        obtain ⟨rfl, none⟩ := List.cons.inj left
        obtain ⟨same, _⟩ := List.cons.inj right
        exact ⟨none, more, extra, same⟩
    | cons head parents =>
        obtain ⟨here, _⟩ := List.cons.inj left
        obtain ⟨there, _⟩ := List.cons.inj right
        exact absurd (here.trans there.symm) different
  · rintro ⟨rfl, more, extra, rfl⟩
    exact ⟨[], name, more, second, rfl, rfl, extra⟩

/-- A separator does not stand inside a name. -/
theorem not_prefix_of_plain {name more rest : List Symbol} (plain : separator ∉ name)
    (inside : more <:+ name) (extra : more ≠ []) (names : List (List Symbol)) :
    ¬ more ++ rest <+: joined separator names := by
  intro begins
  obtain ⟨symbol, tail, rfl⟩ := List.exists_cons_of_ne_nil extra
  cases names with
  | nil => exact absurd (List.prefix_nil.mp begins) (by simp)
  | cons head names =>
      obtain ⟨same, _⟩ := List.cons_prefix_cons.mp begins
      exact plain (inside.subset (same ▸ List.mem_cons_self))

/-- Behind different names the texts begin alike only when the second name continues the first one, which
is the last of its path. -/
theorem prefix_of_different (different : name ≠ other)
    (plain : separator ∉ name) (otherPlain : separator ∉ other) (first second : List (List Symbol)) :
    name ++ joined separator first <+: other ++ joined separator second ↔
      first = [] ∧ ∃ more, more ≠ [] ∧ other = name ++ more := by
  constructor
  · intro begins
    have names : name <+: other ∨ other <+: name :=
      List.prefix_or_prefix_of_prefix ((List.prefix_append _ _).trans begins)
        (List.prefix_append _ _)
    rcases names with ⟨more, rfl⟩ | ⟨more, rfl⟩
    · have extra : more ≠ [] := by
        rintro rfl
        exact different (List.append_nil name).symm
      rw [List.append_assoc, List.prefix_append_right_inj] at begins
      cases first with
      | nil => exact ⟨rfl, more, extra, rfl⟩
      | cons head rest =>
          obtain ⟨symbol, tail, rfl⟩ := List.exists_cons_of_ne_nil extra
          obtain ⟨same, _⟩ := List.cons_prefix_cons.mp begins
          exact absurd (List.mem_append_right _ (same ▸ List.mem_cons_self)) otherPlain
    · have extra : more ≠ [] := by
        rintro rfl
        exact different (List.append_nil other)
      rw [List.append_assoc, List.prefix_append_right_inj] at begins
      exact absurd begins (not_prefix_of_plain plain (List.suffix_append _ _) extra second)
  · rintro ⟨rfl, more, _, rfl⟩
    exact ⟨more ++ joined separator second, by simp [joined]⟩

/-- A text begins with the text of a path exactly when the path lies below the other one or continues its
last name. -/
theorem joined_prefix_iff (plain : ∀ name ∈ first, separator ∉ name)
    (otherPlain : ∀ name ∈ second, separator ∉ name) :
    joined separator first <+: joined separator second ↔
      first <+: second ∨ ExtendsName first second := by
  induction first generalizing second with
  | nil => exact iff_of_true (List.nil_prefix) (.inl List.nil_prefix)
  | cons name first ih =>
      cases second with
      | nil =>
          refine iff_of_false ?_ ?_
          · exact fun begins => absurd (List.prefix_nil.mp begins) (by simp [joined])
          · rintro (begins | continued)
            · exact absurd (List.prefix_nil.mp begins) (by simp)
            · exact not_extendsName_nil _ continued
      | cons other second =>
          have texts : joined separator (name :: first) <+: joined separator (other :: second) ↔
              name ++ joined separator first <+: other ++ joined separator second :=
            List.cons_prefix_cons.trans (and_iff_right rfl)
          rw [texts]
          by_cases same : name = other
          · subst same
            rw [List.prefix_append_right_inj, List.cons_prefix_cons, and_iff_right rfl,
              extendsName_cons_iff]
            exact ih second (fun _ member => plain _ (.tail _ member))
              (fun _ member => otherPlain _ (.tail _ member))
          · rw [prefix_of_different same (plain name List.mem_cons_self)
              (otherPlain other (.head _)), extendsName_cons_iff_of_ne same]
            refine (or_iff_right ?_).symm
            exact fun begins => same (List.cons_prefix_cons.mp begins).1

end AgentFabric.PathText

namespace AgentFabric

section Newlines

/-- The text that a file opened in text mode gives: every end of a line becomes a line feed. -/
def universalNewlines : List Char → List Char
  | [] => []
  | [char] => [if char = '\r' then '\n' else char]
  | first :: second :: rest =>
      if first = '\r' then
        if second = '\n' then '\n' :: universalNewlines rest
        else '\n' :: universalNewlines (second :: rest)
      else first :: universalNewlines (second :: rest)

theorem no_return_of_universalNewlines (text : List Char) : '\r' ∉ universalNewlines text := by
  fun_induction universalNewlines text with
  | case1 => exact List.not_mem_nil
  | case2 char =>
      rw [List.mem_singleton]
      split
      · decide
      · rename_i other
        exact fun same => other same.symm
  | case3 rest ih => exact List.not_mem_cons_of_ne_of_not_mem (by decide) ih
  | case4 second rest other ih => exact List.not_mem_cons_of_ne_of_not_mem (by decide) ih
  | case5 first second rest other ih =>
      exact List.not_mem_cons_of_ne_of_not_mem (Ne.symm other) ih

/-- A text stays as it is exactly when it has no carriage return. -/
theorem universalNewlines_eq_self_iff (text : List Char) :
    universalNewlines text = text ↔ '\r' ∉ text := by
  constructor
  · intro same
    rw [← same]
    exact no_return_of_universalNewlines text
  · intro absent
    fun_induction universalNewlines text with
    | case1 => rfl
    | case2 char =>
        rw [List.mem_singleton] at absent
        rw [if_neg (Ne.symm absent)]
    | case3 rest ih => exact absurd (.head _) absent
    | case4 second rest other ih => exact absurd (.head _) absent
    | case5 first second rest other ih =>
        rw [ih fun member => absent (List.mem_cons_of_mem _ member)]

end Newlines

/-- The files of a file system with their bytes. -/
abbrev Files := List String → Option ByteArray

namespace Files

variable (files : Files) (place : List String)

def write (text : String) : Files :=
  Function.update files place (some text.toUTF8)

def unlink : Files := Function.update files place none

/-- `read_text` decodes the bytes and translates the ends of the lines. -/
def decode (bytes : ByteArray) : Except PyError String :=
  match String.fromUTF8? bytes with
  | none => .error (.valueError "'utf-8' codec can't decode bytes")
  | some text => .ok (String.ofList (universalNewlines text.toList))

@[simp] theorem write_self (text : String) :
    files.write place text place = some text.toUTF8 := Function.update_self _ _ _

theorem write_of_ne {files : Files} {place query : List String} {text : String}
    (different : query ≠ place) : files.write place text query = files query :=
  Function.update_of_ne different _ _

@[simp] theorem unlink_self : files.unlink place place = none := Function.update_self _ _ _

theorem unlink_of_ne {files : Files} {place query : List String} (different : query ≠ place) :
    files.unlink place query = files query := Function.update_of_ne different _ _

/-- A file that was missing is missing again. -/
theorem unlink_write {files : Files} {place : List String} {text : String}
    (missing : files place = none) : (files.write place text).unlink place = files := by
  rw [unlink, write, Function.update_idem, ← missing, Function.update_eq_self]

section Text

variable (text : String)

theorem fromUTF8?_toUTF8 : String.fromUTF8? text.toUTF8 = some text := by
  have valid : text.toUTF8.IsValidUTF8 := text.isValidUTF8
  rw [String.fromUTF8?, dif_pos valid]
  rfl

theorem toUTF8_of_fromUTF8? {bytes : ByteArray} {text : String}
    (decoded : String.fromUTF8? bytes = some text) : text.toUTF8 = bytes := by
  rw [String.fromUTF8?] at decoded
  split at decoded
  · rw [← Option.some.inj decoded]
    rfl
  · cases decoded

variable (bytes : ByteArray)

/-- The bytes that a text-mode reader writes back. -/
def rewritten : ByteArray :=
  match decode bytes with
  | .error _ => bytes
  | .ok text => text.toUTF8

/-- A file can be read as a text. -/
def Readable : Prop := ∃ text, decode bytes = .ok text

/-- The text of a file has a carriage return. -/
def HasReturn : Prop :=
  ∃ text, String.fromUTF8? bytes = some text ∧ '\r' ∈ text.toList

theorem decode_toUTF8 :
    decode text.toUTF8 = .ok (String.ofList (universalNewlines text.toList)) := by
  rw [decode, fromUTF8?_toUTF8]

theorem readable_toUTF8 : Readable text.toUTF8 := ⟨_, decode_toUTF8 text⟩

/-- A readable file is written back as it was exactly when it has no carriage return. -/
theorem rewritten_eq_self_iff {bytes : ByteArray} (readable : Readable bytes) :
    rewritten bytes = bytes ↔ ¬ HasReturn bytes := by
  obtain ⟨shown, decoded⟩ := readable
  cases found : String.fromUTF8? bytes with
  | none =>
      rw [decode, found] at decoded
      cases decoded
  | some text =>
      have same := toUTF8_of_fromUTF8? found
      have absent : ¬ HasReturn bytes ↔ '\r' ∉ text.toList := by simp [HasReturn, found]
      rw [absent, ← universalNewlines_eq_self_iff, rewritten, decode, found, ← same]
      constructor
      · intro equal
        have texts : String.ofList (universalNewlines text.toList) = text :=
          String.toByteArray_inj.mp equal
        rw [← String.toList_ofList (l := universalNewlines text.toList), texts]
      · intro equal
        simp only [equal, String.ofList_toList]

end Text

end Files

end AgentFabric
