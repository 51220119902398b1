import Fieldwise.Table
import Fieldwise.Yaml.Scalar

/-!
# Tags

A tag is written as a handle, which stands for a known beginning, and a suffix. Any byte of it may
be spelled by a percent sign and two digits, as long as the bytes follow the pattern of encoded
characters; a zero byte ends what it says. A tag that begins with an exclamation mark is local to
the document and names what it likes.
-/

namespace Fieldwise.Yaml

/-- A tag by its bytes, which need not form a text. -/
structure Tag where
  bytes : List UInt8
  deriving DecidableEq, Repr

namespace Tag

/-- The tag with the bytes of a text. -/
def ofString (text : String) : Tag := ⟨text.toUTF8.data.toList⟩

/-- The tag of the omitted value. -/
def null : Tag := ofString "tag:yaml.org,2002:null"

/-- The tag of flags. -/
def flag : Tag := ofString "tag:yaml.org,2002:bool"

/-- What a local tag names: the text after its exclamation mark. -/
def localName? (tag : Tag) : Option String :=
  match tag.bytes with
  | [] => none
  | first :: name => if first.toNat = '!'.toNat then String.fromUTF8? ⟨name.toArray⟩ else none

/-- The handles that every document knows. -/
def standardHandles : Table (List UInt8) := [
  ("!", (ofString "!").bytes), ("!!", (ofString "tag:yaml.org,2002:").bytes)]

/-- The tag of a handle and a suffix, by the handles that a document declares and the standard
ones. Without a handle the suffix is the whole tag. -/
def resolve? (declared : Table (List UInt8)) (handle : Option String) (suffix : List UInt8) :
    Option Tag :=
  match handle with
  | none => some ⟨suffix⟩
  | some handle =>
    (Table.find? (declared ++ standardHandles) handle).map fun beginning ↦ ⟨beginning ++ suffix⟩

end Tag

/-- The number of bytes that must follow a byte in an encoded character that begins with it. -/
def following? (lead : Nat) : Option Nat :=
  if lead < 0x80 then some 0
  else if 0xC0 ≤ lead ∧ lead < 0xE0 then some 1
  else if 0xE0 ≤ lead ∧ lead < 0xF0 then some 2
  else if 0xF0 ≤ lead ∧ lead < 0xF8 then some 3
  else none

/-- The number of bytes still owed after a spelled byte, when so many were owed before it. -/
def owedAfter? (owed byte : Nat) : Option Nat :=
  match owed with
  | 0 => following? byte
  | owed + 1 => if 0x80 ≤ byte ∧ byte < 0xC0 then some owed else none

/-- The byte spelled by two hexadecimal digits. -/
def byte? (a b : Char) : Option Nat := do
  return 16 * (← Text.hexDigit? a) + (← Text.hexDigit? b)

/-- A character that stands for itself in a tag; commas and brackets do so where `listed`. -/
def isTagChar (listed : Bool) (c : Char) : Bool :=
  isWordChar c || ";/?:@&=+$.!~*'()".contains c || (listed && ",[]".contains c)

/-- The bytes of the part of a tag that comes next, when `owed` bytes are owed to the character in
front, and what follows it. -/
def tagBytes? (listed : Bool) (owed : Nat) : List Place → Option (List UInt8 × List Place)
  | [] => if owed = 0 then some ([], []) else none
  | p :: rest =>
    if p.char = '%' then
      match rest with
      | a :: b :: rest => do
        let byte ← byte? a.char b.char
        let (bytes, after) ← tagBytes? listed (← owedAfter? owed byte) rest
        some (UInt8.ofNat byte :: bytes, after)
      | _ => none
    else if owed ≠ 0 then none
    else if isTagChar listed p.char then do
      let (bytes, after) ← tagBytes? listed 0 rest
      some (UInt8.ofNat p.char.toNat :: bytes, after)
    else some ([], p :: rest)

/-- What follows a part of a tag is no longer than the text from it on. -/
theorem length_le_of_tagBytes {listed : Bool} {owed : Nat} {bytes : List UInt8}
    {rest after : List Place} (h : tagBytes? listed owed rest = some (bytes, after)) :
    after.length ≤ rest.length := by
  induction hn : rest.length using Nat.strongRecOn generalizing owed bytes rest with
  | ind n ih =>
    subst hn
    cases rest with
    | nil =>
      rw [tagBytes?] at h
      split at h <;> cases h
      exact Nat.le_refl 0
    | cons p rest =>
      unfold tagBytes? at h
      split at h
      · split at h
        · next a b rest =>
          simp only [Option.bind_eq_bind, Option.bind_eq_some_iff, Option.some.injEq,
            Prod.mk.injEq] at h
          obtain ⟨_, _, owed, _, _, hr, _, rfl⟩ := h
          have := ih rest.length (by simp only [List.length_cons]; omega) hr rfl
          simp only [List.length_cons]
          omega
        · cases h
      · split at h
        · cases h
        · split at h
          · simp only [Option.bind_eq_bind, Option.bind_eq_some_iff, Option.some.injEq,
              Prod.mk.injEq] at h
            obtain ⟨_, hr, _, rfl⟩ := h
            have := ih rest.length (by simp only [List.length_cons]; omega) hr rfl
            simp only [List.length_cons]
            omega
          · cases h
            exact Nat.le_refl _

/-- A part of a tag that must not be empty, up to its first zero byte. -/
def tagPart? (listed : Bool) (rest : List Place) : Option (List UInt8 × List Place) := do
  let (bytes, after) ← tagBytes? listed 0 rest
  if bytes.isEmpty then none else some (bytes.takeWhile (· != 0), after)

/-- The handle that begins after an exclamation mark: word characters and another mark. -/
def handle? (rest : List Place) : Option (String × List Place) :=
  match rest.dropWhile fun p ↦ isWordChar p.char with
  | p :: after =>
    if p.char == '!' then
      let word := (rest.takeWhile fun p ↦ isWordChar p.char).map Place.char
      some (String.ofList ('!' :: word ++ ['!']), after)
    else none
  | [] => none

/-- The handle and suffix of a tag that begins after an exclamation mark. The mark alone is a whole
tag. -/
def tagParts? (rest : List Place) : Option ((Option String × List UInt8) × List Place) :=
  match rest with
  | [] => some ((none, [UInt8.ofNat '!'.toNat]), [])
  | p :: inner =>
    if p.char == '<' then do
      let (suffix, after) ← tagPart? true inner
      match after with
      | q :: after => if q.char == '>' then some ((none, suffix), after) else none
      | [] => none
    else match handle? (p :: inner) with
      | some (handle, after) =>
        (tagPart? false after).map fun (suffix, after) ↦ ((some handle, suffix), after)
      | none => do
        let (bytes, after) ← tagBytes? false 0 (p :: inner)
        let suffix := bytes.takeWhile (· != 0)
        if suffix.isEmpty then some ((none, [UInt8.ofNat '!'.toNat]), after)
        else some ((some "!", suffix), after)

/-- What follows a part of a tag is no longer than the text from it on. -/
theorem length_le_of_tagPart {listed : Bool} {bytes : List UInt8}
    {rest after : List Place} (h : tagPart? listed rest = some (bytes, after)) :
    after.length ≤ rest.length := by
  obtain ⟨_, hb, h⟩ := Option.bind_eq_some_iff.1 h
  have := length_le_of_tagBytes hb
  grind

/-- What follows a handle is no longer than the text after its first mark. -/
theorem length_le_of_handle {rest after : List Place} {handle : String}
    (h : handle? rest = some (handle, after)) : after.length ≤ rest.length := by
  have := length_dropPlaces_le (fun p ↦ isWordChar p.char) rest
  grind [handle?]

/-- What follows a tag is no longer than the text after its exclamation mark. -/
theorem length_le_of_tagParts {rest after : List Place} {parts : Option String × List UInt8}
    (h : tagParts? rest = some (parts, after)) : after.length ≤ rest.length := by
  cases rest with
  | nil => simp_all [tagParts?]
  | cons p inner =>
    simp only [tagParts?] at h
    repeat' split at h
    · obtain ⟨_, hp, h⟩ := Option.bind_eq_some_iff.1 h
      have := length_le_of_tagPart hp
      grind
    · rename_i hh
      obtain ⟨_, hp, h⟩ := Option.map_eq_some_iff.1 h
      have := length_le_of_handle hh
      have := length_le_of_tagPart hp
      grind
    · obtain ⟨_, hb, h⟩ := Option.bind_eq_some_iff.1 h
      have := length_le_of_tagBytes hb
      grind

end Fieldwise.Yaml
