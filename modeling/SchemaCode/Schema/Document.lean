import SchemaCode.Json.Reader
import SchemaCode.Json.Skip
import SchemaCode.Schema.Entry

/-! The text of a document is read section by section. What the entries of a section say is looked at afterwards. -/

namespace SchemaCode

open Json (Value Fault Cause Outcome Found Scalar Bracket)

inductive SectionKey where
  | name
  | tables
  | relationships
  deriving DecidableEq

namespace SectionKey

def all : List SectionKey := [.name, .tables, .relationships]

def spelling : SectionKey → String
  | .name => "name"
  | .tables => "tables"
  | .relationships => "relationships"

def ofString? (s : String) : Option SectionKey := all.find? (·.spelling == s)

end SectionKey

inductive DocumentSection where
  | name (name : Option String)
  | tables (entries : List Value)
  | relationships (entries : List Value)

namespace DocumentSection

def key : DocumentSection → SectionKey
  | .name _ => .name
  | .tables _ => .tables
  | .relationships _ => .relationships

def readScalar (expected : String) (s : List Char) : Outcome Scalar :=
  match s with
  | [] => .error (.next .endInValue [])
  | c :: rest =>
    if c = '[' then .error (.here (.wrongType .array expected) (c :: rest))
    else if c = '\x7b' then .error (.here (.wrongType .object expected) (c :: rest))
    else Scalar.read (c :: rest)

def readName (s : List Char) : Outcome (Option String) :=
  match readScalar "a string" (Json.skipBlank s) with
  | .error f => .error f
  | .ok (.null, rest) => .ok (none, rest)
  | .ok (.string t, rest) => .ok (some t, rest)
  | .ok (x, rest) => .error (.here (.wrongType (.scalar x) "a string") rest)

/-- How many brackets may be open in an entry: two are open around it, of at most 127. -/
def entryDepth : Nat := 125

def readEntryList (s : List Char) : Outcome (List Value) :=
  match Json.skipBlank s with
  | '[' :: rest => (Value.reader entryDepth).items .list rest
  | rest =>
    match readScalar "a sequence" rest with
    | .error f => .error f
    | .ok (.null, rest) => .ok ([], rest)
    | .ok (x, rest) => .error (.here (.wrongType (.scalar x) "a sequence") rest)

def read (key : SectionKey) (s : List Char) : Outcome DocumentSection :=
  match key with
  | .name => (readName s).map fun p => (.name p.1, p.2)
  | .tables => (readEntryList s).map fun p => (.tables p.1, p.2)
  | .relationships => (readEntryList s).map fun p => (.relationships p.1, p.2)

theorem length_readScalar {expected : String} {s rest : List Char} {x : Scalar}
    (h : readScalar expected s = .ok (x, rest)) : rest.length < s.length := by
  unfold readScalar at h
  split at h
  · cases h
  · split at h
    · cases h
    split at h
    · cases h
    · exact Scalar.length_read h

theorem length_readName {s rest : List Char} {name : Option String}
    (h : readName s = .ok (name, rest)) : rest.length < s.length := by
  have hle := Json.length_skipBlank_le s
  unfold readName at h
  split at h
  · cases h
  · next hx =>
    cases h
    exact Nat.lt_of_lt_of_le (length_readScalar hx) hle
  · next hx =>
    cases h
    exact Nat.lt_of_lt_of_le (length_readScalar hx) hle
  · cases h

theorem length_readEntryList {s rest : List Char} {entries : List Value}
    (h : readEntryList s = .ok (entries, rest)) : rest.length < s.length := by
  have hle := Json.length_skipBlank_le s
  unfold readEntryList at h
  split at h
  · next hb =>
    have := Json.Reader.length_items h
    simp only [hb, List.length_cons] at hle
    omega
  · split at h
    · cases h
    · next hx =>
      cases h
      exact Nat.lt_of_lt_of_le (length_readScalar hx) hle
    · cases h

theorem length_read {key : SectionKey} {s rest : List Char} {found : DocumentSection}
    (h : read key s = .ok (found, rest)) : rest.length < s.length := by
  cases key with
  | name =>
    cases hx : readName s with
    | error f => simp [read, hx, Except.map] at h
    | ok p =>
      simp only [read, hx, Except.map, Except.ok.injEq, Prod.mk.injEq] at h
      exact h.2 ▸ length_readName hx
  | tables =>
    cases hx : readEntryList s with
    | error f => simp [read, hx, Except.map] at h
    | ok p =>
      simp only [read, hx, Except.map, Except.ok.injEq, Prod.mk.injEq] at h
      exact h.2 ▸ length_readEntryList hx
  | relationships =>
    cases hx : readEntryList s with
    | error f => simp [read, hx, Except.map] at h
    | ok p =>
      simp only [read, hx, Except.map, Except.ok.injEq, Prod.mk.injEq] at h
      exact h.2 ▸ length_readEntryList hx

end DocumentSection

abbrev Sections := List DocumentSection

namespace Sections

def has (read : Sections) (key : SectionKey) : Bool := read.any (·.key == key)

/-- A section that is given again is noticed behind its key; a closing bracket there is taken along. -/
def repeated (key : SectionKey) (s : List Char) : Fault :=
  match Json.skipBlank s with
  | '\x7d' :: rest => .here (.duplicateField key.spelling) rest
  | rest => .here (.duplicateField key.spelling) rest

def readSection (read : Sections) (key : SectionKey) (s : List Char) :
    Sections × Except Fault (List Char) :=
  match DocumentSection.read key s with
  | .error f => (read, .error f)
  | .ok (found, rest) => (read ++ [found], .ok rest)

def readMember (read : Sections) (s : List Char) : Sections × Except Fault (List Char) :=
  match Json.readKey s with
  | .error f => (read, .error f)
  | .ok (name, rest) =>
    match SectionKey.ofString? name with
    | none =>
      match Json.skipColon rest with
      | .error f => (read, .error f)
      | .ok rest => (read, Json.Skip.value rest)
    | some key =>
      if read.has key then (read, .error (repeated key rest))
      else
        match Json.skipColon rest with
        | .error f => (read, .error f)
        | .ok rest => read.readSection key rest

theorem length_readSection {read st : Sections} {key : SectionKey} {s rest : List Char}
    (h : read.readSection key s = (st, .ok rest)) : rest.length < s.length := by
  unfold readSection at h
  split at h
  · cases h
  · next hx =>
    cases h
    exact DocumentSection.length_read hx

theorem length_readMember {read st : Sections} {s rest : List Char}
    (h : read.readMember s = (st, .ok rest)) : rest.length < s.length := by
  unfold readMember at h
  split at h
  · cases h
  · next hk =>
    have hk := Json.length_readKey hk
    split at h
    · split at h
      · cases h
      · next hc =>
        simp only [Prod.mk.injEq] at h
        exact Nat.lt_trans (Json.Skip.length_value h.2) (Nat.lt_trans (Json.length_skipColon hc) hk)
    · split at h
      · cases h
      · split at h
        · cases h
        · next hc =>
          exact Nat.lt_trans (length_readSection h) (Nat.lt_trans (Json.length_skipColon hc) hk)

def member : Json.Step Sections := ⟨readMember, length_readMember⟩

def readEnd (s : List Char) : Except Fault (List Char) :=
  match Json.skipBlank s with
  | [] => .error (.next .endInList [])
  | c :: rest =>
    if c = ']' then .ok rest
    else if c = ',' then
      match Json.skipBlank rest with
      | ']' :: rest => .error (.next .trailingComma (']' :: rest))
      | rest => .error (.next .trailingCharacters rest)
    else .error (.next .trailingCharacters (c :: rest))

/-- The sections of a document that is a list, from behind its bracket or a section on. Sections
that are missing at the end are as good as null. -/
def readPositions (read : Sections) : List SectionKey → List Char → Sections × Except Fault (List Char)
  | [], s => (read, readEnd s)
  | key :: keys, s =>
    match Json.skipBlank s with
    | [] => (read, .error (.next .endInList []))
    | c :: rest =>
      if c = ']' then (read, .ok rest)
      else
        let start : Except Fault (List Char) :=
          if read.isEmpty then .ok s
          else if c ≠ ',' then .error (.next .noListSeparator (c :: rest))
          else match Json.skipBlank rest with
            | [] => .error (.next .endInValue [])
            | ']' :: rest => .error (.next .trailingComma (']' :: rest))
            | _ => .ok rest
        match start with
        | .error f => (read, .error f)
        | .ok s =>
          match read.readSection key s with
          | (read, .ok rest) => readPositions read keys rest
          | (read, .error f) => (read, .error f)

def readDocument (s : List Char) : Sections × Except Fault (List Char) :=
  match Json.skipBlank s with
  | '[' :: rest => readPositions [] SectionKey.all rest
  | '\x7b' :: rest => Json.items .object member [] rest
  | rest =>
    match DocumentSection.readScalar "struct Schema" rest with
    | .error f => ([], .error f)
    | .ok (x, rest) => ([], .error (.here (.wrongType (.scalar x) "struct Schema") rest))

end Sections

structure Document where
  sections : Sections
  fault : Option Fault

namespace Document

def read (text : String) : Document :=
  match Sections.readDocument text.toList with
  | (sections, .error f) => ⟨sections, some f⟩
  | (sections, .ok rest) =>
    match Json.skipBlank rest with
    | [] => ⟨sections, none⟩
    | rest => ⟨sections, some (.next .trailingCharacters rest)⟩

def addSection (s : Schema × List Notice) : DocumentSection → Schema × List Notice
  | .name name => ({ s.1 with name }, s.2)
  | .tables entries =>
    let (tables, notices) := readEntries .table Table.read entries
    ({ s.1 with tables }, s.2 ++ notices)
  | .relationships entries =>
    let (relationships, notices) := readEntries .relationship Relationship.read entries
    ({ s.1 with relationships }, s.2 ++ notices)

def contents (d : Document) : Schema × List Notice := d.sections.foldl addSection ({}, [])

end Document

namespace Schema

def ofText (text : String) : Except String Schema :=
  let d := Document.read text
  match d.fault with
  | some f => .error (f.message text)
  | none => .ok d.contents.1

def ofTextNotices (text : String) : List Notice := (Document.read text).contents.2

end Schema

end SchemaCode
