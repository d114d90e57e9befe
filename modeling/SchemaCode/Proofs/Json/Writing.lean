import Mathlib.Data.List.Forall2
import Mathlib.Tactic.IntervalCases
import SchemaCode.Proofs.Json.Values

namespace SchemaCode.Json

namespace Quoted

def escaped (c : Char) : List Char :=
  if c = '"' ∨ c = '\\' then ['\\', c]
  else if c < ' ' then ['\\', 'u', '0', '0', Nat.digitChar (c.toNat / 16), Nat.digitChar (c.toNat % 16)]
  else [c]

lemma hexDigit?_digitChar {n : Nat} (h : n < 16) : hexDigit? (Nat.digitChar n) = some n := by
  interval_cases n <;> rfl

lemma hex_code {n : Nat} (h : n < 256) : Hex ['0', '0', Nat.digitChar (n / 16), Nat.digitChar (n % 16)] n := by
  have hdigits := Hex.digits (hexDigit?_digitChar (by decide : 0 < 16)) (hexDigit?_digitChar (by decide : 0 < 16))
    (hexDigit?_digitChar (by omega : n / 16 < 16)) (hexDigit?_digitChar (by omega : n % 16 < 16))
  rwa [show ((0 * 16 + 0) * 16 + n / 16) * 16 + n % 16 = n by omega] at hdigits

lemma escape_control {c : Char} (h : c < ' ') :
    Escape ['u', '0', '0', Nat.digitChar (c.toNat / 16), Nat.digitChar (c.toNat % 16)] c := by
  have hlt : c.toNat < 32 := h
  have htrailing : isTrailing c.toNat = false := by simp [isTrailing]; omega
  have hleading : isLeading c.toNat = false := by simp [isLeading]; omega
  have hescape := Escape.unicode (hex_code (by omega : c.toNat < 256)) htrailing hleading
  rwa [Char.ofNat_toNat] at hescape

lemma spells_escaped (cs : List Char) : Spells (cs.flatMap escaped) cs := by
  induction cs with
  | nil => exact .nil
  | cons c cs ih =>
    rw [List.flatMap_cons, escaped]
    split
    · rename_i hc
      have hsimple : simpleEscape? c = some c := by
        rcases hc with rfl | rfl <;> rfl
      exact .escape (.simple hsimple) ih
    split
    · rename_i hcontrol
      exact .escape (escape_control hcontrol) ih
    · rename_i hc hcontrol
      obtain ⟨hquote, hescape⟩ := not_or.mp hc
      exact .plain hquote hescape hcontrol ih

def written (s : String) : List Char := s.toList.flatMap escaped

lemma spells_written (s : String) : Spells (written s) s.toList := spells_escaped s.toList

end Quoted

def joined (ts : List (List Char)) : List Char := [','].intercalate ts

lemma blank_nil : Blank [] := List.forall_mem_nil _

variable {α : Type} {P : List Char → α → Prop}

lemma items_joined {ts : List (List Char)} {as : List α} (h : List.Forall₂ P ts as) : Items P (joined ts) as := by
  have hlisted : ∀ {t a ts as}, P t a → List.Forall₂ P ts as → Listed P (joined (t :: ts)) (a :: as) := by
    intro t a ts as ht h
    induction h generalizing t a with
    | nil =>
      have hone := Listed.one blank_nil ht blank_nil
      rw [List.append_nil] at hone
      rw [joined, List.intercalate_singleton]
      exact hone
    | cons ht' h ih =>
      have hmore := Listed.more blank_nil ht blank_nil (ih ht')
      rw [joined, List.intercalate_cons_cons, List.append_assoc]
      exact hmore
  cases h with
  | nil => exact .none blank_nil
  | cons ht h => exact .some (hlisted ht h)

def memberText (key : String) (t : List Char) : List Char := '"' :: (Quoted.written key ++ '"' :: ':' :: t)

lemma memberText_spells (key : String) {t : List Char} {a : α} (ht : P t a) :
    MemberText P (memberText key t) (key, a) := by
  have hmember := MemberText.mk (Quoted.spells_written key) blank_nil blank_nil ht
  rwa [String.ofList_toList] at hmember

structure Written (depth : Nat) where
  text : List Char
  value : Value
  spells : ValueText depth text value

namespace Written

variable {depth : Nat}

def scalar {t : List Char} {x : Scalar} (h : ScalarText t x) : Written depth where
  text := t
  value := .scalar x
  spells := by
    cases depth with
    | zero => exact ⟨x, h, rfl⟩
    | succ depth => exact .scalar h

def null : Written depth := scalar .null

def bool : Bool → Written depth
  | true => scalar .true
  | false => scalar .false

def string (s : String) : Written depth :=
  scalar (t := '"' :: (Quoted.written s ++ ['"'])) (x := .string s) (by
    have hstring := ScalarText.string (Quoted.spells_written s)
    rwa [String.ofList_toList] at hstring)

def zero : Written depth :=
  scalar (t := ['0']) (x := .number (.integer 0)) (.number
    ⟨⟨['0'], ⟨['0'], [], .zero, ⟨[], [], .none, .none, rfl⟩, rfl⟩, .inl rfl⟩, rfl⟩)

lemma forall₂_items (ws : List (Written depth)) :
    List.Forall₂ (ValueText depth) (ws.map (·.text)) (ws.map (·.value)) := by
  rw [List.forall₂_map_left_iff, List.forall₂_map_right_iff, List.forall₂_same]
  exact fun w _ => w.spells

def array (ws : List (Written depth)) : Written (depth + 1) where
  text := '[' :: (joined (ws.map (·.text)) ++ [']'])
  value := .array (ws.map (·.value))
  spells := .array (items_joined (forall₂_items ws))

def object (ms : List (String × Written depth)) : Written (depth + 1) where
  text := '\x7b' :: (joined (ms.map fun m => memberText m.1 m.2.text) ++ ['\x7d'])
  value := .object (ms.map fun m => (m.1, m.2.value))
  spells := .object (items_joined (by
    rw [List.forall₂_map_left_iff, List.forall₂_map_right_iff, List.forall₂_same]
    exact fun m _ => memberText_spells m.1 m.2.spells))

end Written

end SchemaCode.Json
