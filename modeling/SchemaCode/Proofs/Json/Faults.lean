import Mathlib.Data.List.Basic
import SchemaCode.Json.Reader
import SchemaCode.Json.Skip
import SchemaCode.Proofs.Text.Lines

namespace SchemaCode.Json

open Text (OneLine)

def Cause.IsForm : Cause → Prop
  | .wrongType .. | .duplicateField _ => False
  | _ => True

lemma Cause.oneLine_message {c : Cause} (h : c.IsForm) : OneLine c.message := by
  cases c with
  | wrongType => cases h
  | duplicateField => cases h
  | _ => decide

lemma Scalar.oneLine_describe (x : Scalar) : OneLine x.describe := by
  cases x with
  | null => decide
  | bool b => cases b <;> decide
  | number n =>
    cases n with
    | integer n =>
      exact Text.oneLine_append.mpr ⟨Text.oneLine_append.mpr ⟨by decide, Text.oneLine_toString_int n⟩, by decide⟩
    | float x =>
      exact Text.oneLine_append.mpr ⟨Text.oneLine_append.mpr ⟨by decide, Text.oneLine_float numberLayout x⟩, by decide⟩
  | string s => exact Text.oneLine_append.mpr ⟨by decide, Text.oneLine_quoted s⟩

lemma Found.oneLine_describe (found : Found) : OneLine found.describe := by
  cases found with
  | scalar x => exact x.oneLine_describe
  | array => decide
  | object => decide

lemma Bracket.isForm_unfinished (b : Bracket) : b.unfinished.IsForm := by
  cases b <;> exact trivial

lemma Bracket.isForm_unseparated (b : Bracket) : b.unseparated.IsForm := by
  cases b <;> exact trivial

/-- Whatever a reader made of a text, its fault, if there is one, has a cause of `P`. -/
inductive FailsFor {α : Type} (P : Cause → Prop) : Except Fault α → Prop
  | ok (a : α) : FailsFor P (.ok a)
  | error {f : Fault} (h : P f.cause) : FailsFor P (.error f)

abbrev MindsForm {α : Type} (o : Except Fault α) : Prop := FailsFor Cause.IsForm o

namespace FailsFor

variable {α β : Type} {P Q : Cause → Prop} {o : Except Fault α} {f : Fault}

lemma of_error (h : FailsFor P o) (ho : o = .error f) : P f.cause := by
  subst ho
  cases h with
  | error h => exact h

lemma passed (h : FailsFor P o) (ho : o = .error f) : FailsFor P (.error f : Except Fault β) :=
  .error (h.of_error ho)

lemma mono (h : FailsFor P o) (hPQ : ∀ c, P c → Q c) : FailsFor Q o := by
  cases h with
  | ok a => exact .ok a
  | error h => exact .error (hPQ _ h)

lemma map (h : FailsFor P o) (g : α → β) : FailsFor P (o.map g) := by
  cases h with
  | ok a => exact .ok (g a)
  | error h => exact .error h

end FailsFor

variable {α σ : Type}

/-! Readers, in the order in which they call one another: each needs to know only of those that it calls itself. -/

namespace Quoted

lemma isForm_hexFault (s : List Char) : (hexFault s).cause.IsForm := by
  unfold hexFault
  split <;> exact trivial

lemma mindsForm_readHex (s : List Char) : MindsForm (readHex s) := by
  unfold readHex
  split
  · split
    · exact .ok _
    · exact .error (isForm_hexFault _)
  · exact .error (isForm_hexFault _)

lemma mindsForm_readTrailing (leading : Nat) (s : List Char) : MindsForm (readTrailing leading s) := by
  unfold readTrailing
  split
  · exact .error trivial
  · split
    · next hn => exact (mindsForm_readHex _).passed hn
    · split
      · exact .ok _
      · exact .error trivial
  · exact .error trivial
  · exact .error trivial
  · exact .error trivial

lemma mindsForm_readUnicode (s : List Char) : MindsForm (readUnicode s) := by
  unfold readUnicode
  split
  · next hn => exact (mindsForm_readHex s).passed hn
  · split
    · exact .error trivial
    · split
      · exact mindsForm_readTrailing _ _
      · exact .ok _

lemma mindsForm_readEscape (s : List Char) : MindsForm (readEscape s) := by
  unfold readEscape
  split
  · exact .error trivial
  · exact mindsForm_readUnicode _
  · split
    · exact .ok _
    · exact .error trivial

lemma mindsForm_readFrom (before s : List Char) : MindsForm (readFrom before s) := by
  fun_induction readFrom before s with
  | case1 => exact .error trivial
  | case2 => exact .ok _
  | case3 _ _ _ hc => exact (mindsForm_readEscape _).passed hc
  | case4 _ _ _ _ _ _ ih => exact ih
  | case5 => exact .error trivial
  | case6 _ _ _ _ _ _ ih => exact ih

lemma mindsForm_read (s : List Char) : MindsForm (read s) := mindsForm_readFrom [] s

lemma mindsForm_skipEscape (s : List Char) : MindsForm (skipEscape s) := by
  unfold skipEscape
  split
  · exact .error trivial
  · split
    · next hn => exact (mindsForm_readHex _).passed hn
    · exact .ok _
  · split
    · exact .ok _
    · exact .error trivial

lemma mindsForm_skip (s : List Char) : MindsForm (skip s) := by
  fun_induction skip s with
  | case1 => exact .error trivial
  | case2 => exact .ok _
  | case3 _ _ hc => exact (mindsForm_skipEscape _).passed hc
  | case4 _ _ _ _ ih => exact ih
  | case5 => exact .error trivial
  | case6 _ _ _ _ _ ih => exact ih

end Quoted

namespace Number

lemma mindsForm_finish (d : Numeral) (s : List Char) : MindsForm (finish d s) := by
  unfold finish
  split
  · exact .ok _
  · exact .error trivial

lemma mindsForm_hugeExponent (d : Numeral) (negative : Bool) (s : List Char) :
    MindsForm (hugeExponent d negative s) := by
  unfold hugeExponent
  split
  · exact .error trivial
  · exact .ok _

lemma mindsForm_exponentDigits (d : Numeral) (negative : Bool) (s : List Char) :
    MindsForm (exponentDigits d negative s) := by
  unfold exponentDigits
  split
  · exact .error trivial
  · split
    · exact .error trivial
    · dsimp only
      split
      · exact mindsForm_hugeExponent _ _ _
      · exact mindsForm_finish _ _

lemma mindsForm_exponentPart (d : Numeral) (s : List Char) : MindsForm (exponentPart d s) := by
  unfold exponentPart
  split <;> exact mindsForm_exponentDigits _ _ _

lemma mindsForm_exponentOrEnd (d : Numeral) (s : List Char) : MindsForm (exponentOrEnd d s) := by
  unfold exponentOrEnd
  split
  · exact mindsForm_exponentPart _ _
  · exact mindsForm_exponentPart _ _
  · exact mindsForm_finish _ _

lemma mindsForm_fractionPart (d : Numeral) (s : List Char) : MindsForm (fractionPart d s) := by
  unfold fractionPart
  split
  · exact .error trivial
  · split
    · exact .error trivial
    · exact mindsForm_exponentOrEnd _ _

lemma mindsForm_afterInteger (negative : Bool) (significand dropped : Nat) (s : List Char) :
    MindsForm (afterInteger negative significand dropped s) := by
  unfold afterInteger
  dsimp only
  split
  · exact mindsForm_fractionPart _ _
  · exact mindsForm_exponentPart _ _
  · exact mindsForm_exponentPart _ _
  · split
    · exact .ok _
    · exact mindsForm_finish _ _

lemma mindsForm_readDigits (negative : Bool) (s : List Char) : MindsForm (readDigits negative s) := by
  unfold readDigits
  split
  · exact .error trivial
  · split
    · exact .error trivial
    · exact mindsForm_afterInteger _ _ _ _
  · split
    · exact .error trivial
    · exact mindsForm_afterInteger _ _ _ _

lemma mindsForm_read (s : List Char) : MindsForm (read s) := by
  unfold read
  split <;> exact mindsForm_readDigits _ _

lemma mindsForm_skipExponent (s : List Char) : MindsForm (skipExponent s) := by
  unfold skipExponent
  dsimp only
  split
  · exact .ok _
  · exact .error trivial

lemma mindsForm_skipExponentOrEnd (s : List Char) : MindsForm (skipExponentOrEnd s) := by
  unfold skipExponentOrEnd
  split
  · exact mindsForm_skipExponent _
  · exact mindsForm_skipExponent _
  · exact .ok _

lemma mindsForm_skipFraction (s : List Char) : MindsForm (skipFraction s) := by
  unfold skipFraction
  split
  · exact mindsForm_skipExponentOrEnd _
  · exact .error trivial

lemma mindsForm_skipAfterInteger (s : List Char) : MindsForm (skipAfterInteger s) := by
  unfold skipAfterInteger
  split
  · exact mindsForm_skipFraction _
  · exact mindsForm_skipExponentOrEnd _

lemma mindsForm_skipDigits (s : List Char) : MindsForm (skipDigits s) := by
  unfold skipDigits
  split
  · split
    · exact .error trivial
    · exact mindsForm_skipAfterInteger _
  · split
    · exact mindsForm_skipAfterInteger _
    · exact .error trivial

lemma mindsForm_skip (s : List Char) : MindsForm (skip s) := by
  unfold skip
  split <;> exact mindsForm_skipDigits _

end Number

namespace Scalar

lemma mindsForm_skipWord (letters s : List Char) : MindsForm (skipWord letters s) := by
  fun_induction skipWord letters s with
  | case1 => exact .ok _
  | case2 => exact .error trivial
  | case3 _ _ _ _ _ ih => exact ih
  | case4 => exact .error trivial

lemma mindsForm_readWord (letters : List Char) (x : Scalar) (s : List Char) : MindsForm (readWord letters x s) :=
  (mindsForm_skipWord letters s).map _

lemma mindsForm_read (s : List Char) : MindsForm (read s) := by
  unfold read
  split
  · exact .error trivial
  · split
    · exact mindsForm_readWord _ _ _
    split
    · exact mindsForm_readWord _ _ _
    split
    · exact mindsForm_readWord _ _ _
    split
    · exact (Quoted.mindsForm_read _).map _
    split
    · exact (Number.mindsForm_read _).map _
    · exact .error trivial

lemma mindsForm_skip (s : List Char) : MindsForm (skip s) := by
  unfold skip
  split
  · exact .error trivial
  · split
    · exact mindsForm_skipWord _ _
    split
    · exact mindsForm_skipWord _ _
    split
    · exact mindsForm_skipWord _ _
    split
    · exact Quoted.mindsForm_skip _
    split
    · exact Number.mindsForm_skip _
    · exact .error trivial

end Scalar

section Items

variable {P : Cause → Prop} {item : Step σ}

lemma failsFor_itemsFrom (b : Bracket) (hform : ∀ c : Cause, c.IsForm → P c)
    (hitem : ∀ st s, FailsFor P (item.run st s).2) (st : σ) (s : List Char) :
    FailsFor P (itemsFrom b item st s).2 := by
  fun_induction itemsFrom b item st s with
  | case1 st s st₁ f hi =>
    have hrun := hitem st s
    rw [hi] at hrun
    exact hrun
  | case2 => exact .error (hform _ b.isForm_unfinished)
  | case3 => exact .ok _
  | case4 => exact .error (hform _ b.isForm_unseparated)
  | case5 => exact .error (hform _ trivial)
  | case6 => exact .error (hform _ trivial)
  | case7 _ _ _ _ _ _ _ _ _ _ _ _ _ _ _ _ _ ih => exact ih

lemma failsFor_items (b : Bracket) (hform : ∀ c : Cause, c.IsForm → P c)
    (hitem : ∀ st s, FailsFor P (item.run st s).2) (st : σ) (s : List Char) :
    FailsFor P (items b item st s).2 := by
  unfold items
  split
  · exact .error (hform _ b.isForm_unfinished)
  · split
    · exact .ok _
    · exact failsFor_itemsFrom b hform hitem st s

end Items

lemma mindsForm_readKey (s : List Char) : MindsForm (readKey s) := by
  unfold readKey
  split
  · exact Quoted.mindsForm_read _
  · exact .error trivial

lemma mindsForm_skipColon (s : List Char) : MindsForm (skipColon s) := by
  unfold skipColon
  split
  · exact .error trivial
  · split
    · exact .ok _
    · exact .error trivial

def Reader.MindsForm (r : Reader α) : Prop := ∀ s, Json.MindsForm (r.read s)

namespace Reader

variable {r : Reader α}

lemma MindsForm.collect (hr : r.MindsForm) (before : List α) (s : List Char) :
    Json.MindsForm (r.collect.run before s).2 := by
  unfold Reader.collect
  dsimp only
  split
  · next hs => exact (hr s).passed hs
  · exact .ok _

lemma MindsForm.items (hr : r.MindsForm) (b : Bracket) (s : List Char) : Json.MindsForm (r.items b s) := by
  have hitems := failsFor_items b (fun _ h => h) hr.collect [] s
  unfold Reader.items
  split
  · next hs =>
    rw [hs] at hitems
    exact hitems.passed rfl
  · exact .ok _

lemma MindsForm.member (hr : r.MindsForm) : r.member.MindsForm := by
  intro s
  unfold Reader.member readMember
  dsimp only
  split
  · next hkey => exact (mindsForm_readKey s).passed hkey
  · split
    · next hcolon => exact (mindsForm_skipColon _).passed hcolon
    · split
      · next hvalue => exact (hr _).passed hvalue
      · exact .ok _

end Reader

namespace Value

lemma mindsForm_readWith {nested : Option (Reader Value)} (hnested : ∀ r ∈ nested, r.MindsForm) (s : List Char) :
    MindsForm (readWith nested s) := by
  unfold readWith
  split
  · exact .error trivial
  · split
    · split
      · exact .error trivial
      · split
        · next r _ _ hitems => exact ((hnested r rfl).items _ _).passed hitems
        · exact .ok _
    split
    · split
      · exact .error trivial
      · split
        · next r _ _ hitems => exact ((hnested r rfl).member.items _ _).passed hitems
        · exact .ok _
    split
    · next hx => exact (Scalar.mindsForm_read _).passed hx
    · exact .ok _

lemma mindsForm_reader (depth : Nat) : (reader depth).MindsForm := by
  intro s
  -- items are read with one bracket less to open, so they are at fault for their form alone
  induction depth generalizing s with
  | zero =>
    have hnone : ∀ r ∈ (none : Option (Reader Value)), r.MindsForm := fun r hr => nomatch hr
    exact mindsForm_readWith hnone s
  | succ depth ih =>
    have hnested : ∀ r ∈ some (reader depth), r.MindsForm := by
      rintro r ⟨⟩
      exact ih
    exact mindsForm_readWith hnested s

end Value

namespace Skip

lemma mindsForm_skipKey (s : List Char) : MindsForm (skipKey s) := by
  unfold skipKey
  split
  · exact .error trivial
  · split
    · exact .error trivial
    · split
      · next hkey => exact (Quoted.mindsForm_skip _).passed hkey
      · exact mindsForm_skipColon _

lemma mindsForm_nextItem (b : Bracket) (opened : List Bracket) (s : List Char) :
    MindsForm (nextItem b opened s) := by
  unfold nextItem
  split
  · exact .ok _
  · split
    · next hkey => exact (mindsForm_skipKey s).passed hkey
    · exact .ok _

lemma mindsForm_afterValue (opened : List Bracket) (s : List Char) : MindsForm (afterValue opened s) := by
  induction opened generalizing s with
  | nil => exact .ok _
  | cons b opened ih =>
    unfold afterValue
    split
    · exact .error b.isForm_unfinished
    · split
      · exact mindsForm_nextItem _ _ _
      · split
        · exact ih _
        · exact .error b.isForm_unseparated

lemma mindsForm_afterOpening (b : Bracket) (opened : List Bracket) (s : List Char) :
    MindsForm (afterOpening b opened s) := by
  unfold afterOpening
  split
  · exact .error b.isForm_unfinished
  · split
    · exact mindsForm_afterValue _ _
    · exact mindsForm_nextItem _ _ _

lemma mindsForm_advance (opened : List Bracket) (s : List Char) : MindsForm (advance opened s) := by
  unfold advance
  split
  · exact .error trivial
  · split
    · exact mindsForm_afterOpening _ _ _
    split
    · exact mindsForm_afterOpening _ _ _
    split
    · next hx => exact (Scalar.mindsForm_skip _).passed hx
    · exact mindsForm_afterValue _ _

lemma mindsForm_run (opened : List Bracket) (s : List Char) : MindsForm (run opened s) := by
  fun_induction run opened s with
  | case1 opened s f hf => exact (mindsForm_advance opened s).passed hf
  | case2 => exact .ok _
  | case3 _ _ _ _ _ _ ih => exact ih

lemma mindsForm_value (s : List Char) : MindsForm (value s) := mindsForm_run [] s

end Skip

end SchemaCode.Json
