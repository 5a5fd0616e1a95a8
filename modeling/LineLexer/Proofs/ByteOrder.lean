import LineLexer.Text.Basic
import Mathlib.Tactic.SplitIfs

/-!
**Texts in the order of their bytes.**

Texts are compared character by character, and their bytes in UTF-8 byte by byte. A character of a
greater number is written with a greater byte at the first place where the two differ, so both ways
give the same order, whatever follows.

* `Text.utf8`: the bytes of a text;
* `Text.utf8EncodeChar_append_lt`: the bytes of two characters;
* `Text.utf8_lt_of_lt`: the bytes of two texts.
-/

namespace LineLexer.Text

/-- The bytes of a text in UTF-8. -/
def utf8 (text : String) : List UInt8 := text.toUTF8.data.toList

theorem utf8_eq_flatMap (text : String) :
    utf8 text = text.toList.flatMap String.utf8EncodeChar := by
  unfold utf8
  rw [← String.ofList_toList (s := text), String.toUTF8_eq_toByteArray, String.toByteArray_ofList,
    List.utf8Encode, List.toList_data_toByteArray, String.toList_ofList]

/-- A greater character has the greater bytes, whatever follows. -/
theorem utf8EncodeChar_append_lt {letter other : Char} (less : letter < other)
    (rest more : List UInt8) :
    String.utf8EncodeChar letter ++ rest < String.utf8EncodeChar other ++ more := by
  have below : letter.val.toNat < other.val.toNat := less
  have bounded : other.val.toNat < 0x110000 := by
    rcases other.valid with low | ⟨-, high⟩
    · exact Nat.lt_trans low (by decide)
    · exact high
  -- The bytes hold the digits to the base 64: each one is a digit of what is left of the last one.
  have third : ∀ number : Nat, number / 4096 = number / 64 / 64 := fun number => by omega
  have fourth : ∀ number : Nat, number / 262144 = number / 64 / 64 / 64 := fun number => by omega
  unfold String.utf8EncodeChar
  dsimp only
  -- A character has no fewer bytes than a smaller one, and the first byte says how many there are.
  split_ifs <;> first
    | omega
    | simp only [List.cons_append, List.nil_append, List.cons_lt_cons_iff, UInt8.lt_iff_toNat_lt,
        ← UInt8.toNat_inj, UInt8.toNat_ofNat', third, fourth]
      omega

/-- So the first characters that differ decide, for characters and for bytes. -/
theorem flatMap_utf8_lt {letters others : Text} (less : List.Lex (· < ·) letters others) :
    letters.flatMap String.utf8EncodeChar < others.flatMap String.utf8EncodeChar := by
  induction less with
  | @nil letter rest =>
    rw [List.flatMap_nil, List.flatMap_cons]
    cases written : String.utf8EncodeChar letter with
    | nil => exact absurd written String.utf8EncodeChar_ne_nil
    | cons byte bytes => exact List.nil_lt_cons byte _
  | cons _ step =>
    rw [List.flatMap_cons, List.flatMap_cons]
    exact List.append_left_lt step
  | rel smaller =>
    rw [List.flatMap_cons, List.flatMap_cons]
    exact utf8EncodeChar_append_lt smaller _ _

/-- Texts in order have their bytes in order. -/
theorem utf8_lt_of_lt {left right : String} (less : left < right) : utf8 left < utf8 right := by
  rw [utf8_eq_flatMap, utf8_eq_flatMap]
  exact flatMap_utf8_lt less

end LineLexer.Text
