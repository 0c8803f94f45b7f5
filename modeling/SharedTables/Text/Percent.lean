import SharedTables.Text.Utf8

/-!
# Percent encoding

A name becomes a segment of a location by writing every byte other than that of an ASCII letter, a
digit or one of `_.-~` as a percent sign and two hexadecimal digits.

* `isSegmentChar_of_mem_encode`  what is written is of these characters and percent signs alone
-/

namespace SharedTables.Text.Percent

/-- The characters that stand for themselves. -/
def isPlain (c : Char) : Bool :=
  c.isAlphanum || c == '_' || c == '.' || c == '-' || c == '~'

/-- A hexadecimal digit in capitals. -/
def hexDigit (n : Nat) : Char :=
  "0123456789ABCDEF".toList.getD (n % 16) '0'

/-- One byte in a segment. -/
def encodeByte (b : UInt8) : List Char :=
  let c := Char.ofNat b.toNat
  if b < 0x80 && isPlain c then [c] else ['%', hexDigit (b.toNat / 16), hexDigit b.toNat]

/-- A name as a segment. -/
def encode (name : String) : String :=
  String.ofList ((Utf8.encode name.toList).flatMap encodeByte)

/-- The characters of segments. -/
def isSegmentChar (c : Char) : Bool :=
  isPlain c || c == '%'

theorem isSegmentChar_hexDigit (n : Nat) : isSegmentChar (hexDigit n) = true := by
  have h : ∀ i < 16, isSegmentChar ("0123456789ABCDEF".toList.getD i '0') = true := by decide
  exact h _ (Nat.mod_lt _ (by decide))

/-- A segment holds characters that stand for themselves and percent signs alone. -/
theorem isSegmentChar_of_mem_encode {name : String} {c : Char} (h : c ∈ (encode name).toList) :
    isSegmentChar c = true := by
  simp only [encode, String.toList_ofList, List.mem_flatMap] at h
  obtain ⟨b, -, hc⟩ := h
  unfold encodeByte at hc
  dsimp only at hc
  split at hc
  case isTrue hp =>
    simp only [List.mem_singleton] at hc
    subst hc
    simp only [Bool.and_eq_true] at hp
    simp [isSegmentChar, hp.2]
  case isFalse =>
    simp only [List.mem_cons, List.not_mem_nil, or_false] at hc
    rcases hc with rfl | rfl | rfl
    · decide
    · exact isSegmentChar_hexDigit _
    · exact isSegmentChar_hexDigit _

end SharedTables.Text.Percent
