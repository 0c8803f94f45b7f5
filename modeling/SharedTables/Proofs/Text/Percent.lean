import Mathlib
import SharedTables.Text.Percent
import SharedTables.Text.Quoted

/-!
# Reading segments

What percent signs stand for, read strictly: a percent sign with two hexadecimal digits is a byte,
any other ASCII character stands for its own byte, and the bytes have to be those of a text.  No
percent sign stands for itself, so a name that looks like an encoded one is not mistaken for what it
seems to encode.

## Key results

- `bytes?_flatMap`: every sequence of bytes is found again
- `decode?_encode`: every name is found again
- `isSafe_of_mem_encode`: the characters of a segment
-/

namespace SharedTables

namespace Text

namespace Percent

/-- The byte that two hexadecimal digits stand for. -/
def hexByte? (high low : Char) : Option UInt8 := do
  let h ← hexValue? high
  let l ← hexValue? low
  return UInt8.ofNat (16 * h + l)

/-- The bytes that a segment stands for. -/
def bytes? : List Char → Option (List UInt8)
  | [] => some []
  | c :: rest =>
    if c = '%' then
      match rest with
      | high :: low :: rest => do
        let b ← hexByte? high low
        return b :: (← bytes? rest)
      | _ => none
    else if c.toNat < 0x80 then do
      return UInt8.ofNat c.toNat :: (← bytes? rest)
    else none

/-- The name that a segment stands for, if its bytes are those of a text. -/
def decode? (segment : List Char) : Option String := do
  String.fromUTF8? (← bytes? segment).toByteArray

/-! ### Bytes -/

private theorem hexValue?_hexDigit (n : Nat) : hexValue? (hexDigit n) = some (n % 16) := by
  have h : ∀ i < 16, hexValue? ("0123456789ABCDEF".toList.getD i '0') = some i := by decide
  exact h _ (Nat.mod_lt _ (by decide))

/-- The two digits of a byte. -/
private theorem hexByte?_hexDigit (b : UInt8) :
    hexByte? (hexDigit (b.toNat / 16)) (hexDigit b.toNat) = some b := by
  have hb : b.toNat < 256 := b.toNat_lt
  -- the two digits are the quotient and the remainder by 16
  have hvalue : 16 * (b.toNat / 16 % 16) + b.toNat % 16 = b.toNat := by omega
  rw [hexByte?, hexValue?_hexDigit, hexValue?_hexDigit]
  simp only [Option.bind_eq_bind, Option.bind_some, Option.pure_def]
  rw [hvalue, UInt8.ofNat_toNat]

/-- A byte in a segment is read first, whatever follows it. -/
private theorem bytes?_encodeByte (b : UInt8) (rest : List Char) :
    bytes? (encodeByte b ++ rest) = (bytes? rest).map (b :: ·) := by
  unfold encodeByte
  dsimp only
  split
  · -- a character that stands for itself is no percent sign
    rename_i h
    obtain ⟨hlt, hplain⟩ := Bool.and_eq_true_iff.1 h
    have hb : b.toNat < 0x80 := UInt8.lt_iff_toNat_lt.1 (of_decide_eq_true hlt)
    have hcode : (Char.ofNat b.toNat).toNat = b.toNat := by
      rw [Char.toNat_ofNat, if_pos (.inl (by omega))]
    have hne : Char.ofNat b.toNat ≠ '%' := by
      intro h
      rw [h] at hplain
      exact absurd hplain (by decide)
    rw [List.singleton_append, bytes?.eq_def]
    dsimp only
    rw [if_neg hne, hcode, if_pos hb, UInt8.ofNat_toNat]
    cases bytes? rest with
    | none => rfl
    | some bytes => rfl
  · rw [List.cons_append, List.cons_append, List.cons_append, List.nil_append, bytes?, if_pos rfl,
      hexByte?_hexDigit]
    cases bytes? rest with
    | none => rfl
    | some bytes => rfl

/-- Every sequence of bytes is found again. -/
theorem bytes?_flatMap (bytes : List UInt8) : bytes? (bytes.flatMap encodeByte) = some bytes := by
  induction bytes with
  | nil => rfl
  -- one byte is read, and the rest is the segment of the other bytes
  | cons b bytes ih => rw [List.flatMap_cons, bytes?_encodeByte, ih, Option.map_some]

/-! ### Names -/

/-- The bytes of a text are those of that text alone. -/
private theorem fromUTF8?_encode (s : String) :
    String.fromUTF8? (Utf8.encode s.toList).toByteArray = some s := by
  have hbytes : (Utf8.encode s.toList).toByteArray = s.toByteArray := by
    have hlist := String.toByteArray_ofList (l := s.toList)
    rw [String.ofList_toList] at hlist
    exact hlist.symm
  rw [hbytes, String.fromUTF8?, dif_pos s.isValidUTF8]
  rfl

/-- Every name is found again. -/
theorem decode?_encode (name : String) : decode? (encode name).toList = some name := by
  rw [decode?, encode, String.toList_ofList, bytes?_flatMap]
  exact fromUTF8?_encode name

/-- Different names have different segments. -/
theorem encode_injective : Function.Injective encode := by
  intro name name' h
  have hdecode := decode?_encode name
  rw [h, decode?_encode name'] at hdecode
  exact (Option.some.inj hdecode).symm

-- a name that looks like a segment is encoded once more
example : encode "a/b" = "a%2Fb" ∧ encode "a%2Fb" = "a%252Fb" := ⟨rfl, rfl⟩

/-- A character that has no meaning of its own in a location: no separator of any kind, no blank
    and no character beyond ASCII. -/
def IsSafe (c : Char) : Prop :=
  c ≠ '/' ∧ c ≠ '?' ∧ c ≠ '#' ∧ c ≠ ' ' ∧ c.toNat < 0x80

private theorem toNat_lt_of_isAlphanum {c : Char} (h : c.isAlphanum = true) : c.toNat < 0x80 := by
  simp only [Char.isAlphanum, Char.isAlpha, Char.isUpper, Char.isLower, Char.isDigit,
    Bool.or_eq_true, Bool.and_eq_true, decide_eq_true_eq, UInt32.le_iff_toNat_le] at h
  simp only [Char.toNat]
  have hbounds : 'Z'.val.toNat = 90 ∧ 'z'.val.toNat = 122 ∧ '9'.val.toNat = 57 := ⟨rfl, rfl, rfl⟩
  omega

/-- The characters of a segment are all safe. -/
theorem isSafe_of_mem_encode {name : String} {c : Char} (h : c ∈ (encode name).toList) :
    IsSafe c := by
  have hsegment := isSegmentChar_of_mem_encode h
  -- none of the separators is a character of a segment
  have hne : ∀ d, isSegmentChar d = false → c ≠ d := by
    rintro d hd rfl
    rw [hsegment] at hd
    exact Bool.noConfusion hd
  refine ⟨hne '/' rfl, hne '?' rfl, hne '#' rfl, hne ' ' rfl, ?_⟩
  simp only [isSegmentChar, isPlain, Bool.or_eq_true, beq_iff_eq] at hsegment
  rcases hsegment with ((((h | rfl) | rfl) | rfl) | rfl) | rfl
  · exact toNat_lt_of_isAlphanum h
  all_goals decide

end Percent

end Text

end SharedTables
