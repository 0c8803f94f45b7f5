/-!
# UTF-8

`encode` gives the bytes of a text, `compareBytes` the order of texts by their bytes.  `decode`
reads bytes of any kind: what is no character is replaced by U+FFFD, one for each longest start of a
character that is not completed.
-/

namespace SharedTables.Text.Utf8

/-- The bytes of a text. -/
def encode (cs : List Char) : List UInt8 :=
  cs.flatMap String.utf8EncodeChar

/-- The order of two texts by their bytes. -/
def compareBytes (s t : String) : Ordering :=
  compare (encode s.toList) (encode t.toList)

/-- The character that stands for bytes that are none. -/
def replacement : Char := '\ufffd'

/-- What the first byte of a character says about the bytes after it. -/
structure Lead where
  /-- The bits that the first byte gives. -/
  bits : Nat
  /-- How many bytes follow. -/
  count : Nat
  /-- The least and the greatest value of the byte that follows first. -/
  lower : UInt8
  upper : UInt8
deriving DecidableEq, Repr

/-- The meaning of a byte that starts a character of several bytes. -/
def lead? (b : UInt8) : Option Lead :=
  if 0xc2 ≤ b ∧ b ≤ 0xdf then some ⟨b.toNat - 0xc0, 1, 0x80, 0xbf⟩
  else if b = 0xe0 then some ⟨0, 2, 0xa0, 0xbf⟩
  else if b = 0xed then some ⟨0xd, 2, 0x80, 0x9f⟩
  else if 0xe1 ≤ b ∧ b ≤ 0xef then some ⟨b.toNat - 0xe0, 2, 0x80, 0xbf⟩
  else if b = 0xf0 then some ⟨0, 3, 0x90, 0xbf⟩
  else if b = 0xf4 then some ⟨4, 3, 0x80, 0x8f⟩
  else if 0xf1 ≤ b ∧ b ≤ 0xf3 then some ⟨b.toNat - 0xf0, 3, 0x80, 0xbf⟩
  else none

/-- Reads the bytes that complete a character; the second part is what follows the last byte that
was used. -/
def complete (lower upper : UInt8) : Nat → Nat → List UInt8 → Option Nat × List UInt8
  | 0, code, bytes => (some code, bytes)
  | _ + 1, _, [] => (none, [])
  | count + 1, code, b :: rest =>
    if lower ≤ b ∧ b ≤ upper then
      complete 0x80 0xbf count (code * 64 + (b.toNat - 0x80)) rest
    else (none, b :: rest)

theorem length_complete_le (lower upper : UInt8) (count code : Nat) (bytes : List UInt8) :
    (complete lower upper count code bytes).2.length ≤ bytes.length := by
  induction count generalizing lower upper code bytes with
  | zero => simp [complete]
  | succ count ih =>
    cases bytes with
    | nil => simp [complete]
    | cons b rest =>
      unfold complete
      split
      · exact Nat.le_succ_of_le (ih ..)
      · exact Nat.le_refl _

/-- The text of a sequence of bytes. -/
def decode : List UInt8 → List Char
  | [] => []
  | b :: rest =>
    if b < 0x80 then Char.ofNat b.toNat :: decode rest
    else
      match lead? b with
      | none => replacement :: decode rest
      | some l =>
        -- the bytes used are gone, whether they make a character or not
        let read := complete l.lower l.upper l.count l.bits rest
        have : read.2.length ≤ rest.length := length_complete_le ..
        (read.1.elim replacement Char.ofNat) :: decode read.2
termination_by bytes => bytes.length
decreasing_by
  · simp
  · simp
  · exact Nat.lt_succ_of_le this

end SharedTables.Text.Utf8
