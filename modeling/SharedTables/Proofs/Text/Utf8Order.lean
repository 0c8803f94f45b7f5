import Mathlib
import SharedTables.Text.Utf8

/-!
# The order of texts by their bytes

UTF-8 keeps the order of code points: of two texts the one that comes first by its characters also
comes first by its bytes.

## Key results

- `encodeChar_lt`: the bytes of a smaller character come first, whatever follows them
- `compareBytes_eq`: the order by bytes is the order by characters
-/

namespace SharedTables

namespace Text

namespace Utf8

/-! ### Bytes of one character -/

private theorem ofNat_lt_ofNat {m n : Nat} (hm : m < 256) (hn : n < 256) :
    UInt8.ofNat m < UInt8.ofNat n ↔ m < n := by
  rw [UInt8.lt_iff_toNat_lt, UInt8.toNat_ofNat_of_lt' hm, UInt8.toNat_ofNat_of_lt' hn]

private theorem ofNat_inj_of_lt {m n : Nat} (hm : m < 256) (hn : n < 256) :
    UInt8.ofNat m = UInt8.ofNat n ↔ m = n := by
  rw [← UInt8.toNat_inj, UInt8.toNat_ofNat_of_lt' hm, UInt8.toNat_ofNat_of_lt' hn]

/-- Of two numbers the smaller one has the smaller digit where their digits to base 64 first
    differ. -/
private theorem digits_lt {m n : Nat} (h : m < n) :
    m / 262144 < n / 262144 ∨ m / 262144 = n / 262144 ∧
      (m / 4096 % 64 < n / 4096 % 64 ∨ m / 4096 % 64 = n / 4096 % 64 ∧
        (m / 64 % 64 < n / 64 % 64 ∨ m / 64 % 64 = n / 64 % 64 ∧ m % 64 < n % 64)) := by
  by_cases h1 : m / 262144 = n / 262144
  · refine .inr ⟨h1, ?_⟩
    by_cases h2 : m / 4096 = n / 4096
    · refine .inr ⟨by rw [h2], ?_⟩
      by_cases h3 : m / 64 = n / 64
      · exact .inr ⟨by rw [h3], by omega⟩
      · exact .inl (by omega)
    · exact .inl (by omega)
  · exact .inl (by omega)

/-- The bytes of a smaller character come first, whatever follows them. -/
theorem encodeChar_lt {c d : Char} (h : c < d) (x y : List UInt8) :
    String.utf8EncodeChar c ++ x < String.utf8EncodeChar d ++ y := by
  have hlt : c.val.toNat < d.val.toNat := UInt32.lt_iff_toNat_lt.1 h
  have hd : d.val.toNat < 0x110000 := by
    rcases d.valid with hd | hd
    · have : d.val.toNat < 0xd800 := hd
      omega
    · exact hd.2
  -- the bytes of a character are its digits to base 64, marked by their place
  have hdigits := digits_lt hlt
  unfold String.utf8EncodeChar
  generalize c.val.toNat = m at *
  generalize d.val.toNat = n at *
  have htop : m / 262144 % 8 = m / 262144 ∧ n / 262144 % 8 = n / 262144 := by omega
  dsimp only
  -- characters of different lengths differ in the first byte, others in the first digit that does
  repeat' split
  all_goals first
    | omega
    | simp (disch := omega) only [List.cons_append, List.nil_append, List.cons_lt_cons_iff,
        ofNat_lt_ofNat, ofNat_inj_of_lt]
      omega

/-! ### Texts -/

/-- A text that comes first by its characters comes first by its bytes. -/
private theorem encode_lt {cs ds : List Char} (h : cs < ds) : encode cs < encode ds := by
  -- along the order of lists: the end, the first character that differs, a common first character
  induction h with
  | @nil d ds =>
    rw [encode, encode, List.flatMap_nil, List.flatMap_cons]
    obtain ⟨b, bs, hd⟩ := List.exists_cons_of_ne_nil (@String.utf8EncodeChar_ne_nil d)
    rw [hd]
    exact List.nil_lt_cons b _
  | rel h => exact encodeChar_lt h _ _
  | @cons c cs ds _ ih => exact List.append_left_lt ih

private theorem compare_of_lt {x y : List UInt8} (h : x < y) :
    compare x y = .lt ∧ compare y x = .gt := by
  induction h with
  | nil => exact ⟨rfl, rfl⟩
  | @rel a x b y h =>
    rw [List.compare_cons_cons, List.compare_cons_cons, Std.compare_eq_lt.2 h,
      Std.compare_eq_gt.2 h]
    exact ⟨rfl, rfl⟩
  | @cons a x y _ ih =>
    rw [List.compare_cons_cons, List.compare_cons_cons, Std.ReflOrd.compare_self]
    exact ih

/-- The order by bytes is the order by characters. -/
theorem compareBytes_eq (s t : String) : compareBytes s t = compare s t := by
  rw [compareBytes]
  rcases lt_trichotomy s t with h | rfl | h
  · rw [(compare_of_lt (encode_lt (String.lt_iff_toList_lt.1 h))).1, compare_lt_iff_lt.2 h]
  · rw [Std.ReflOrd.compare_self, Std.ReflOrd.compare_self]
  · rw [(compare_of_lt (encode_lt (String.lt_iff_toList_lt.1 h))).2, compare_gt_iff_gt.2 h]

end Utf8

end Text

end SharedTables
