import SharedTables.Number.Shortest
import SharedTables.Text.DecimalDigit

/-!
# How numbers are written

Integers are written in decimal digits.  A floating-point number is written with the fewest digits
that read back; a `FloatStyle` fixes the rest of its form.  The styles of this library are

* `FloatStyle.plain`       settings, predicates and messages: `1e-07`, `1e+16`, `inf`, `nan`
* `FloatStyle.positional`  predicates in canonical form, which has no exponents
* `FloatStyle.json`        like `plain`, with `Infinity` and `NaN`
* `FloatStyle.cell`        the text form of a table cell: `1e-7`, `1e+16`, `inf`, `NaN`
-/

namespace SharedTables

/-- The decimal digits of a natural number. -/
def natText (n : Nat) : String := toString n

/-- The decimal digits of an integer, with a minus sign if it is negative. -/
def intText (n : Int) : String :=
  if n < 0 then "-" ++ natText n.natAbs else natText n.natAbs

/-- The text with zeros in front, up to the given width. -/
def padZeros (width : Nat) (s : String) : String :=
  String.ofList (List.replicate (width - s.length) '0') ++ s

/-- The form of a floating-point number around its digits. -/
structure FloatStyle where
  /-- The least exponent of the leading digit that is written without an exponent. -/
  minPositional : Option Int
  /-- The least exponent of the leading digit that is written with an exponent again. -/
  endPositional : Option Int
  /-- The least number of digits of an exponent, after its sign. -/
  exponentWidth : Nat
  /-- The text of an infinity, after its sign. -/
  infinity : String
  /-- The text of "not a number". -/
  nan : String

namespace FloatStyle

/-- Settings and messages. -/
def plain : FloatStyle := ⟨some (-4), some 16, 2, "inf", "nan"⟩

/-- Canonical predicates have no exponents; a point always separates a fraction. -/
def positional : FloatStyle := ⟨none, none, 2, "Infinity.0", "NaN.0"⟩

/-- Numbers in JSON output. -/
def json : FloatStyle := ⟨some (-4), some 16, 2, "Infinity", "NaN"⟩

/-- The text form of a cell of 64 bits. -/
def cell : FloatStyle := ⟨some (-5), some 16, 1, "inf", "NaN"⟩

/-- The text form of a cell of 32 bits. -/
def singleCell : FloatStyle := ⟨some (-6), some 13, 1, "inf", "NaN"⟩

/-- Whether a number whose leading digit has the given exponent is written without an exponent. -/
def isPositional (style : FloatStyle) (leading : Int) : Bool :=
  (style.minPositional.all (· ≤ leading)) && (style.endPositional.all (leading < ·))

/-- The digits `text` with a point after the given number of them; a point always separates at
least one digit on either side. -/
def withPoint (text : String) (before : Int) : String :=
  if before ≤ 0 then "0." ++ String.ofList (List.replicate (-before).toNat '0') ++ text
  else if (text.length : Int) ≤ before then
    text ++ String.ofList (List.replicate (before - text.length).toNat '0') ++ ".0"
  else (text.take before.toNat).toString ++ "." ++ (text.drop before.toNat).toString

/-- The digits in the form with an exponent: a point after the first digit if there are more. -/
def withExponent (style : FloatStyle) (text : String) (leading : Int) : String :=
  let head := (text.take 1).toString
  let tail := (text.drop 1).toString
  head ++ (if tail.isEmpty then "" else "." ++ tail) ++ "e" ++ (if leading < 0 then "-" else "+") ++
    padZeros style.exponentWidth (natText leading.natAbs)

/-- A decimal number without its sign. -/
def writeDecimal (style : FloatStyle) (d : Decimal) : String :=
  let text := natText d.digits
  let leading : Int := d.exponent + text.length - 1
  if d.digits = 0 then "0.0"
  else if style.isPositional leading then withPoint text (leading + 1)
  else style.withExponent text leading

/-- A number of the given storage format. -/
def write (style : FloatStyle) (f : Binary.Format) (x : Binary) : String :=
  match x with
  | .nan => style.nan
  | .infinite s => (if s then "-" else "") ++ style.infinity
  | .finite s m e => (if s then "-" else "") ++ style.writeDecimal (f.shortest m e)

end FloatStyle

namespace Binary

/-- The text of a 64-bit number in settings and messages. -/
def text (x : Binary) : String := FloatStyle.plain.write double x

end Binary

end SharedTables
