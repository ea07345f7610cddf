import Wiretap.Bytes
import Wiretap.Text.Ascii

/-!
# Percent-coding

A byte that may not stand in a part of an address is written as `%` and two
uppercase hexadecimal digits.  Which bytes those are depends on the part; bytes
outside ASCII are always coded.

* `encode` codes a byte sequence for a part, `decode` undoes every coding.
* `userinfo`, `path`, `query` … are the parts.
-/

namespace Wiretap
namespace Percent

/-- The bytes that are coded in a part of an address. -/
abbrev Class : Type := UInt8 → Bool

/-- Control characters. -/
def control : Class := fun b => b < 32 || 127 ≤ b

/-- Control characters and the given ASCII characters. -/
def controlAnd (chars : String) : Class := fun b =>
  control b || chars.toList.any fun c => c.toNat == b.toNat

/-- What is coded in a fragment. -/
def fragment : Class := controlAnd " \"<>`"

/-- What is coded in a path. -/
def path : Class := controlAnd " \"<>`#?\x7b\x7d"

/-- What is coded in a user name or password. -/
def userinfo : Class := controlAnd " \"<>`#?\x7b\x7d/:;=@[\\]^|"

/-- What is coded in a query. -/
def query : Class := controlAnd " \"#<>"

/-- What is coded in a query of a special scheme. -/
def specialQuery : Class := controlAnd " \"#<>'"

/-- One byte as `%` and two digits. -/
def escaped (b : UInt8) : List Char :=
  '%' :: (Bytes.hexDigits b).map Char.toUpper

/-- Codes a byte sequence. -/
def encode (coded : Class) (bytes : Bytes) : List Char :=
  bytes.flatMap fun b => if coded b then escaped b else [Char.ofNat b.toNat]

/-- Codes the UTF-8 form of a text. -/
def encodeChars (coded : Class) (chars : List Char) : List Char :=
  encode coded (Bytes.ofChars chars)

/-- Undoes every well-formed coding and leaves all else alone. -/
def decode : Bytes → Bytes
  | 37 :: high :: low :: rest =>
    match Bytes.hexValue? high, Bytes.hexValue? low with
    | some h, some l => (h * 16 + l).toUInt8 :: decode rest
    | _, _ => 37 :: decode (high :: low :: rest)
  | b :: rest => b :: decode rest
  | [] => []

end Percent
end Wiretap
