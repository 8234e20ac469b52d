import Mathlib.Tactic
import Mathlib.Data.List.DropRight

/-!
# Text predicates of the standard libraries
-/
namespace JustRun.Machine

/-- The Unicode property `White_Space`, as `char::is_whitespace` has it. -/
def isWhitespace (c : Char) : Bool :=
  let n := c.val.toNat
  (9 ≤ n && n ≤ 13) || n = 32 || n = 0x85 || n = 0xA0 || n = 0x1680 ||
    (0x2000 ≤ n && n ≤ 0x200A) || n = 0x2028 || n = 0x2029 || n = 0x202F || n = 0x205F || n = 0x3000

/-- `s.trim().is_empty()`. -/
def isBlank (s : String) : Bool := s.toList.all isWhitespace

/-- `str::trim`. -/
def trim (s : String) : String :=
  String.ofList ((s.toList.rdropWhile isWhitespace).dropWhile isWhitespace)

theorem trim_newline (s : String) : trim (s ++ "\n") = trim s := by
  simp [trim, isWhitespace]

/-- `s.contains(needle)`. -/
def containsText (s needle : String) : Bool := decide (needle.toList <:+: s.toList)

/-- `u8::is_ascii_hexdigit` on every byte; a byte of a longer character is none. -/
def isAsciiHex (s : String) : Bool :=
  s.toList.all (fun c => c.isDigit || ('a' ≤ c && c ≤ 'f') || ('A' ≤ c && c ≤ 'F'))

/-- `str::len`. -/
def byteLength (s : String) : ℕ := s.utf8ByteSize

/-- `str::as_bytes`. -/
def bytes (s : String) : List UInt8 := s.toByteArray.data.toList

/-- `value.strip_prefix(lead)`. -/
def stripPrefix? (lead value : String) : Option String :=
  if lead.toList.isPrefixOf value.toList then
    some (String.ofList (value.toList.drop lead.length))
  else none

end JustRun.Machine
