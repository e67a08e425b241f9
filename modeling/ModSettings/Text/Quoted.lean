/-
Text in double quotes, as messages show it.

The quote and the backslash take a backslash, tab, carriage return, line feed
and the null character have a letter each, and any character that is not
printable or that would attach to the one before it is named by its code point.
Everything else stands for itself.
-/
import ModSettings.Text.Combining

namespace ModSettings

/-- The digits of a number in base sixteen, small letters, no leading zero. -/
def hexDigits (n : Nat) : String := String.ofList (Nat.toDigits 16 n)

/-- A character named by its code point. -/
def codePointName (c : Char) : String := "\\u\x7b" ++ hexDigits c.toNat ++ "\x7d"

def quotedChar (c : Char) : String :=
  match c with
  | '"' => "\\\""
  | '\\' => "\\\\"
  | '\t' => "\\t"
  | '\r' => "\\r"
  | '\n' => "\\n"
  | '\x00' => "\\0"
  | c => if isPrintable c && !isCombining c then c.toString else codePointName c

def quoted (s : String) : String :=
  "\"" ++ s.foldl (fun out c => out ++ quotedChar c) "" ++ "\""

/-- Letters of the ASCII range compare without regard to case; every other
character compares as it is. -/
def sameIgnoringCase (a b : String) : Bool :=
  a.map Char.toLower == b.map Char.toLower

theorem sameIgnoringCase_eq (a b : String) :
    sameIgnoringCase a b = decide (a.toList.map Char.toLower = b.toList.map Char.toLower) := by
  rw [sameIgnoringCase, Bool.eq_iff_iff, beq_iff_eq, decide_eq_true_iff, ← String.toList_map,
    ← String.toList_map, String.toList_inj]

end ModSettings
