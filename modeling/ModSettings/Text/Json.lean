/-
Strings and lists in the notation of JSON, without spaces.

The quote, the backslash and the control characters are escaped, five of the
latter by a letter and the others by four digits of their code point.
-/

namespace ModSettings

namespace Json

/-- The two last of the four digits that name a control character. -/
def controlDigits (n : Nat) : String :=
  String.ofList ((if n < 16 then ['0'] else []) ++ Nat.toDigits 16 n)

def escapedChar (c : Char) : String :=
  match c with
  | '"' => "\\\""
  | '\\' => "\\\\"
  | '\x08' => "\\b"
  | '\x0c' => "\\f"
  | '\n' => "\\n"
  | '\r' => "\\r"
  | '\t' => "\\t"
  | c => if c.toNat < 0x20 then "\\u00" ++ controlDigits c.toNat else c.toString

def string (s : String) : String :=
  "\"" ++ s.foldl (fun out c => out ++ escapedChar c) "" ++ "\""

def list (items : List String) : String := "[" ++ ",".intercalate items ++ "]"

end Json

end ModSettings
