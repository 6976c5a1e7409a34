import FramedVideo.Bytes
import FramedVideo.Text.Unprintable

/-!
# Quoted texts

A text is shown between quotes. Characters that would be mistaken, or not be seen, are spelled with
a backslash: some by a letter, the others by their number.

## Main definitions

- `Quoted.escape` — the spelling of one character
- `Quoted.quote` — a text between quotes
-/

namespace FramedVideo.Quoted

/-- The spelling of one character between quotes. -/
def escape (c : Char) : String :=
  match c with
  | '\x00' => "\\0"
  | '\t' => "\\t"
  | '\n' => "\\n"
  | '\r' => "\\r"
  | '"' => "\\\""
  | '\\' => "\\\\"
  | c =>
    if Unprintable.holds c then "\\u\x7b" ++ hexNumber 1 c.toNat ++ "\x7d" else String.singleton c

/-- A text between quotes. -/
def quote (text : String) : String :=
  text.foldl (fun shown c => shown ++ escape c) "\"" ++ "\""

end FramedVideo.Quoted
