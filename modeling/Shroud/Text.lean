import Mathlib.Data.List.Basic

namespace Shroud.Text

/-!
# String functions of the source language

The daemon inspects command output with a handful of library functions on
strings.  They are defined here on character lists, so that they compute.
-/

/-- The Unicode `White_Space` property, as `char::is_whitespace` reads it. -/
def isWhitespace (c : Char) : Bool :=
  let code := c.toNat
  (decide (9 ≤ code) && decide (code ≤ 13)) || code == 0x20 ||
    code == 0x85 || code == 0xA0 || code == 0x1680 ||
    (decide (0x2000 ≤ code) && decide (code ≤ 0x200A)) ||
    code == 0x2028 || code == 0x2029 || code == 0x202F ||
    code == 0x205F || code == 0x3000

/-- The category `Cc`, as `char::is_control` reads it. -/
def isControl (c : Char) : Bool :=
  let code := c.toNat
  decide (code < 0x20) || (decide (0x7F ≤ code) && decide (code ≤ 0x9F))

/-- `str::trim`. -/
def trim (text : List Char) : List Char :=
  ((text.dropWhile isWhitespace).reverse.dropWhile isWhitespace).reverse

/-- `str::strip_prefix`. -/
def strip? : List Char → List Char → Option (List Char)
  | [], text => some text
  | _ :: _, [] => none
  | expected :: pattern, c :: text =>
    if expected = c then strip? pattern text else none

/-- `str::contains` with a string pattern. -/
def contains (pattern : List Char) : List Char → Bool
  | [] => pattern.isEmpty
  | c :: text => pattern.isPrefixOf (c :: text) || contains pattern text

/-- Cut a text at every newline; the last piece may be empty. -/
def splitNewlines : List Char → List (List Char)
  | [] => [[]]
  | '\n' :: text => [] :: splitNewlines text
  | c :: text =>
    match splitNewlines text with
    | [] => [[c]]
    | line :: rest => (c :: line) :: rest

/-- Drop the carriage return that a line may end with. -/
def dropCarriageReturn (line : List Char) : List Char :=
  if line.getLast? = some '\r' then line.dropLast else line

/--
`str::lines`: a final empty piece is not a line, and a final piece without a
newline keeps its carriage return.
-/
def lines (text : List Char) : List (List Char) :=
  let pieces := splitNewlines text
  pieces.dropLast.map dropCarriageReturn ++ pieces.getLast?.toList.filter (· ≠ [])

/-- `str::split_once` with a character. -/
def splitOnce? (separator : Char) (text : List Char) :
    Option (List Char × List Char) :=
  match text.dropWhile (· ≠ separator) with
  | [] => none
  | _ :: back => some (text.takeWhile (· ≠ separator), back)

/--
`str::split_whitespace`.  A word goes on where the next character is no
whitespace either.
-/
def splitWhitespace : List Char → List (List Char)
  | [] => []
  | c :: text =>
    if isWhitespace c then splitWhitespace text
    else
      match text with
      | [] => [[c]]
      | next :: _ =>
        if isWhitespace next then [c] :: splitWhitespace text
        else
          match splitWhitespace text with
          | [] => [[c]]
          | word :: rest => (c :: word) :: rest

/-- `str::rsplit_once` with a character. -/
def rsplitOnce? (separator : Char) (text : List Char) :
    Option (List Char × List Char) :=
  match text.reverse.dropWhile (· ≠ separator) with
  | [] => none
  | _ :: front =>
    some (front.reverse, (text.reverse.takeWhile (· ≠ separator)).reverse)

/--
`str::to_lowercase`, up to characters whose lower-case form is not ASCII.

The two characters above the ASCII range that have an ASCII letter in their
lower-case form are the dotted capital I and the Kelvin sign.
-/
def toLowercase (text : List Char) : List Char :=
  text.flatMap fun c =>
    if c.toNat = 0x130 then ['i', Char.ofNat 0x307]
    else if c.toNat = 0x212A then ['k']
    else [c.toLower]

end Shroud.Text
