/-
JSON values and their text.

Objects keep their members as a list sorted by key, so that equal objects print the
same.  A number is a whole number in the range of a 64-bit word, signed or not, or
a float.  `Json.compact` writes a value without blanks; configuration files hand
lists on in this form.
-/
import Turnstile.Number.Decimal
import Turnstile.Text.Hex

namespace Turnstile

/-- A JSON value. -/
inductive Json
  | null
  | bool (b : Bool)
  | whole (n : Int)
  | float (x : Float)
  | string (s : String)
  | array (items : List Json)
  | object (members : List (String × Json))
deriving Inhabited

namespace Json

/-! ### Members in order -/

/-- Put a member among sorted ones; the later of two with one key stays. -/
def insertMember {α : Type} (key : String) (v : α) : List (String × α) → List (String × α)
  | [] => [(key, v)]
  | (k, w) :: rest =>
    if key = k then (key, v) :: rest
    else if key < k then (key, v) :: (k, w) :: rest
    else (k, w) :: insertMember key v rest

/-- Members sorted by key, the last of several with one key. -/
def sortMembers {α : Type} (members : List (String × α)) : List (String × α) :=
  members.foldl (fun sorted (k, v) => insertMember k v sorted) []

/-- An object of the members given, in any order. -/
def ofMembers (members : List (String × Json)) : Json := object (sortMembers members)

/-- A value for what may be absent. -/
def orNull {α : Type} (f : α → Json) : Option α → Json
  | some a => f a
  | none => null

/-! ### Text -/

/-- Floats are plain from 1e-5 up to 1e16 and always show that they are floats. -/
def floatLayout : Decimal.Layout := ⟨-5, 16, ".0", "+"⟩

/-- A code unit as four hexadecimal digits after a `u`. -/
def unitEscape (n : Nat) : List Char :=
  '\\' :: 'u' :: (Text.hexOf 4 n).toList

/-- How a JSON string writes one character: quotes, backslashes and control characters are
escaped, everything else stands for itself. -/
def escapeChar (c : Char) : List Char :=
  if c = '"' then ['\\', '"']
  else if c = '\\' then ['\\', '\\']
  else if c = '\n' then ['\\', 'n']
  else if c = '\r' then ['\\', 'r']
  else if c = '\t' then ['\\', 't']
  else if c.toNat = 8 then ['\\', 'b']
  else if c.toNat = 12 then ['\\', 'f']
  else if c.toNat < 0x20 then unitEscape c.toNat
  else [c]

/-- How an ASCII text writes one character: as `escapeChar` does, and one or two code units for
a character past the ASCII range. -/
def asciiChar (c : Char) : List Char :=
  if c.toNat < 0x7F then escapeChar c
  else if c.toNat < 0x10000 then unitEscape c.toNat
  else
    let n := c.toNat - 0x10000
    unitEscape (0xD800 + n / 0x400) ++ unitEscape (0xDC00 + n % 0x400)

/-- A string between quotes. -/
def stringText (char : Char → List Char) (s : String) : String :=
  String.ofList ('"' :: s.toList.flatMap char ++ ['"'])

mutual

/-- A value without blanks, with a way to write the characters of its strings. -/
def text (char : Char → List Char) : Json → String
  | null => "null"
  | bool b => if b then "true" else "false"
  | whole n => toString n
  | float x => if x.isFinite then Decimal.text floatLayout x else "null"
  | string s => stringText char s
  | array items => "[" ++ ",".intercalate (itemTexts char items) ++ "]"
  | object members => "\x7b" ++ ",".intercalate (memberTexts char members) ++ "\x7d"

/-- The texts of an array's items. -/
def itemTexts (char : Char → List Char) : List Json → List String
  | [] => []
  | v :: rest => text char v :: itemTexts char rest

/-- The texts of an object's members. -/
def memberTexts (char : Char → List Char) : List (String × Json) → List String
  | [] => []
  | (k, v) :: rest => (stringText char k ++ ":" ++ text char v) :: memberTexts char rest

end

/-- The text of a value, without blanks. -/
def compact (v : Json) : String := text escapeChar v

/-- The text of a value in ASCII. -/
def ascii (v : Json) : String := text asciiChar v

/-! ### Looking inside -/

/-- The member with a key, `null` if there is none. -/
def get (key : String) : Json → Json
  | object members => (members.lookup key).getD null
  | _ => null

end Json

end Turnstile
