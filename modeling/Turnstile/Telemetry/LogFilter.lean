/-
Which log lines are written.

A filter is a list of directives.  A directive sets the level for all lines, or for
those of some targets, and may ask for a span or for fields; of several that fit a line
the most specific counts.  Lines that no directive fits are not written.

Directives are read past the blanks in front, but their parts are cut out of the whole
text at the places found in the trimmed one.  Behind blanks a part thus starts and ends
too early, by the width of the blanks.
-/
import Turnstile.Number.Reading
import Turnstile.Text.Alphanumeric
import Turnstile.Text.Blank
import Turnstile.Text.Pattern
import Turnstile.Text.Utf8

namespace Turnstile

/-- How much is written. -/
inductive LogLevel
  | off
  | error
  | warn
  | info
  | debug
  | trace
deriving DecidableEq, Repr

namespace LogLevel

/-- The place of a level: a higher one lets more through. -/
def rank : LogLevel → Nat
  | off => 0
  | error => 1
  | warn => 2
  | info => 3
  | debug => 4
  | trace => 5

/-- The level that a word names, in letters of either case. -/
def ofWord? (word : String) : Option LogLevel :=
  let w := String.ofList (word.toList.map Char.toLower)
  if w = "" || w = "error" then some error
  else if w = "warn" then some warn
  else if w = "info" then some info
  else if w = "debug" then some debug
  else if w = "trace" then some trace
  else if w = "off" then some off
  else none

/-- The level with a number. -/
def ofNumber? : Int → Option LogLevel
  | 0 => some off
  | 1 => some error
  | 2 => some warn
  | 3 => some info
  | 4 => some debug
  | 5 => some trace
  | _ => none

/-- Read a level. -/
def parse? (s : String) : Option LogLevel :=
  match WholeRange.word.read s with
  | .ok n => ofNumber? n
  | .error _ => ofWord? s

end LogLevel

/-- A directive of a filter. -/
structure LogDirective where
  level : LogLevel
  /-- The start of the targets it is for. -/
  target : Option String
  /-- It is for lines inside of a span only. -/
  inSpan : Bool
  /-- Fields that a line has to have, and whether with a certain value. -/
  fields : List (String × Bool)
deriving DecidableEq, Repr

namespace LogDirective

/-! ### Parts of a directive -/

/-- How many bytes some characters take. -/
def width (cs : List Char) : Nat := (String.ofList cs).utf8ByteSize

/-- The bytes of a text from one place to another, if they are whole characters. -/
def cut? (s : String) (start stop : Nat) : Option String :=
  Text.ofBytes? ((s.toUTF8.toList.drop start).take (stop - start))

/-- The level at the end of a text, from a place on; nothing there stands for all levels. -/
def levelFrom? (s : String) (start : Nat) : Option LogLevel := do
  let word ← cut? s start s.utf8ByteSize
  if word.isEmpty then some .trace else LogLevel.parse? word

/-- A word that is a level, or a target for which everything is written. -/
def ofWord (word : String) : LogDirective :=
  match LogLevel.parse? word with
  | some level => ⟨level, none, false, []⟩
  | none => ⟨.trace, some word, false, []⟩

/-- The part after a span's bracket, at a place: nothing, or an equals sign and a level. -/
def ending? (s : String) (d : LogDirective) (place : Nat) : List Char → Option LogDirective
  | [] => some d
  | c :: _ =>
    if c = '=' then (levelFrom? s (place + 1)).map fun level => { d with level } else none

/-- Can a field be asked to have the value?  It is a truth value, a number or a pattern. -/
def isValue (s : String) : Bool :=
  (readTruth s).toBool || (WholeRange.word.read s).toBool || (WholeRange.signed.read s).toBool ||
    (readFloat s).toBool || Text.Pattern.isPattern s

/-- A field: its name, and perhaps a value after an equals sign. -/
def field? (s : String) : Option (String × Bool) :=
  if s.isEmpty then none
  else match s.splitOn "=" with
    | name :: value :: _ => if isValue value then some (name, true) else none
    | parts => some (parts.headD "", false)

/-- The part of a directive after an opening bracket, at a place: the name of a span, or a field
in braces, and a level. -/
def span? (s : String) (target : Option String) (place : Nat) (cs : List Char) :
    Option LogDirective :=
  let isMark : Char → Bool := fun c => c = ']' || c = '\x7b'
  let name := cs.takeWhile fun c => !isMark c
  let mark := place + width name
  match cs.drop name.length with
  | ']' :: rest => do
    let _ ← cut? s place mark
    ending? s ⟨.trace, target, true, []⟩ (mark + 1) rest
  | '\x7b' :: rest => do
    let _ ← cut? s place mark
    let text := rest.takeWhile (· ≠ '\x7d')
    let close := mark + 1 + width text
    match rest.drop text.length with
    | '\x7d' :: ']' :: rest =>
      let field ← field? (← cut? s (mark + 1) close)
      ending? s ⟨.trace, target, !name.isEmpty, [field]⟩ (close + 2) rest
    | _ => none
  | _ => none

/-- Can a directive that is no span start with the character? -/
def canStart (c : Char) : Bool := c = '-' || c = ':' || c = '_' || Text.isAlphanumeric c

/-- Read a directive. -/
def parse? (s : String) : Option LogDirective :=
  match Text.trimChars s.toList with
  | [] => none
  | '[' :: rest => span? s none 1 rest
  | c :: rest =>
    if !canStart c then none
    else
      let word := (c :: rest).takeWhile fun x => x ≠ '=' && x ≠ '['
      let mark := width word
      match (c :: rest).drop word.length with
      | [] => some (ofWord s)
      | x :: rest => do
        let target ← cut? s 0 mark
        if x = '=' then
          (levelFrom? s (mark + 1)).map fun level => ⟨level, some target, false, []⟩
        else span? s (some target) (mark + 1) rest

/-! ### Which directive counts -/

/-- The directive can be settled without knowing the span a line is in. -/
def isSettled (d : LogDirective) : Bool := !d.inSpan && d.fields.all fun f => !f.2

/-- Does the directive fit a line? -/
def fits (d : LogDirective) (target : String) (fields : List String) : Bool :=
  (match d.target with
    | some t => t.toList.isPrefixOf target.toList
    | none => true) &&
    d.fields.all fun f => fields.contains f.1

/-- The length of the target and the number of fields: more is more specific. -/
def weight (d : LogDirective) : Nat × Nat :=
  ((d.target.elim 0 fun t => t.utf8ByteSize + 1), d.fields.length)

/-- Do names come before others, or are they the same? -/
def precede : List String → List String → Bool
  | [], _ => true
  | _ :: _, [] => false
  | a :: as, b :: bs => a < b || (a = b && precede as bs)

/-- Does the first directive count less than the second, or come before one like it?  Of two that
are equally specific the one with the later field names counts. -/
def yieldsTo (a b : LogDirective) : Bool :=
  a.weight.1 < b.weight.1 || (a.weight.1 = b.weight.1 &&
    (a.weight.2 < b.weight.2 || (a.weight.2 = b.weight.2 &&
      precede (a.fields.map (·.1)) (b.fields.map (·.1)))))

end LogDirective

/-- The directives of a filter. -/
structure LogFilter where
  directives : List LogDirective

namespace LogFilter

/-- The filter that lets only errors through. -/
def errors : LogFilter := ⟨[⟨.error, none, false, []⟩]⟩

/-- Read a filter: directives between commas. -/
def parse? (s : String) : Option LogFilter :=
  let parts := (s.splitOn ",").filter (· ≠ "")
  (parts.mapM LogDirective.parse?).map fun ds => if ds.isEmpty then errors else ⟨ds⟩

/-- The directive that decides about a line outside of any span. -/
def decisive? (f : LogFilter) (target : String) (fields : List String) : Option LogDirective :=
  (f.directives.filter fun d => d.isSettled && d.fits target fields).foldl (fun best d =>
    match best with
    | some b => if b.yieldsTo d then some d else best
    | none => some d) none

/-- Is a line of a level written? -/
def writes (f : LogFilter) (level : LogLevel) (target : String) (fields : List String) : Bool :=
  match f.decisive? target fields with
  | some d => level.rank ≤ d.level.rank
  | none => false

end LogFilter

end Turnstile
