/-
Subscription statuses.

Billing reports a status as free text.  `Status.parse` reads it after trimming and
without regard to the case of the letters A to Z; a word it does not know is kept,
in its normal form, as `unknown`.  Because the normal form of a normal form is
itself, a status that has been parsed once is read back unchanged from its own
text (`parse_text_parse`), however often it travels between stores.
-/
import Turnstile.Text.Blank
import Turnstile.Text.LetterCase

namespace Turnstile

/-- Where a tenant's subscription stands. -/
inductive Status
  | trialing
  | active
  | pastDue
  | canceled
  | unpaid
  | unknown (word : String)
deriving DecidableEq, Repr

namespace Status

/-- The text of a status, as billing and the wire spell it. -/
def text : Status → String
  | trialing => "trialing"
  | active => "active"
  | pastDue => "past_due"
  | canceled => "canceled"
  | unpaid => "unpaid"
  | unknown word => word

/-- The status a word in normal form names. -/
def ofWord (word : String) : Status :=
  if word = "trialing" then trialing
  else if word = "active" then active
  else if word = "past_due" then pastDue
  else if word = "canceled" then canceled
  else if word = "unpaid" then unpaid
  else unknown word

/-- The normal form of a reported status: trimmed, in small letters. -/
def normalForm (raw : String) : String := Text.lowerAscii (Text.trim raw)

/-- Read a reported status. -/
def parse (raw : String) : Status := ofWord (normalForm raw)

/-! ### Reading a status back -/

@[simp] theorem text_ofWord (word : String) : (ofWord word).text = word := by
  unfold ofWord
  repeat' split
  all_goals simp_all [text]

@[simp] theorem text_parse (raw : String) : (parse raw).text = normalForm raw :=
  text_ofWord _

/-- No letter is blank, so that its small form is not either. -/
theorem isBlank_toLower (c : Char) : Text.isBlank c.toLower = Text.isBlank c := by
  rcases Text.toLower_cases c with h | ⟨hlow, hhigh, h⟩
  · rw [h]
  · simp only [Text.isBlank, h]
    grind

theorem trim_lowerAscii (s : String) :
    Text.trim (Text.lowerAscii s) = Text.lowerAscii (Text.trim s) := by
  simp only [Text.trim, Text.lowerAscii, String.toList_ofList, Text.trimChars_map isBlank_toLower]

@[simp] theorem normalForm_normalForm (raw : String) :
    normalForm (normalForm raw) = normalForm raw := by
  simp only [normalForm, trim_lowerAscii, Text.trim_trim, Text.lowerAscii_lowerAscii]

/-- A status that has been read once is read back from its own text. -/
theorem parse_text_parse (raw : String) : parse (parse raw).text = parse raw := by
  rw [text_parse, parse, parse, normalForm_normalForm]

end Status

end Turnstile
