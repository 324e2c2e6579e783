/-
Blank characters and trimming.

Tenant ids, statuses, replay ids and configuration values are all read after
trimming, so the set of characters that count as blank decides which tenant a
call is for.  It is the Unicode property `White_Space`, written out; zero-width
characters and the byte order mark are not in it.

Trimming is `dropWhile` from both ends.  What the rest of the library needs to
know about it is that a trimmed text neither starts nor ends with a blank
(`trimChars_head`, `trimChars_getLast`), so that trimming twice is trimming once
(`trimChars_trimChars`), and that nothing is left exactly of a text that is all blank
(`isEmpty_trim`).
-/

namespace Turnstile.Text

/-- Does the character have the Unicode property `White_Space`? -/
def isBlank (c : Char) : Bool :=
  let n := c.toNat
  (9 ≤ n && n ≤ 13) || n == 0x20 || n == 0x85 || n == 0xA0 || n == 0x1680 ||
    (0x2000 ≤ n && n ≤ 0x200A) || n == 0x2028 || n == 0x2029 || n == 0x202F ||
    n == 0x205F || n == 0x3000

/-- Remove the blanks in front. -/
def trimLeft (cs : List Char) : List Char := cs.dropWhile isBlank

/-- Remove the blanks at the end. -/
def trimRight (cs : List Char) : List Char := (cs.reverse.dropWhile isBlank).reverse

/-- Remove the blanks at both ends. -/
def trimChars (cs : List Char) : List Char := trimRight (trimLeft cs)

/-- A text without the blanks at its ends. -/
def trim (s : String) : String := String.ofList (trimChars s.toList)

/-- Is there nothing in the text but blanks? -/
def isBlankText (s : String) : Bool := s.toList.all isBlank

/-! ### What trimming leaves -/

/-- A list whose last element is no blank loses nothing at its end. -/
theorem trimRight_eq_self {cs : List Char} (h : ∀ c ∈ cs.getLast?, isBlank c = false) :
    trimRight cs = cs := by
  unfold trimRight
  rw [List.getLast?_eq_head?_reverse] at h
  cases hr : cs.reverse with
  | nil => simp_all
  | cons c r =>
    rw [hr] at h
    have hc : isBlank c = false := h c rfl
    rw [List.dropWhile_cons_of_neg (by simp [hc]), ← hr, List.reverse_reverse]

theorem trimRight_getLast (cs : List Char) :
    ∀ c ∈ (trimRight cs).getLast?, isBlank c = false := by
  intro c hc
  unfold trimRight at hc
  rw [List.getLast?_reverse] at hc
  have := List.head?_dropWhile_not isBlank cs.reverse
  rw [hc] at this
  simpa using this

theorem trimLeft_head (cs : List Char) : ∀ c ∈ (trimLeft cs).head?, isBlank c = false := by
  intro c hc
  have := List.head?_dropWhile_not isBlank cs
  unfold trimLeft at hc
  rw [hc] at this
  simpa using this

/-- Trimming at the end keeps the head, unless everything goes. -/
theorem trimRight_head {cs : List Char} (h : ∀ c ∈ cs.head?, isBlank c = false) :
    ∀ c ∈ (trimRight cs).head?, isBlank c = false := by
  intro c hc
  cases cs with
  | nil => simp [trimRight] at hc
  | cons d r =>
    have hd : isBlank d = false := h d rfl
    have hne : trimRight (d :: r) = d :: trimRight r := by
      unfold trimRight
      rw [List.reverse_cons, List.dropWhile_append]
      split
      · next hall =>
        rw [List.isEmpty_iff] at hall
        simp [hall, hd]
      · simp
    rw [hne] at hc
    simp at hc
    exact hc ▸ hd

/-- A trimmed text does not start with a blank. -/
theorem trimChars_head (cs : List Char) : ∀ c ∈ (trimChars cs).head?, isBlank c = false :=
  trimRight_head (trimLeft_head cs)

/-- A trimmed text does not end with a blank. -/
theorem trimChars_getLast (cs : List Char) :
    ∀ c ∈ (trimChars cs).getLast?, isBlank c = false :=
  trimRight_getLast (trimLeft cs)

/-- A text with no blank at either end is its own trimmed form. -/
theorem trimChars_eq_self {cs : List Char} (hh : ∀ c ∈ cs.head?, isBlank c = false)
    (hl : ∀ c ∈ cs.getLast?, isBlank c = false) : trimChars cs = cs := by
  have : trimLeft cs = cs := by
    cases cs with
    | nil => rfl
    | cons c r => exact List.dropWhile_cons_of_neg (by simp [hh c rfl])
  rw [trimChars, this, trimRight_eq_self hl]

@[simp] theorem trimChars_trimChars (cs : List Char) :
    trimChars (trimChars cs) = trimChars cs :=
  trimChars_eq_self (trimChars_head cs) (trimChars_getLast cs)

@[simp] theorem trim_trim (s : String) : trim (trim s) = trim s := by
  simp only [trim, String.toList_ofList, trimChars_trimChars]

/-- What leaves blanks blank, and nothing else, can be done before trimming or after it. -/
theorem trimChars_map {f : Char → Char} (hf : ∀ c, isBlank (f c) = isBlank c) (cs : List Char) :
    trimChars (cs.map f) = (trimChars cs).map f := by
  have hcomp : isBlank ∘ f = isBlank := funext hf
  simp only [trimChars, trimRight, trimLeft, List.dropWhile_map, hcomp, ← List.map_reverse]

/-! ### Texts that are all blank -/

theorem all_dropWhile_isBlank (cs : List Char) :
    (cs.dropWhile isBlank).all isBlank = cs.all isBlank := by
  induction cs with
  | nil => rfl
  | cons c r ih => cases h : isBlank c <;> simp [h, ih]

/-- Only blanks are taken away, so a trimmed text is all blank if and only if it was before. -/
theorem isBlankText_trim (s : String) : isBlankText (trim s) = isBlankText s := by
  simp [isBlankText, trim, trimChars, trimRight, trimLeft, all_dropWhile_isBlank]

/-- Nothing is left of a text if and only if it was all blank. -/
theorem isEmpty_trim (s : String) : (trim s).isEmpty = isBlankText s := by
  rw [← isBlankText_trim]
  cases h : trimChars s.toList with
  | nil => simp [trim, isBlankText, h]
  | cons c r =>
    have hc : isBlank c = false := trimChars_head s.toList c (by simp [h])
    simp [trim, isBlankText, h, hc]

end Turnstile.Text
