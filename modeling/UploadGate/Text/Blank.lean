/-! # Blank characters and trimming

White space is the Unicode property of that name, which holds of 25 characters. Trimming removes
the longest run of them at each end of a text; a text of blanks alone is blank, and trims to the
empty text. The zero width space and the byte order mark are no white space.
-/

namespace UploadGate.Text

/-- The characters with the property White_Space, in ascending order. -/
def blanks : List Char :=
  ['\x09', '\x0a', '\x0b', '\x0c', '\x0d', ' ', '\u0085', '\u00a0', '\u1680', '\u2000', '\u2001',
    '\u2002', '\u2003', '\u2004', '\u2005', '\u2006', '\u2007', '\u2008', '\u2009', '\u200a',
    '\u2028', '\u2029', '\u202f', '\u205f', '\u3000']

/-- Whether a character is white space. -/
def isBlank (c : Char) : Bool := blanks.contains c

/-- Remove the longest run of characters in the class at the end of the text. -/
def dropEndWhile (p : Char → Bool) (cs : List Char) : List Char :=
  (cs.reverse.dropWhile p).reverse

/-- Remove the longest run of characters in the class at either end of the text. -/
def strip (p : Char → Bool) (cs : List Char) : List Char :=
  dropEndWhile p (cs.dropWhile p)

/-- Remove the white space at either end of a text. -/
def trim (s : String) : String := .ofList (strip isBlank s.toList)

/-- Whether a text is empty or white space alone. -/
def blank (s : String) : Bool := s.toList.all isBlank

@[simp] theorem toList_trim (s : String) : (trim s).toList = strip isBlank s.toList :=
  String.toList_ofList

theorem dropWhile_eq_nil_iff {p : Char → Bool} {cs : List Char} :
    cs.dropWhile p = [] ↔ cs.all p = true := by
  induction cs with
  | nil => simp
  | cons c cs ih => by_cases h : p c <;> simp [h, ih]

theorem dropEndWhile_eq_nil_iff {p : Char → Bool} {cs : List Char} :
    dropEndWhile p cs = [] ↔ cs.all p = true := by
  rw [dropEndWhile, List.reverse_eq_nil_iff, dropWhile_eq_nil_iff, List.all_reverse]

/-- A list keeps what it holds outside the class when its front is cut. -/
theorem all_dropWhile {p : Char → Bool} (cs : List Char) :
    (cs.dropWhile p).all p = cs.all p := by
  induction cs with
  | nil => rfl
  | cons c cs ih => by_cases h : p c <;> simp [h, ih]

theorem strip_eq_nil_iff {p : Char → Bool} {cs : List Char} :
    strip p cs = [] ↔ cs.all p = true := by
  rw [strip, dropEndWhile_eq_nil_iff, all_dropWhile]

/-- The blank texts are those that trim to the empty text. -/
theorem blank_iff_trim_eq_empty {s : String} : blank s = true ↔ trim s = "" := by
  rw [blank, ← strip_eq_nil_iff, ← String.toList_inj, toList_trim]
  rfl

end UploadGate.Text
