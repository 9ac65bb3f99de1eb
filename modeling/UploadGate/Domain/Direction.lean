import UploadGate.Text.Mark

/-! # Directions of writing

A domain that holds a character written from right to left keeps to one direction in each of its
labels, so that it reads the same in every context. A label starts with a letter, whose direction is
the label's. Of the characters after it, numbers, signs and marks go with either direction, but a
label from left to right holds no Arabic numbers, and one from right to left not both kinds of
numbers. Marks aside, a label ends in a letter of its direction or in a number.
-/

namespace UploadGate.Domain

open UploadGate.Text (CharTable isNonspacing)

/-- How a character goes with the direction of the text around it. -/
inductive Direction where
  | left
  | right
  | europeanNumber
  | arabicNumber
  /-- A mark, which takes the direction of its character. -/
  | mark
  /-- A sign of neither direction. -/
  | neutral
deriving DecidableEq

/-- The letters and signs that are written from right to left. -/
def rightToLeft : CharTable := .ofText "
  5BE-5F4 608 60B 60D 61B-64A 66D-6D5 6E5-6E6 6EE-6EF 6FA-7F5 7FA-8C9 FBB2-FBC2 FE73 10800-1091B
  10920-10B35 10B40-10D23 10D40-10D4F 10D6F-10D8F 10E80-10EC7 10F00-10FF6 1E800-1ED3D"

/-- The European numbers. -/
def europeanNumbers : CharTable := .ofText "
  30-39 6F0-6F9 102E1-102FB"

/-- The Arabic numbers. -/
def arabicNumbers : CharTable := .ofText "
  660-669 66B-66C 10D30-10D39 10E60-10E7E"

/-- The signs of neither direction. -/
def neutrals : CharTable := .ofText "
  0-2F 3A-60 7B-D7 F7 2B9-2BA 2C2-2CF 2D2-2ED 2EF-2FF 375 3F6 58A-58F 606-607 609-60A 60C 60E-60F
  66A 6DE 6E9 7F6-7F9 9F2-9F3 9FB AF1 BF3-BFA C78-C7E E3F F3A-F3D 1390-1399 1400 169B-169C 17DB
  17F0-180A 1940-1945 19DE-19FF 200C-214D 218A-2335 237B-2394 2396-26AB 26AD-27FF 2900-2BFF
  2CE5-2CEA 2CF9-2CFF 2E00-3004 3008-3020 3030 3037 303D-303F 30A0 30FB 31C0-31E5 4DC0-4DFF
  A490-A4C6 A60D-A60F A673-A67F A700-A721 A788 A828-A82B A838-A839 A874-A877 AB6A-AB6B FBC3-FE46
  10101 10140-1018C 10190-101A0 1091F 10B39-10B3F 10D6E 10ED0-10ED8 11052-11065 11660-1166C
  11FD5-11FF1 16FE2 1CC00-1CEF0 1D1E9-1D245 1D300-1D356 1E2FF 1EEF0-1F12F 1F16D-1F16F 1F1AD
  1F260-1FBFA"

/-- The marks without space of their own that count as letters. -/
def leftMarks : CharTable := .ofText "
  CBF CC6 11A07-11A08 11C3F"

/-- The first character of a right-to-left script. -/
def firstRightToLeft : Nat := 0x590

namespace Direction

/-- The direction of a character. The one spacing mark that goes with its character is listed. -/
def ofChar (c : Char) : Direction :=
  if leftMarks.covers c then left
  else if isNonspacing c || c.toNat = 0x1171E then mark
  else if rightToLeft.covers c then right
  else if arabicNumbers.covers c then arabicNumber
  else if europeanNumbers.covers c then europeanNumber
  else if neutrals.covers c then neutral
  else left

/-- Whether a character makes the domain one with writing from right to left. -/
def isRightToLeft (c : Char) : Bool :=
  firstRightToLeft ≤ c.toNat && [right, arabicNumber].contains (ofChar c)

/-- Whether a label that starts from left to right may go on with some directions and end in one. -/
def isLeftRun (middle : List Direction) (last : Direction) : Bool :=
  middle.all [left, europeanNumber, mark, neutral].contains && [left, europeanNumber].contains last

/-- Whether a label that starts from right to left may go on with some directions and end in one. -/
def isRightRun (middle : List Direction) (last : Direction) : Bool :=
  middle.all [right, europeanNumber, arabicNumber, mark, neutral].contains &&
    [right, europeanNumber, arabicNumber].contains last &&
    !((last :: middle).contains europeanNumber && (last :: middle).contains arabicNumber)

/-- Whether a label keeps to one direction. -/
def isOneWay (label : List Char) : Bool :=
  match label.map ofChar with
  | [] => true
  | first :: rest =>
    (first = left || first = right) &&
      match rest.reverse.dropWhile (· = mark) with
      | [] => true
      | last :: middle => if first = left then isLeftRun middle last else isRightRun middle last

end Direction

end UploadGate.Domain
