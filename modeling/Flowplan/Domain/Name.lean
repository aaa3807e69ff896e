import Flowplan.Domain.Context
import Flowplan.Domain.Letter
import Flowplan.Domain.Punycode
import Flowplan.Text.Segments

namespace Flowplan.Domain

def rightToLeft : Text.Ranges := [
  (0x5D0, 0x5EA), (0x5EF, 0x5F4), (0x620, 0x63F), (0x641, 0x64A), (0x66E, 0x66F), (0x671, 0x674),
  (0x679, 0x6D3), (0x6D5, 0x6D5), (0x6E5, 0x6E6), (0x6EE, 0x6EF), (0x6FA, 0x6FF), (0x710, 0x710),
  (0x712, 0x72F), (0x74D, 0x7A5), (0x7B1, 0x7B1), (0x7C0, 0x7EA), (0x7F4, 0x7F5), (0x800, 0x815),
  (0x81A, 0x81A), (0x824, 0x824), (0x828, 0x828), (0x840, 0x858), (0x860, 0x86A), (0x870, 0x887),
  (0x889, 0x88E), (0x8A0, 0x8C9), (0xFE73, 0xFE73), (0x10800, 0x10805), (0x10808, 0x10808),
  (0x1080A, 0x10835), (0x10837, 0x10838), (0x1083C, 0x1083C), (0x1083F, 0x10855),
  (0x10860, 0x10876), (0x10880, 0x1089E), (0x108E0, 0x108F2), (0x108F4, 0x108F5),
  (0x10900, 0x10915), (0x10920, 0x10939), (0x10980, 0x109B7), (0x109BE, 0x109BF),
  (0x10A00, 0x10A00), (0x10A10, 0x10A13), (0x10A15, 0x10A17), (0x10A19, 0x10A35),
  (0x10A60, 0x10A7C), (0x10A80, 0x10A9C), (0x10AC0, 0x10AC7), (0x10AC9, 0x10AE4),
  (0x10B00, 0x10B35), (0x10B40, 0x10B55), (0x10B60, 0x10B72), (0x10B80, 0x10B91),
  (0x10C00, 0x10C48), (0x10CC0, 0x10CF2), (0x10D00, 0x10D23), (0x10E80, 0x10EA9),
  (0x10EB0, 0x10EB1), (0x10F00, 0x10F1C), (0x10F27, 0x10F27), (0x10F30, 0x10F45),
  (0x10F70, 0x10F81), (0x10FB0, 0x10FC4), (0x10FE0, 0x10FF6), (0x1E800, 0x1E8C4),
  (0x1E922, 0x1E943), (0x1E94B, 0x1E94B), (0x1E950, 0x1E959)]

inductive Direction
  | left
  | right
  | number
  | arabicNumber
  | neutral
  | nonspacing
deriving DecidableEq

def arabicNumbers : Text.Ranges := [(0x660, 0x669), (0x10D30, 0x10D39)]

def numbers : Text.Ranges := [(0x30, 0x39), (0x6F0, 0x6F9)]

def neutrals : Text.Ranges := [
  (0x2D, 0x2D), (0xB7, 0xB7), (0x2B9, 0x2BA), (0x2C6, 0x2CF), (0x2EC, 0x2EC), (0x375, 0x375),
  (0x200C, 0x200D), (0x2E2F, 0x2E2F), (0x30FB, 0x30FB), (0xA67F, 0xA67F), (0xA717, 0xA71F),
  (0xA788, 0xA788)]

def direction (c : Char) : Direction :=
  if rightToLeft.contains c then .right
  else if arabicNumbers.contains c then .arabicNumber
  else if numbers.contains c then .number
  else if neutrals.contains c then .neutral
  else if isNonspacing c then .nonspacing
  else .left

/-- A label from right to left begins and, marks aside, ends in a letter of that direction, or ends
in a number. It has no letter of the other direction and numbers of one kind. -/
def isRightToLeft (directions : List Direction) : Bool :=
  directions.head? == some .right && !directions.contains .left
    && !(directions.contains .number && directions.contains .arabicNumber)
    && match directions.reverse.find? (· != .nonspacing) with
      | some last => last != .neutral
      | none => false

def hasOneDirection (label : List Char) : Bool :=
  let directions := label.map direction
  !(directions.contains .right || directions.contains .arabicNumber) || isRightToLeft directions

def mark : List Char := ['x', 'n', '-', '-']

def labelLimit : Nat := 63

def nameLimit : Nat := 253

/-- A label has no hyphen at its ends, nor two of them where the mark of the ASCII form has them. -/
def hyphensFit (label : List Char) : Bool :=
  label.head? != some '-' && label.getLast? != some '-' && (label.drop 2).take 2 != ['-', '-']

def charactersFit (before : List Char) : List Char → Bool
  | [] => true
  | c :: cs => (isLetter c || fits before c cs) && charactersFit (c :: before) cs

def isLabel (label : List Char) : Bool :=
  !label.isEmpty && label.length ≤ nameLimit + 1 && isComposed label && hyphensFit label
    && !(label.head?.any isMark) && charactersFit [] label && hasOneDirection label

def isAsciiLabel (label : List Char) : Bool :=
  if mark.isPrefixOf label then
    let code := label.drop mark.length
    !code.isEmpty && code.getLast? != some '-'
      && ((Punycode.decode code).any fun points => isLabel (points.map Char.ofNat))
  else isLabel label

def asciiLabel (label : List Char) : Option (List Char) :=
  let isAscii := label.all Punycode.isBasic
  let form := if isAscii then label else mark ++ Punycode.encode label
  if (if isAscii then isAsciiLabel label else isLabel label) && form.length ≤ labelLimit then
    some form
  else none

def isDot (c : Char) : Bool := c ∈ ['.', '\u3002', '\uFF0E', '\uFF61']

def asciiName (name : List Char) : Option (List Char) := do
  let labels := Text.segments '.' (name.map fun c => if isDot c then '.' else c)
  let isRooted := labels.getLast? == some []
  let forms ← (if isRooted then labels.dropLast else labels).mapM asciiLabel
  let form := Text.joinWith ['.'] (if isRooted then forms ++ [[]] else forms)
  if forms.isEmpty || nameLimit + 1 < name.length || nameLimit + (if isRooted then 1 else 0) <
    form.length then none
  else some form

end Flowplan.Domain
