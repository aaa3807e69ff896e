import Flowplan.Domain.Composition
import Flowplan.Domain.Mark

namespace Flowplan.Domain

def joinForward : Text.Ranges := [
  (0x620, 0x620), (0x626, 0x626), (0x628, 0x628), (0x62A, 0x62E), (0x633, 0x63F), (0x641, 0x647),
  (0x649, 0x64A), (0x66E, 0x66F), (0x679, 0x687), (0x69A, 0x6BF), (0x6C1, 0x6C2), (0x6CC, 0x6CC),
  (0x6CE, 0x6CE), (0x6D0, 0x6D1), (0x6FA, 0x6FC), (0x6FF, 0x6FF), (0x712, 0x714), (0x71A, 0x71D),
  (0x71F, 0x727), (0x729, 0x729), (0x72B, 0x72B), (0x72D, 0x72E), (0x74E, 0x758), (0x75C, 0x76A),
  (0x76D, 0x770), (0x772, 0x772), (0x775, 0x777), (0x77A, 0x77F), (0x7CA, 0x7EA), (0x841, 0x845),
  (0x848, 0x848), (0x84A, 0x853), (0x855, 0x855), (0x860, 0x860), (0x862, 0x865), (0x868, 0x868),
  (0x886, 0x886), (0x889, 0x88D), (0x8A0, 0x8A9), (0x8AF, 0x8B0), (0x8B3, 0x8B8), (0x8BA, 0x8C8),
  (0x1820, 0x1878), (0x1887, 0x18A8), (0x18AA, 0x18AA), (0xA840, 0xA872), (0x10AC0, 0x10AC4),
  (0x10ACD, 0x10ACD), (0x10AD3, 0x10ADC), (0x10ADE, 0x10AE0), (0x10B80, 0x10B80),
  (0x10B82, 0x10B82), (0x10B86, 0x10B88), (0x10B8A, 0x10B8B), (0x10B8D, 0x10B8D),
  (0x10B90, 0x10B90), (0x10D00, 0x10D21), (0x10D23, 0x10D23), (0x10F30, 0x10F32),
  (0x10F34, 0x10F44), (0x10F70, 0x10F73), (0x10F76, 0x10F81), (0x10FB0, 0x10FB0),
  (0x10FB2, 0x10FB3), (0x10FB8, 0x10FB8), (0x10FBB, 0x10FBC), (0x10FBE, 0x10FBF),
  (0x10FC1, 0x10FC1), (0x10FC4, 0x10FC4), (0x1E922, 0x1E943)]

def joinBackward : Text.Ranges := [
  (0x620, 0x620), (0x622, 0x63F), (0x641, 0x64A), (0x66E, 0x66F), (0x671, 0x673), (0x679, 0x6D3),
  (0x6D5, 0x6D5), (0x6EE, 0x6EF), (0x6FA, 0x6FC), (0x6FF, 0x6FF), (0x710, 0x710), (0x712, 0x72F),
  (0x74D, 0x77F), (0x7CA, 0x7EA), (0x840, 0x858), (0x860, 0x860), (0x862, 0x865), (0x867, 0x86A),
  (0x870, 0x882), (0x886, 0x886), (0x889, 0x88E), (0x8A0, 0x8AC), (0x8AE, 0x8C8), (0x1820, 0x1878),
  (0x1887, 0x18A8), (0x18AA, 0x18AA), (0xA840, 0xA871), (0x10AC0, 0x10AC5), (0x10AC7, 0x10AC7),
  (0x10AC9, 0x10ACA), (0x10ACE, 0x10AD6), (0x10AD8, 0x10AE1), (0x10AE4, 0x10AE4),
  (0x10B80, 0x10B91), (0x10D01, 0x10D23), (0x10F30, 0x10F44), (0x10F70, 0x10F81),
  (0x10FB0, 0x10FB0), (0x10FB2, 0x10FB6), (0x10FB8, 0x10FBF), (0x10FC1, 0x10FC4),
  (0x1E922, 0x1E943)]

def joinThrough : Text.Ranges := [
  (0xCBF, 0xCBF), (0xCC6, 0xCC6), (0x11A07, 0x11A08), (0x11C3F, 0x11C3F), (0x1E94B, 0x1E94B)]

def greek : Text.Ranges := [
  (0x370, 0x373), (0x375, 0x377), (0x37A, 0x37D), (0x37F, 0x37F), (0x384, 0x384), (0x386, 0x386),
  (0x388, 0x38A), (0x38C, 0x38C), (0x38E, 0x3A1), (0x3A3, 0x3E1), (0x3F0, 0x3FF), (0x1D26, 0x1D2A),
  (0x1D5D, 0x1D61), (0x1D66, 0x1D6A), (0x1DBF, 0x1DBF), (0x1F00, 0x1F15), (0x1F18, 0x1F1D),
  (0x1F20, 0x1F45), (0x1F48, 0x1F4D), (0x1F50, 0x1F57), (0x1F59, 0x1F59), (0x1F5B, 0x1F5B),
  (0x1F5D, 0x1F5D), (0x1F5F, 0x1F7D), (0x1F80, 0x1FB4), (0x1FB6, 0x1FC4), (0x1FC6, 0x1FD3),
  (0x1FD6, 0x1FDB), (0x1FDD, 0x1FEF), (0x1FF2, 0x1FF4), (0x1FF6, 0x1FFE), (0x2126, 0x2126),
  (0xAB65, 0xAB65), (0x10140, 0x1018E), (0x101A0, 0x101A0), (0x1D200, 0x1D245)]

def hebrew : Text.Ranges := [
  (0x591, 0x5C7), (0x5D0, 0x5EA), (0x5EF, 0x5F4), (0xFB1D, 0xFB36), (0xFB38, 0xFB3C),
  (0xFB3E, 0xFB3E), (0xFB40, 0xFB41), (0xFB43, 0xFB44), (0xFB46, 0xFB4F)]

def japanese : Text.Ranges := [
  (0x2E80, 0x2E99), (0x2E9B, 0x2EF3), (0x2F00, 0x2FD5), (0x3005, 0x3005), (0x3007, 0x3007),
  (0x3021, 0x3029), (0x3038, 0x303B), (0x3400, 0x4DBF), (0x4E00, 0x9FFF), (0xF900, 0xFA6D),
  (0xFA70, 0xFAD9), (0x16FE2, 0x16FE3), (0x16FF0, 0x16FF6), (0x20000, 0x2A6DF), (0x2A700, 0x2B81D),
  (0x2B820, 0x2CEAD), (0x2CEB0, 0x2EBE0), (0x2EBF0, 0x2EE5D), (0x2F800, 0x2FA1D),
  (0x30000, 0x3134A), (0x31350, 0x33479), (0x3041, 0x3096), (0x309D, 0x309F), (0x1B001, 0x1B11F),
  (0x1B132, 0x1B132), (0x1B150, 0x1B152), (0x1F200, 0x1F200), (0x30A1, 0x30FA), (0x30FD, 0x30FF),
  (0x31F0, 0x31FF), (0x32D0, 0x32FE), (0x3300, 0x3357), (0xFF66, 0xFF6F), (0xFF71, 0xFF9D),
  (0x1AFF0, 0x1AFF3), (0x1AFF5, 0x1AFFB), (0x1AFFD, 0x1AFFE), (0x1B000, 0x1B000),
  (0x1B120, 0x1B122), (0x1B155, 0x1B155), (0x1B164, 0x1B167)]

def viramaClass : Nat := 9

def isTransparent (c : Char) : Bool :=
  (isNonspacing c && c.toNat != 0x1171E) || joinThrough.contains c

def reaches (ranges : Text.Ranges) (cs : List Char) : Bool :=
  ((cs.find? (!isTransparent ·)).map ranges.contains).getD false

def followsVirama (before : List Char) : Bool :=
  ((before.head?).map fun c => markClass c.toNat == viramaClass).getD false

def arabicDigits : Text.Ranges := [(0x660, 0x669)]

def persianDigits : Text.Ranges := [(0x6F0, 0x6F9)]

def fits (before : List Char) (c : Char) (after : List Char) : Bool :=
  if c == '\u200C' then
    followsVirama before || (reaches joinForward before && reaches joinBackward after)
  else if c == '\u200D' then followsVirama before
  else if c == '\u00B7' then before.head? == some 'l' && after.head? == some 'l'
  else if c == '\u0375' then (after.head?.map greek.contains).getD false
  else if c == '\u05F3' || c == '\u05F4' then (before.head?.map hebrew.contains).getD false
  else if c == '\u30FB' then (before ++ after).any japanese.contains
  else if arabicDigits.contains c then !(before ++ after).any persianDigits.contains
  else if persianDigits.contains c then !(before ++ after).any arabicDigits.contains
  else false

end Flowplan.Domain
