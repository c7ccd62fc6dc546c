import UploadRelay.Domain.Name
import UploadRelay.Text.Composition
-- Host names by the older rules. A label behind its mark is text in a form that folding case
-- and composing do not change, and it is written back as it was read.

namespace UploadRelay.Domain

-- Code points that preparing leaves alone: how many are changed or refused, how many are
-- left alone, and so on in turn.
def preparedRuns : List Nat := [
  0, 65, 26, 37, 33, 7, 1, 1, 1, 2, 1, 1, 1, 2, 4, 2, 3, 1, 3, 1, 23, 1, 8, 32, 1, 1, 1, 1, 1,
  1, 1, 1, 1, 1, 1, 1, 1, 1, 1, 1, 1, 1, 1, 1, 1, 1, 1, 1, 1, 1, 1, 1, 1, 1, 1, 1, 1, 1, 1, 1,
  1, 1, 1, 1, 1, 1, 1, 1, 1, 1, 1, 1, 1, 1, 3, 1, 1, 2, 1, 1, 1, 1, 1, 1, 3, 1, 1, 1, 1, 1, 1,
  1, 2, 1, 1, 1, 1, 1, 1, 1, 1, 1, 1, 1, 1, 1, 1, 1, 1, 1, 1, 1, 1, 1, 1, 1, 1, 1, 1, 1, 1, 1,
  1, 1, 1, 1, 1, 1, 1, 1, 1, 1, 1, 1, 1, 1, 1, 1, 2, 1, 1, 1, 1, 1, 1, 1, 2, 1, 1, 1, 2, 1, 3,
  2, 4, 1, 2, 1, 3, 3, 2, 1, 2, 1, 1, 1, 1, 1, 2, 1, 1, 2, 1, 1, 2, 1, 3, 1, 1, 1, 2, 3, 1, 7,
  10, 1, 1, 1, 1, 1, 1, 1, 1, 1, 1, 1, 1, 1, 1, 2, 1, 1, 1, 1, 1, 1, 1, 1, 1, 1, 1, 1, 1, 1, 1,
  1, 1, 2, 4, 1, 3, 1, 1, 1, 1, 1, 1, 1, 1, 1, 1, 1, 1, 1, 1, 1, 1, 1, 1, 1, 1, 1, 1, 1, 1, 1,
  1, 1, 1, 1, 1, 1, 1, 1, 1, 1, 1, 1, 1, 1, 1, 1, 1, 1, 1, 1, 1, 1, 1, 1, 1, 1, 1, 1, 1, 1, 1,
  1, 1, 7, 2, 1, 2, 2, 1, 1, 4, 1, 1, 1, 1, 1, 1, 1, 1, 97, 9, 31, 6, 2, 5, 91, 2, 1, 3, 9, 1,
  32, 1, 1, 1, 1, 1, 1, 1, 3, 1, 3, 2, 4, 7, 1, 1, 1, 2, 1, 17, 1, 9, 22, 1, 12, 8, 1, 1, 1, 1,
  1, 1, 1, 1, 1, 1, 1, 1, 1, 1, 1, 1, 1, 1, 1, 1, 1, 1, 1, 1, 1, 3, 1, 2, 1, 1, 1, 2, 2, 51, 48,
  1, 1, 1, 1, 1, 1, 1, 1, 1, 1, 1, 1, 1, 1, 1, 1, 1, 1, 1, 1, 1, 1, 1, 1, 1, 1, 1, 1, 1, 1, 1,
  1, 1, 9, 1, 1, 1, 1, 1, 1, 1, 1, 1, 1, 1, 1, 1, 1, 1, 1, 1, 1, 1, 1, 1, 1, 1, 1, 1, 1, 1, 1,
  1, 1, 1, 1, 1, 1, 1, 1, 1, 1, 1, 1, 1, 1, 1, 1, 1, 1, 1, 1, 1, 1, 1, 1, 1, 1, 2, 1, 1, 1, 1,
  1, 1, 1, 1, 1, 1, 1, 1, 2, 1, 1, 1, 1, 1, 1, 1, 1, 1, 1, 1, 1, 1, 1, 1, 1, 1, 1, 1, 1, 1, 1,
  1, 1, 1, 1, 1, 1, 1, 1, 1, 1, 1, 1, 1, 1, 1, 1, 1, 1, 1, 1, 1, 1, 1, 1, 1, 1, 1, 1, 1, 1, 1,
  1, 1, 1, 1, 1, 1, 1, 1, 1, 1, 1, 1, 1, 1, 1, 1, 1, 1, 1, 1, 1, 1, 1, 1, 1, 1, 1, 1, 1, 1, 1,
  1, 1, 1, 1, 1, 1, 1, 1, 1, 1, 1, 2, 38, 48, 1, 237, 4, 100, 1, 49, 1, 584, 8, 124, 2, 1, 1,
  83, 1, 2, 1, 34, 3, 2, 1, 253, 2, 725, 1, 127, 1, 40, 2, 46, 1, 54, 1, 9, 1, 4, 1, 4, 1, 4, 1,
  12, 1, 9, 1, 1, 5, 7, 1, 17, 1, 9, 1, 4, 1, 4, 1, 4, 1, 12, 1, 230, 38, 1, 1, 5, 1, 722, 86,
  650, 1, 389, 1, 4, 4, 1153, 43, 2, 3, 320, 1, 1, 1, 1, 1, 1, 1, 1, 1, 1, 1, 1, 1, 1, 1, 1, 1,
  1, 1, 1, 1, 1, 1, 1, 1, 1, 1, 1, 1, 1, 1, 1, 1, 1, 1, 1, 1, 1, 1, 1, 1, 1, 1, 1, 1, 1, 1, 1,
  1, 1, 1, 1, 1, 1, 1, 1, 1, 1, 1, 1, 1, 1, 1, 1, 1, 1, 1, 1, 1, 1, 1, 1, 1, 1, 1, 1, 1, 1, 1,
  1, 1, 1, 1, 1, 1, 1, 1, 1, 1, 1, 1, 1, 1, 1, 1, 1, 1, 1, 1, 1, 1, 1, 1, 1, 1, 1, 1, 1, 1, 1,
  1, 1, 1, 1, 1, 1, 1, 1, 1, 1, 1, 1, 1, 1, 1, 1, 1, 1, 1, 1, 1, 1, 1, 1, 1, 1, 1, 1, 1, 1, 1,
  1, 1, 1, 1, 1, 1, 1, 1, 5, 2, 2, 1, 1, 1, 1, 1, 1, 1, 1, 1, 1, 1, 1, 1, 1, 1, 1, 1, 1, 1, 1,
  1, 1, 1, 1, 1, 1, 1, 1, 1, 1, 1, 1, 1, 1, 1, 1, 1, 1, 1, 1, 1, 1, 1, 1, 1, 1, 1, 1, 1, 1, 1,
  1, 1, 1, 1, 1, 1, 1, 1, 1, 1, 1, 1, 1, 1, 1, 1, 1, 1, 1, 1, 1, 1, 1, 1, 1, 1, 1, 1, 1, 1, 1,
  1, 1, 1, 1, 1, 1, 1, 1, 1, 1, 1, 1, 1, 1, 1, 9, 8, 8, 6, 10, 8, 8, 8, 8, 6, 11, 1, 1, 1, 1, 1,
  1, 1, 8, 8, 1, 1, 1, 1, 1, 1, 1, 1, 1, 1, 1, 1, 1, 1, 2, 48, 2, 3, 2, 14, 2, 9, 3, 1, 4, 4, 1,
  3, 3, 1, 4, 8, 2, 3, 2, 8, 1, 16, 1, 1, 5, 1, 12, 3, 1, 8, 3, 2, 1, 2, 4, 1, 1, 1, 8, 3, 13,
  1, 7, 5, 6, 8, 2, 27, 25, 1, 87, 4, 1, 3, 1, 11, 1, 2, 2, 5, 2, 3, 1, 1, 1, 1, 1, 1, 1, 4, 1,
  11, 3, 4, 4, 5, 9, 45, 3, 1, 168, 2, 1, 2, 248, 2, 309, 139, 1313, 1, 103, 3, 101, 1, 291, 48,
  48, 1, 1, 3, 2, 1, 1, 1, 1, 1, 1, 4, 1, 1, 2, 1, 8, 3, 1, 1, 1, 1, 1, 1, 1, 1, 1, 1, 1, 1, 1,
  1, 1, 1, 1, 1, 1, 1, 1, 1, 1, 1, 1, 1, 1, 1, 1, 1, 1, 1, 1, 1, 1, 1, 1, 1, 1, 1, 1, 1, 1, 1,
  1, 1, 1, 1, 1, 1, 1, 1, 1, 1, 1, 1, 1, 1, 1, 1, 1, 1, 1, 1, 1, 1, 1, 1, 1, 1, 1, 1, 1, 1, 1,
  1, 1, 1, 1, 1, 1, 1, 1, 1, 1, 1, 1, 1, 1, 1, 1, 1, 1, 1, 1, 1, 1, 1, 8, 1, 1, 1, 4, 1, 428, 1,
  83, 1, 12, 214, 26, 12, 4, 1, 53, 1, 1, 3, 96, 2, 2, 1, 95, 1, 49, 94, 3, 14, 96, 29, 3, 36,
  13, 43, 4, 76, 4, 47, 1, 119, 4, 99, 2, 31, 29249, 1, 1, 1, 1, 1, 1, 1, 1, 1, 1, 1, 1, 1, 1,
  1, 1, 1, 1, 1, 1, 1, 1, 1, 1, 1, 1, 1, 1, 1, 1, 1, 1, 1, 1, 1, 1, 1, 1, 1, 1, 1, 1, 1, 1, 1,
  19, 1, 1, 1, 1, 1, 1, 1, 1, 1, 1, 1, 1, 1, 1, 1, 1, 1, 1, 1, 1, 1, 1, 1, 1, 1, 1, 1, 135, 1,
  1, 1, 1, 1, 1, 1, 1, 1, 1, 1, 1, 1, 3, 1, 1, 1, 1, 1, 1, 1, 1, 1, 1, 1, 1, 1, 1, 1, 1, 1, 1,
  1, 1, 1, 1, 1, 1, 1, 1, 1, 1, 1, 1, 1, 1, 1, 1, 1, 1, 1, 1, 1, 1, 1, 1, 1, 1, 1, 1, 1, 1, 1,
  1, 1, 1, 1, 1, 1, 1, 1, 1, 1, 1, 1, 10, 1, 1, 1, 1, 2, 1, 1, 1, 1, 1, 1, 1, 1, 4, 1, 1, 1, 2,
  1, 1, 1, 3, 1, 1, 1, 1, 1, 1, 1, 1, 1, 1, 1, 1, 1, 1, 1, 1, 1, 1, 1, 1, 5, 1, 5, 1, 1, 1, 1,
  1, 1, 1, 1, 1, 1, 1, 1, 1, 1, 1, 4, 1, 1, 6, 1, 5, 1, 1, 1, 28, 1, 12298, 8718, 2, 1, 1, 1, 2,
  10, 1, 1, 1, 1, 2, 2, 3, 4, 2, 59, 149, 7, 12, 5, 5, 1, 1, 24, 1, 5, 1, 1, 1, 2, 1, 2, 1, 108,
  33, 363, 18, 64, 2, 54, 8, 45, 3, 16, 32, 21, 4, 10, 1, 19, 1, 4, 4, 3, 1, 1, 1, 135, 2, 1, 1,
  190, 3, 6, 2, 6, 2, 6, 2, 3, 3, 7, 1, 7, 10, 7, 1024, 40, 136, 36, 156, 11, 1, 15, 1, 7, 1, 2,
  1770, 51, 3053, 32, 21888, 32, 25342, 7, 14, 8, 64, 6, 575, 85, 1, 71, 1, 2, 2, 1, 2, 2, 2, 4,
  1, 12, 1, 1, 1, 4, 1, 2, 1, 65, 1, 4, 2, 8, 1, 7, 1, 28, 1, 4, 1, 5, 1, 1, 3, 7, 1, 338, 4,
  290, 4, 50, 4352, 34, 5852, 2, 63488, 542, 1504, 2, 65534, 2, 65534, 2, 65534, 2, 65534, 2,
  65534, 2, 65534, 2, 65534, 2, 65534, 2, 65534, 2, 65534, 2, 65534, 2, 1, 1, 30, 96, 65406]

def fromRightRuns : List Nat := [
  1470, 1, 1, 1, 2, 1, 12, 27, 5, 5, 38, 1, 3, 1, 1, 26, 5, 11, 34, 3, 1, 101, 7, 1, 7, 2, 19,
  5, 1, 14, 2, 1, 1, 27, 83, 38, 11, 1, 6237, 1, 56077, 1, 1, 10, 1, 13, 1, 5, 1, 1, 1, 2, 1, 2,
  1, 108, 33, 363, 18, 64, 2, 54, 40, 13, 115, 5, 1, 135]

def fromLeftRuns : List Nat := [
  65, 26, 6, 26, 47, 1, 10, 1, 4, 1, 5, 23, 1, 31, 1, 297, 1, 18, 28, 94, 2, 9, 2, 7, 14, 2, 14,
  5, 9, 1, 139, 1, 11, 1, 1, 3, 1, 1, 1, 20, 1, 44, 1, 38, 10, 131, 7, 69, 1, 38, 2, 2, 6, 16,
  33, 38, 2, 7, 1, 39, 1, 1, 889, 1, 1, 53, 3, 4, 8, 4, 3, 1, 7, 10, 2, 13, 17, 2, 1, 8, 2, 2,
  2, 22, 1, 7, 1, 1, 3, 4, 4, 3, 6, 2, 2, 2, 10, 1, 4, 2, 1, 3, 4, 12, 2, 7, 10, 6, 4, 2, 2, 22,
  1, 7, 1, 2, 1, 2, 1, 2, 4, 3, 24, 4, 1, 1, 7, 10, 2, 3, 14, 1, 1, 7, 1, 1, 1, 3, 1, 22, 1, 7,
  1, 2, 1, 5, 3, 4, 8, 1, 1, 2, 3, 1, 15, 1, 5, 10, 18, 2, 1, 8, 2, 2, 2, 22, 1, 7, 1, 2, 2, 4,
  3, 2, 1, 1, 6, 2, 2, 2, 10, 1, 4, 2, 1, 3, 4, 11, 18, 1, 1, 6, 3, 3, 1, 4, 3, 2, 1, 1, 1, 2,
  3, 2, 3, 3, 3, 8, 1, 3, 4, 2, 1, 2, 3, 3, 1, 3, 10, 1, 15, 12, 14, 3, 1, 8, 1, 3, 1, 23, 1,
  10, 1, 5, 7, 4, 27, 2, 4, 10, 18, 2, 1, 8, 1, 3, 1, 23, 1, 10, 1, 5, 4, 1, 1, 5, 2, 2, 1, 2,
  9, 2, 7, 1, 1, 2, 4, 10, 18, 2, 1, 8, 1, 3, 1, 23, 1, 16, 4, 3, 5, 3, 1, 3, 10, 1, 8, 2, 4,
  10, 18, 2, 1, 18, 3, 24, 1, 9, 1, 1, 2, 7, 8, 3, 6, 8, 18, 3, 12, 48, 1, 2, 12, 7, 8, 13, 37,
  2, 1, 1, 2, 2, 1, 1, 2, 1, 6, 4, 1, 7, 1, 3, 1, 1, 1, 1, 2, 2, 1, 4, 1, 2, 9, 1, 2, 5, 1, 1,
  9, 10, 2, 2, 34, 24, 2, 27, 1, 1, 1, 1, 5, 10, 1, 34, 20, 1, 5, 1, 2, 4, 50, 8, 1, 6, 2, 1,
  48, 34, 1, 5, 1, 2, 1, 1, 4, 1, 6, 1, 7, 24, 72, 38, 10, 41, 2, 1, 4, 90, 5, 68, 5, 82, 6, 7,
  1, 63, 1, 1, 1, 4, 2, 7, 1, 1, 1, 4, 2, 39, 1, 1, 1, 4, 2, 31, 1, 1, 1, 4, 2, 7, 1, 1, 1, 4,
  2, 7, 1, 7, 1, 23, 1, 31, 1, 1, 1, 4, 2, 7, 1, 39, 1, 19, 6, 28, 35, 85, 12, 630, 10, 26, 5,
  81, 15, 13, 1, 4, 14, 18, 3, 2, 9, 18, 14, 13, 1, 3, 15, 55, 7, 8, 1, 2, 11, 7, 1, 1, 3, 10,
  38, 10, 6, 88, 8, 41, 1367, 156, 4, 90, 6, 22, 2, 6, 2, 38, 2, 6, 2, 8, 1, 1, 1, 1, 1, 1, 1,
  31, 2, 53, 1, 7, 1, 1, 3, 3, 1, 7, 3, 4, 2, 6, 4, 13, 5, 3, 1, 7, 17, 1, 98, 1, 13, 1, 130, 1,
  4, 1, 2, 10, 1, 1, 3, 5, 6, 1, 1, 1, 1, 1, 1, 4, 1, 3, 1, 7, 3, 3, 5, 5, 22, 36, 434, 69, 26,
  1, 262, 78, 2843, 3, 25, 9, 7, 5, 2, 5, 4, 86, 6, 3, 1, 90, 1, 4, 5, 40, 4, 94, 1, 40, 56, 45,
  3, 36, 28, 28, 3, 50, 15, 12, 4, 47, 1, 119, 4, 99, 2, 31, 1, 6582, 74, 20902, 90, 1165, 1907,
  11172, 92, 8750, 2, 59, 149, 7, 12, 5, 1033, 26, 6, 26, 11, 89, 3, 6, 2, 6, 2, 6, 2, 3, 803,
  31, 1, 4, 12, 27, 181, 38, 2, 38, 52146, 246, 10, 39, 3, 61, 3, 9, 16, 2, 7, 30, 4, 48, 546,
  85, 1, 71, 1, 2, 2, 1, 2, 2, 2, 4, 1, 12, 1, 1, 1, 4, 1, 2, 1, 65, 1, 4, 2, 8, 1, 7, 1, 28, 1,
  4, 1, 5, 1, 1, 3, 7, 1, 338, 4, 290, 10294, 42711, 20777, 542, 787938, 65534, 2, 65534]

def isLeftAlone (c : CodePoint) : Bool := Text.insideRuns false preparedRuns c.val
def isFromRight (c : CodePoint) : Bool := Text.insideRuns false fromRightRuns c.val
def isFromLeft (c : CodePoint) : Bool := Text.insideRuns false fromLeftRuns c.val

-- Text with letters from right to left has none from left to right and both ends among the former.
def hasOneDirection (t : Text) : Bool :=
  !t.any isFromRight || (!t.any isFromLeft && t.head?.all isFromRight && t.getLast?.all isFromRight)

def isPrepared (t : Text) : Bool := t.all isLeftAlone && Text.isComposed t && hasOneDirection t

def unprepared? (label : Text) : Option Text :=
  match Text.dropStart? asciiMark label with
  | none => if Text.isAscii label then some label else none
  | some body =>
    match Punycode.decode? body with
    | none => none
    | some letters =>
      let folded := Text.lower letters
      let written := asciiMark ++ Punycode.encode folded
      if !Text.isAscii letters && isPrepared folded && !Text.startsWith folded asciiMark &&
          written.length ≤ longestLabel && written == Text.lower label then some letters
      else none

def olderText? (name : Text) : Option Text :=
  if name.isEmpty then some []
  else if !Text.hasPart asciiMark name && Text.isAscii name then some name
  else
    let labels := Text.splitOn '.' name
    let endsWithDot := labels.getLast? == some []
    let labels := if endsWithDot then labels.dropLast else labels
    (labels.mapM unprepared?).map fun labels => Text.joined "." (if endsWithDot then labels ++ [[]] else labels)

end UploadRelay.Domain
