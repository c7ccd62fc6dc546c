import UploadRelay.Text.CodePoint
-- Which way the letters of host names are written.

namespace UploadRelay

inductive Direction where
  | leftRight
  | rightLeft
  | arabic
  | arabicNumber
  | number
  | mark
  | neutral
  | unknown
deriving DecidableEq

namespace Direction

-- Each row holds from its code point to the next row's. Code points that no host name may
-- have are not told apart.
def rows : List (Nat × Direction) := [
  (45, .neutral), (48, .number), (97, .leftRight), (183, .neutral), (223, .leftRight), (697,
  .neutral), (699, .leftRight), (710, .neutral), (720, .leftRight), (748, .neutral), (750,
  .leftRight), (768, .mark), (881, .leftRight), (885, .neutral), (887, .leftRight), (1155, .mark),
  (1163, .leftRight), (1425, .mark), (1488, .rightLeft), (1552, .mark), (1568, .arabic), (1611,
  .mark), (1632, .arabicNumber), (1646, .arabic), (1648, .mark), (1649, .arabic), (1750, .mark),
  (1765, .arabic), (1767, .mark), (1774, .arabic), (1776, .number), (1786, .arabic), (1809, .mark),
  (1810, .arabic), (1840, .mark), (1869, .arabic), (1958, .mark), (1969, .arabic), (1984,
  .rightLeft), (2027, .mark), (2036, .rightLeft), (2045, .mark), (2048, .rightLeft), (2070, .mark),
  (2074, .rightLeft), (2075, .mark), (2084, .rightLeft), (2085, .mark), (2088, .rightLeft), (2089,
  .mark), (2112, .rightLeft), (2137, .mark), (2144, .arabic), (2191, .unknown), (2200, .mark),
  (2208, .arabic), (2250, .mark), (2307, .leftRight), (2362, .mark), (2363, .leftRight), (2364,
  .mark), (2365, .leftRight), (2369, .mark), (2377, .leftRight), (2381, .mark), (2382, .leftRight),
  (2385, .mark), (2400, .leftRight), (2402, .mark), (2406, .leftRight), (2433, .mark), (2434,
  .leftRight), (2492, .mark), (2493, .leftRight), (2497, .mark), (2503, .leftRight), (2509, .mark),
  (2510, .leftRight), (2530, .mark), (2534, .leftRight), (2558, .mark), (2563, .leftRight), (2620,
  .mark), (2622, .leftRight), (2625, .mark), (2652, .leftRight), (2672, .mark), (2674, .leftRight),
  (2677, .mark), (2691, .leftRight), (2748, .mark), (2749, .leftRight), (2753, .mark), (2761,
  .leftRight), (2765, .mark), (2768, .leftRight), (2786, .mark), (2790, .leftRight), (2810, .mark),
  (2818, .leftRight), (2876, .mark), (2877, .leftRight), (2879, .mark), (2880, .leftRight), (2881,
  .mark), (2887, .leftRight), (2893, .mark), (2903, .leftRight), (2914, .mark), (2918, .leftRight),
  (2946, .mark), (2947, .leftRight), (3008, .mark), (3009, .leftRight), (3021, .mark), (3024,
  .leftRight), (3072, .mark), (3073, .leftRight), (3076, .mark), (3077, .leftRight), (3132, .mark),
  (3133, .leftRight), (3134, .mark), (3137, .leftRight), (3142, .mark), (3160, .leftRight), (3164,
  .unknown), (3165, .leftRight), (3170, .mark), (3174, .leftRight), (3201, .mark), (3202,
  .leftRight), (3260, .mark), (3261, .leftRight), (3276, .mark), (3285, .leftRight), (3292,
  .unknown), (3293, .leftRight), (3298, .mark), (3302, .leftRight), (3315, .unknown), (3328, .mark),
  (3330, .leftRight), (3387, .mark), (3389, .leftRight), (3393, .mark), (3398, .leftRight), (3405,
  .mark), (3406, .leftRight), (3426, .mark), (3430, .leftRight), (3457, .mark), (3458, .leftRight),
  (3530, .mark), (3535, .leftRight), (3538, .mark), (3544, .leftRight), (3633, .mark), (3634,
  .leftRight), (3636, .mark), (3648, .leftRight), (3655, .mark), (3664, .leftRight), (3761, .mark),
  (3762, .leftRight), (3764, .mark), (3773, .leftRight), (3784, .mark), (3790, .unknown), (3792,
  .leftRight), (3864, .mark), (3872, .leftRight), (3893, .mark), (3902, .leftRight), (3953, .mark),
  (3967, .leftRight), (3968, .mark), (3976, .leftRight), (3981, .mark), (4096, .leftRight), (4141,
  .mark), (4145, .leftRight), (4146, .mark), (4152, .leftRight), (4153, .mark), (4155, .leftRight),
  (4157, .mark), (4159, .leftRight), (4184, .mark), (4186, .leftRight), (4190, .mark), (4193,
  .leftRight), (4209, .mark), (4213, .leftRight), (4226, .mark), (4227, .leftRight), (4229, .mark),
  (4231, .leftRight), (4237, .mark), (4238, .leftRight), (4253, .mark), (4304, .leftRight), (4957,
  .mark), (4992, .leftRight), (5906, .mark), (5909, .leftRight), (5938, .mark), (5940, .leftRight),
  (5970, .mark), (5984, .leftRight), (6002, .mark), (6016, .leftRight), (6071, .mark), (6078,
  .leftRight), (6086, .mark), (6087, .leftRight), (6089, .mark), (6103, .leftRight), (6109, .mark),
  (6112, .leftRight), (6277, .mark), (6279, .leftRight), (6313, .mark), (6314, .leftRight), (6432,
  .mark), (6435, .leftRight), (6439, .mark), (6441, .leftRight), (6450, .mark), (6451, .leftRight),
  (6457, .mark), (6470, .leftRight), (6679, .mark), (6681, .leftRight), (6683, .mark), (6688,
  .leftRight), (6742, .mark), (6743, .leftRight), (6744, .mark), (6753, .leftRight), (6754, .mark),
  (6755, .leftRight), (6757, .mark), (6765, .leftRight), (6771, .mark), (6784, .leftRight), (6832,
  .mark), (6863, .unknown), (6912, .mark), (6916, .leftRight), (6964, .mark), (6965, .leftRight),
  (6966, .mark), (6971, .leftRight), (6972, .mark), (6973, .leftRight), (6978, .mark), (6979,
  .leftRight), (7019, .mark), (7042, .leftRight), (7074, .mark), (7078, .leftRight), (7080, .mark),
  (7082, .leftRight), (7083, .mark), (7086, .leftRight), (7142, .mark), (7143, .leftRight), (7144,
  .mark), (7146, .leftRight), (7149, .mark), (7150, .leftRight), (7151, .mark), (7154, .leftRight),
  (7212, .mark), (7220, .leftRight), (7222, .mark), (7232, .leftRight), (7306, .unknown), (7376,
  .mark), (7393, .leftRight), (7394, .mark), (7401, .leftRight), (7405, .mark), (7406, .leftRight),
  (7412, .mark), (7413, .leftRight), (7416, .mark), (7418, .leftRight), (7616, .mark), (7681,
  .leftRight), (8204, .neutral), (8526, .leftRight), (11503, .mark), (11507, .leftRight), (11647,
  .mark), (11648, .leftRight), (11744, .mark), (11823, .neutral), (12293, .leftRight), (12330,
  .mark), (12348, .leftRight), (12441, .mark), (12445, .leftRight), (12539, .neutral), (12540,
  .leftRight), (42607, .mark), (42623, .neutral), (42625, .leftRight), (42654, .mark), (42656,
  .leftRight), (42736, .mark), (42775, .neutral), (42787, .leftRight), (42888, .neutral), (42892,
  .leftRight), (42957, .unknown), (42961, .leftRight), (42971, .unknown), (42998, .leftRight),
  (43010, .mark), (43011, .leftRight), (43014, .mark), (43015, .leftRight), (43019, .mark), (43020,
  .leftRight), (43045, .mark), (43047, .leftRight), (43052, .mark), (43072, .leftRight), (43204,
  .mark), (43216, .leftRight), (43232, .mark), (43250, .leftRight), (43263, .mark), (43264,
  .leftRight), (43302, .mark), (43312, .leftRight), (43335, .mark), (43346, .leftRight), (43392,
  .mark), (43395, .leftRight), (43443, .mark), (43444, .leftRight), (43446, .mark), (43450,
  .leftRight), (43452, .mark), (43454, .leftRight), (43493, .mark), (43494, .leftRight), (43561,
  .mark), (43567, .leftRight), (43569, .mark), (43571, .leftRight), (43573, .mark), (43584,
  .leftRight), (43587, .mark), (43588, .leftRight), (43596, .mark), (43597, .leftRight), (43644,
  .mark), (43645, .leftRight), (43696, .mark), (43697, .leftRight), (43698, .mark), (43701,
  .leftRight), (43703, .mark), (43705, .leftRight), (43710, .mark), (43712, .leftRight), (43713,
  .mark), (43714, .leftRight), (43756, .mark), (43758, .leftRight), (43766, .mark), (43777,
  .leftRight), (44005, .mark), (44006, .leftRight), (44008, .mark), (44009, .leftRight), (44013,
  .mark), (44016, .leftRight), (64286, .mark), (65139, .arabic), (65536, .leftRight), (66045,
  .mark), (66176, .leftRight), (66272, .mark), (66304, .leftRight), (66422, .mark), (66432,
  .leftRight), (67008, .unknown), (67072, .leftRight), (67584, .rightLeft), (67904, .unknown),
  (67968, .rightLeft), (68097, .mark), (68112, .rightLeft), (68152, .mark), (68192, .rightLeft),
  (68325, .mark), (68352, .rightLeft), (68864, .arabic), (68900, .mark), (68912, .arabicNumber),
  (68928, .unknown), (69248, .rightLeft), (69291, .mark), (69296, .rightLeft), (69314, .unknown),
  (69376, .rightLeft), (69424, .arabic), (69446, .mark), (69488, .rightLeft), (69506, .mark),
  (69552, .rightLeft), (69632, .leftRight), (69633, .mark), (69634, .leftRight), (69688, .mark),
  (69734, .leftRight), (69744, .mark), (69745, .leftRight), (69747, .mark), (69749, .leftRight),
  (69759, .mark), (69762, .leftRight), (69811, .mark), (69815, .leftRight), (69817, .mark), (69840,
  .leftRight), (69888, .mark), (69891, .leftRight), (69927, .mark), (69932, .leftRight), (69933,
  .mark), (69942, .leftRight), (70003, .mark), (70006, .leftRight), (70016, .mark), (70018,
  .leftRight), (70070, .mark), (70079, .leftRight), (70089, .mark), (70094, .leftRight), (70095,
  .mark), (70096, .leftRight), (70191, .mark), (70194, .leftRight), (70196, .mark), (70197,
  .leftRight), (70198, .mark), (70207, .unknown), (70272, .leftRight), (70367, .mark), (70368,
  .leftRight), (70371, .mark), (70384, .leftRight), (70400, .mark), (70402, .leftRight), (70459,
  .mark), (70461, .leftRight), (70464, .mark), (70465, .leftRight), (70502, .mark), (70528,
  .unknown), (70656, .leftRight), (70712, .mark), (70720, .leftRight), (70722, .mark), (70725,
  .leftRight), (70726, .mark), (70727, .leftRight), (70750, .mark), (70751, .leftRight), (70835,
  .mark), (70841, .leftRight), (70842, .mark), (70843, .leftRight), (70847, .mark), (70849,
  .leftRight), (70850, .mark), (70852, .leftRight), (71090, .mark), (71096, .leftRight), (71100,
  .mark), (71102, .leftRight), (71103, .mark), (71128, .leftRight), (71132, .mark), (71168,
  .leftRight), (71219, .mark), (71227, .leftRight), (71229, .mark), (71230, .leftRight), (71231,
  .mark), (71236, .leftRight), (71339, .mark), (71340, .leftRight), (71341, .mark), (71342,
  .leftRight), (71344, .mark), (71350, .leftRight), (71351, .mark), (71352, .leftRight), (71376,
  .unknown), (71424, .leftRight), (71453, .mark), (71456, .leftRight), (71458, .mark), (71462,
  .leftRight), (71463, .mark), (71472, .leftRight), (71727, .mark), (71736, .leftRight), (71737,
  .mark), (71872, .leftRight), (71995, .mark), (71997, .leftRight), (71998, .mark), (71999,
  .leftRight), (72003, .mark), (72016, .leftRight), (72148, .mark), (72156, .leftRight), (72160,
  .mark), (72161, .leftRight), (72193, .mark), (72199, .leftRight), (72201, .mark), (72203,
  .leftRight), (72243, .mark), (72249, .leftRight), (72251, .mark), (72272, .leftRight), (72273,
  .mark), (72279, .leftRight), (72281, .mark), (72284, .leftRight), (72330, .mark), (72343,
  .leftRight), (72344, .mark), (72349, .leftRight), (72544, .unknown), (72704, .leftRight), (72752,
  .mark), (72766, .leftRight), (72850, .mark), (72873, .leftRight), (72874, .mark), (72881,
  .leftRight), (72882, .mark), (72884, .leftRight), (72885, .mark), (72960, .leftRight), (73009,
  .mark), (73030, .leftRight), (73031, .mark), (73040, .leftRight), (73104, .mark), (73107,
  .leftRight), (73109, .mark), (73110, .leftRight), (73111, .mark), (73112, .leftRight), (73136,
  .unknown), (73440, .leftRight), (73459, .mark), (73461, .leftRight), (73472, .unknown), (73648,
  .leftRight), (78895, .unknown), (82944, .leftRight), (90368, .unknown), (92160, .leftRight),
  (92912, .mark), (92928, .leftRight), (92976, .mark), (92992, .leftRight), (93504, .unknown),
  (93792, .leftRight), (93883, .unknown), (93952, .leftRight), (94031, .mark), (94032, .leftRight),
  (94095, .mark), (94099, .leftRight), (94180, .mark), (94192, .leftRight), (94194, .unknown),
  (94208, .leftRight), (100344, .unknown), (100352, .leftRight), (101631, .unknown), (101632,
  .leftRight), (101641, .unknown), (110576, .leftRight), (110898, .unknown), (110928, .leftRight),
  (110933, .unknown), (110948, .leftRight), (113821, .mark), (122624, .leftRight), (122661,
  .unknown), (122880, .mark), (123023, .unknown), (123136, .leftRight), (123184, .mark), (123191,
  .leftRight), (123566, .mark), (123584, .leftRight), (123628, .mark), (123632, .leftRight),
  (124112, .unknown), (124896, .leftRight), (124928, .rightLeft), (125136, .mark), (125218,
  .rightLeft), (125252, .mark), (125259, .rightLeft), (131072, .leftRight), (177977, .unknown),
  (177984, .leftRight), (183970, .unknown), (183984, .leftRight), (191472, .unknown), (196608,
  .leftRight), (201552, .unknown)]

def lookUp (found : Direction) : List (Nat × Direction) → Nat → Direction
  | [], _ => found
  | row :: rest, n => if n < row.1 then found else lookUp row.2 rest n

def of (c : CodePoint) : Direction := lookUp .neutral rows c.val

def isFromRight : Direction → Bool
  | .rightLeft => true
  | .arabic => true
  | .arabicNumber => true
  | _ => false

end Direction

end UploadRelay
