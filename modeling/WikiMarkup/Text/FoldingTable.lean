/-!
# Latin spellings

Which ASCII letters, digits and signs other characters are built from: the ASCII part of their
compatibility decomposition (letters without their accents, styled and full-width forms, ligatures,
fractions, enclosed characters).
-/

namespace WikiMarkup
namespace Folding

/-- Letters that no decomposition takes to ASCII, with their customary Latin spelling. -/
def customary : List (Char × String) :=
  [('ß', "ss"), ('ẞ', "SS"), ('Ł', "L"), ('ł', "l"), ('Ø', "O"), ('ø', "o"), ('Æ', "AE"),
   ('æ', "ae"), ('Œ', "OE"), ('œ', "oe"), ('Đ', "D"), ('đ', "d"), ('Þ', "TH"), ('þ', "th")]

/-- Blocks of styled characters, in the order of the ASCII characters that they stand for: the first
and the last of the block, and the ASCII character of the first. -/
def alphabets : List (Nat × Nat × Char) :=
  [(0x1D33, 0x1D3A, 'G'), (0x2074, 0x2079, '4'), (0x2080, 0x2089, '0'), (0x2460, 0x2468, '1'),
   (0x24B6, 0x24CF, 'A'), (0x24D0, 0x24E9, 'a'), (0x32C0, 0x32C8, '1'), (0x3358, 0x3361, '0'),
   (0x33E0, 0x33E8, '1'), (0xFF01, 0xFF5E, '!'), (0x1D400, 0x1D419, 'A'), (0x1D41A, 0x1D433, 'a'),
   (0x1D434, 0x1D44D, 'A'), (0x1D44E, 0x1D454, 'a'), (0x1D456, 0x1D467, 'i'),
   (0x1D468, 0x1D481, 'A'), (0x1D482, 0x1D49B, 'a'), (0x1D4AE, 0x1D4B5, 'S'),
   (0x1D4BD, 0x1D4C3, 'h'), (0x1D4C5, 0x1D4CF, 'p'), (0x1D4D0, 0x1D4E9, 'A'),
   (0x1D4EA, 0x1D503, 'a'), (0x1D50D, 0x1D514, 'J'), (0x1D516, 0x1D51C, 'S'),
   (0x1D51E, 0x1D537, 'a'), (0x1D540, 0x1D544, 'I'), (0x1D54A, 0x1D550, 'S'),
   (0x1D552, 0x1D56B, 'a'), (0x1D56C, 0x1D585, 'A'), (0x1D586, 0x1D59F, 'a'),
   (0x1D5A0, 0x1D5B9, 'A'), (0x1D5BA, 0x1D5D3, 'a'), (0x1D5D4, 0x1D5ED, 'A'),
   (0x1D5EE, 0x1D607, 'a'), (0x1D608, 0x1D621, 'A'), (0x1D622, 0x1D63B, 'a'),
   (0x1D63C, 0x1D655, 'A'), (0x1D656, 0x1D66F, 'a'), (0x1D670, 0x1D689, 'A'),
   (0x1D68A, 0x1D6A3, 'a'), (0x1D7CE, 0x1D7D7, '0'), (0x1D7D8, 0x1D7E1, '0'),
   (0x1D7E2, 0x1D7EB, '0'), (0x1D7EC, 0x1D7F5, '0'), (0x1D7F6, 0x1D7FF, '0'),
   (0x1F130, 0x1F149, 'A'), (0x1FBF0, 0x1FBF9, '0')]

/-- The other characters, by the ASCII text that they stand for. -/
def variants : List (String × String) :=
  [(" ", "\xa0¨¯´¸\u02d8\u02d9\u02da\u02db\u02dc\u02ddͺ΄΅᾽᾿῀῁῍῎῏῝῞῟῭΅´῾"),
   (" ", "\u2000\u2001\u2002\u2003\u2004\u2005\u2006\u2007\u2008\u2009"),
   (" ", "\u200a\u2017\u202f\u203e\u205f\u3000\u309b\u309c\ufc5e\ufc5f"),
   (" ", "\ufc60\ufc61\ufc62\ufc63\ufdfb\ufe49\ufe4a\ufe4b\ufe4c\ufe70"),
   (" ", "\ufe72\ufe74\ufe76\ufe78\ufe7a\ufe7c\ufe7e\uffe3"), ("   ", "\ufdfa"),
   ("!", "\ufe15\ufe57"), ("!!", "\u203c"), ("!?", "\u2049"), ("#", "\ufe5f"), ("$", "\ufe69"),
   ("%", "\ufe6a"), ("&", "\ufe60"), ("(", "\u207d\u208d\ufe35\ufe59"),
   ("()", "\u3200\u3201\u3202\u3203\u3204\u3205\u3206\u3207\u3208\u3209"),
   ("()", "\u320a\u320b\u320c\u320d\u320e\u320f\u3210\u3211\u3212\u3213"),
   ("()", "\u3214\u3215\u3216\u3217\u3218\u3219\u321a\u321b\u321c\u321d"),
   ("()", "\u321e\u3220\u3221\u3222\u3223\u3224\u3225\u3226\u3227\u3228"),
   ("()", "\u3229\u322a\u322b\u322c\u322d\u322e\u322f\u3230\u3231\u3232"),
   ("()", "\u3233\u3234\u3235\u3236\u3237\u3238\u3239\u323a\u323b\u323c"),
   ("()", "\u323d\u323e\u323f\u3240\u3241\u3242\u3243"), ("(1)", "\u2474"), ("(10)", "\u247d"),
   ("(11)", "\u247e"), ("(12)", "\u247f"), ("(13)", "\u2480"), ("(14)", "\u2481"),
   ("(15)", "\u2482"), ("(16)", "\u2483"), ("(17)", "\u2484"), ("(18)", "\u2485"),
   ("(19)", "\u2486"), ("(2)", "\u2475"), ("(20)", "\u2487"), ("(3)", "\u2476"),
   ("(4)", "\u2477"), ("(5)", "\u2478"), ("(6)", "\u2479"), ("(7)", "\u247a"), ("(8)", "\u247b"),
   ("(9)", "\u247c"), ("(a)", "\u249c"), ("(b)", "\u249d"), ("(c)", "\u249e"), ("(d)", "\u249f"),
   ("(e)", "\u24a0"), ("(f)", "\u24a1"), ("(g)", "\u24a2"), ("(h)", "\u24a3"), ("(i)", "\u24a4"),
   ("(j)", "\u24a5"), ("(k)", "\u24a6"), ("(l)", "\u24a7"), ("(m)", "\u24a8"), ("(n)", "\u24a9"),
   ("(o)", "\u24aa"), ("(p)", "\u24ab"), ("(q)", "\u24ac"), ("(r)", "\u24ad"), ("(s)", "\u24ae"),
   ("(t)", "\u24af"), ("(u)", "\u24b0"), ("(v)", "\u24b1"), ("(w)", "\u24b2"), ("(x)", "\u24b3"),
   ("(y)", "\u24b4"), ("(z)", "\u24b5"), (")", "\u207e\u208e\ufe36\ufe5a"), ("*", "\ufe61"),
   ("+", "\u207a\u208a\ufb29\ufe62"), (",", "\ufe10\ufe50"), ("-", "\ufe63"),
   (".", "\u2024\ufe52"), ("..", "\u2025\ufe30"), ("...", "\u2026\ufe19"), ("0", "\u2070\u24ea"),
   ("03", "\u2189"), ("1", "¹\u215f"), ("1.", "\u2488"), ("10", "\u2469\u32c9\u3362\u33e9"),
   ("10.", "\u2491"), ("11", "\u246a\u32ca\u3363\u33ea"), ("11.", "\u2492"), ("110", "\u2152"),
   ("12", "½\u246b\u32cb\u3364\u33eb"), ("12.", "\u2493"), ("13", "\u2153\u246c\u3365\u33ec"),
   ("13.", "\u2494"), ("14", "¼\u246d\u3366\u33ed"), ("14.", "\u2495"),
   ("15", "\u2155\u246e\u3367\u33ee"), ("15.", "\u2496"), ("16", "\u2159\u246f\u3368\u33ef"),
   ("16.", "\u2497"), ("17", "\u2150\u2470\u3369\u33f0"), ("17.", "\u2498"),
   ("18", "\u215b\u2471\u336a\u33f1"), ("18.", "\u2499"), ("19", "\u2151\u2472\u336b\u33f2"),
   ("19.", "\u249a"), ("2", "²"), ("2.", "\u2489"), ("20", "\u2473\u336c\u33f3"),
   ("20.", "\u249b"), ("21", "\u3251\u336d\u33f4"), ("22", "\u3252\u336e\u33f5"),
   ("23", "\u2154\u3253\u336f\u33f6"), ("24", "\u3254\u3370\u33f7"), ("25", "\u2156\u3255\u33f8"),
   ("26", "\u3256\u33f9"), ("27", "\u3257\u33fa"), ("28", "\u3258\u33fb"), ("29", "\u3259\u33fc"),
   ("3", "³"), ("3.", "\u248a"), ("30", "\u325a\u33fd"), ("31", "\u325b\u33fe"), ("32", "\u325c"),
   ("33", "\u325d"), ("34", "¾\u325e"), ("35", "\u2157\u325f"), ("36", "\u32b1"),
   ("37", "\u32b2"), ("38", "\u215c\u32b3"), ("39", "\u32b4"), ("4.", "\u248b"), ("40", "\u32b5"),
   ("41", "\u32b6"), ("42", "\u32b7"), ("43", "\u32b8"), ("44", "\u32b9"), ("45", "\u2158\u32ba"),
   ("46", "\u32bb"), ("47", "\u32bc"), ("48", "\u32bd"), ("49", "\u32be"), ("5.", "\u248c"),
   ("50", "\u32bf"), ("56", "\u215a"), ("58", "\u215d"), ("6.", "\u248d"), ("7.", "\u248e"),
   ("78", "\u215e"), ("8.", "\u248f"), ("9.", "\u2490"), (":", "\ufe13\ufe55"), ("::=", "\u2a74"),
   (";", ";\ufe14\ufe54"), ("<", "\u226e\ufe64"), ("=", "\u207c\u208c\u2260\ufe66"),
   ("==", "\u2a75"), ("===", "\u2a76"), (">", "\u226f\ufe65"), ("?", "\ufe16\ufe56"),
   ("?!", "\u2048"), ("??", "\u2047"), ("@", "\ufe6b"),
   ("A", "ÀÁÂÃÄÅĀĂĄǍǞǠǺȀȂȦ\u1d2cḀẠẢẤẦẨẪẬẮẰẲẴẶ\u212b\u3382"), ("AU", "\u3373"), ("Am", "\u33df"),
   ("B", "\u1d2eḂḄḆ\u212c"), ("Bq", "\u33c3"), ("C", "ÇĆĈĊČḈ\u2102\u2103\u212d\u216d\ua7f2"),
   ("Ckg", "\u33c6"), ("Co.", "\u33c7"), ("D", "Ď\u1d30ḊḌḎḐḒ\u2145\u216e"), ("DZ", "ǄǱ"),
   ("Dz", "ǅǲ"), ("E", "ÈÉÊËĒĔĖĘĚȄȆȨ\u1d31ḔḖḘḚḜẸẺẼẾỀỂỄỆ\u2130"),
   ("F", "Ḟ\u2109\u2131\u338c\ua7f3"), ("FAX", "\u213b"), ("G", "ĜĞĠĢǦǴḠ"), ("GB", "\u3387"),
   ("GHz", "\u3393"), ("GPa", "\u33ac"), ("Gy", "\u33c9"), ("H", "ĤȞḢḤḦḨḪ\u210b\u210c\u210d"),
   ("HP", "\u33cb"), ("Hg", "\u32cc"), ("Hz", "\u3390"),
   ("I", "ÌÍÎÏĨĪĬĮİǏȈȊḬḮỈỊ\u2110\u2111\u2160"), ("II", "\u2161"), ("III", "\u2162"), ("IJ", "Ĳ"),
   ("IU", "\u337a"), ("IV", "\u2163"), ("IX", "\u2168"), ("J", "Ĵ"), ("K", "ĶǨḰḲḴ\u212a"),
   ("KB", "\u3385"), ("KK", "\u33cd"), ("KM", "\u33ce"), ("L", "ĹĻĽĿḶḸḺḼ\u2112\u216c"),
   ("LJ", "Ǉ"), ("LTD", "\u32cf"), ("Lj", "ǈ"), ("M", "ḾṀṂ\u2133\u216f\u33c1"), ("MB", "\u3386"),
   ("MHz", "\u3392"), ("MPa", "\u33ab"), ("MV", "\u33b9"), ("MW", "\u33bf"),
   ("N", "ÑŃŅŇǸṄṆṈṊ\u2115"), ("NJ", "Ǌ"), ("Nj", "ǋ"), ("No", "\u2116"),
   ("O", "ÒÓÔÕÖŌŎŐƠǑǪǬȌȎȪȬȮȰ\u1d3cṌṎṐṒỌỎỐỒỔỖỘỚỜỞỠỢ"), ("P", "\u1d3eṔṖ\u2119"), ("PH", "\u33d7"),
   ("PPM", "\u33d9"), ("PR", "\u33da"), ("PTE", "\u3250"), ("Pa", "\u33a9"),
   ("Q", "\u211a\ua7f4"), ("R", "ŔŖŘȐȒ\u1d3fṘṚṜṞ\u211b\u211c\u211d"), ("Rs", "\u20a8"),
   ("S", "ŚŜŞŠȘṠṢṤṦṨ"), ("SM", "\u2120"), ("Sv", "\u33dc"), ("T", "ŢŤȚ\u1d40ṪṬṮṰ"),
   ("TEL", "\u2121"), ("THz", "\u3394"), ("TM", "\u2122"),
   ("U", "ÙÚÛÜŨŪŬŮŰŲƯǓǕǗǙǛȔȖ\u1d41ṲṴṶṸṺỤỦỨỪỬỮỰ"), ("V", "ṼṾ\u2164\u2c7d\u33b6"), ("VI", "\u2165"),
   ("VII", "\u2166"), ("VIII", "\u2167"), ("Vm", "\u33de"), ("W", "Ŵ\u1d42ẀẂẄẆẈ\u33bc"),
   ("Wb", "\u33dd"), ("X", "ẊẌ\u2169"), ("XI", "\u216a"), ("XII", "\u216b"), ("Y", "ÝŶŸȲẎỲỴỶỸ"),
   ("Z", "ŹŻŽẐẒẔ\u2124\u2128"), ("[", "\ufe47"), ("\x5c", "\ufe68"), ("]", "\ufe48"),
   ("_", "\ufe33\ufe34\ufe4d\ufe4e\ufe4f"), ("\x60", "`"),
   ("a", "ªàáâãäåāăąǎǟǡǻȁȃȧ\u1d43ḁẚạảấầẩẫậắằẳẵặ\u2090"), ("a.m.", "\u33c2"), ("a/c", "\u2100"),
   ("a/s", "\u2101"), ("b", "\u1d47ḃḅḇ"), ("bar", "\u3374"), ("c", "çćĉċč\u1d9cḉ\u217d"),
   ("c/o", "\u2105"), ("c/u", "\u2106"), ("cal", "\u3388"), ("cc", "\u33c4"), ("cd", "\u33c5"),
   ("cm", "\u339d"), ("cm2", "\u33a0"), ("cm3", "\u33a4"), ("d", "ď\u1d48ḋḍḏḑḓ\u2146\u217e"),
   ("dB", "\u33c8"), ("da", "\u3372"), ("dl", "\u3397"), ("dm", "\u3377"), ("dm2", "\u3378"),
   ("dm3", "\u3379"), ("dz", "ǆǳ"), ("e", "èéêëēĕėęěȅȇȩ\u1d49ḕḗḙḛḝẹẻẽếềểễệ\u2091\u212f\u2147"),
   ("eV", "\u32ce"), ("erg", "\u32cd"), ("f", "\u1da0ḟ"), ("ff", "\ufb00"), ("ffi", "\ufb03"),
   ("ffl", "\ufb04"), ("fi", "\ufb01"), ("fl", "\ufb02"), ("fm", "\u3399"),
   ("g", "ĝğġģǧǵ\u1d4dḡ\u210a\u338d"), ("gal", "\u33ff"), ("h", "ĥȟ\u02b0ḣḥḧḩḫẖ\u2095\u210e"),
   ("hPa", "\u3371"), ("ha", "\u33ca"), ("i", "ìíîïĩīĭįǐȉȋ\u1d62ḭḯỉị\u2071\u2139\u2148\u2170"),
   ("ii", "\u2171"), ("iii", "\u2172"), ("ij", "ĳ"), ("in", "\u33cc"), ("iv", "\u2173"),
   ("ix", "\u2178"), ("j", "ĵǰ\u02b2\u2149\u2c7c"), ("k", "ķǩ\u1d4fḱḳḵ\u2096\u33c0"),
   ("kA", "\u3384"), ("kHz", "\u3391"), ("kPa", "\u33aa"), ("kV", "\u33b8"), ("kW", "\u33be"),
   ("kcal", "\u3389"), ("kg", "\u338f"), ("kl", "\u3398"), ("km", "\u339e"), ("km2", "\u33a2"),
   ("km3", "\u33a6"), ("kt", "\u33cf"), ("l", "ĺļľŀ\u02e1ḷḹḻḽ\u2097\u2113\u217c\u3395"),
   ("lj", "ǉ"), ("lm", "\u33d0"), ("ln", "\u33d1"), ("log", "\u33d2"), ("lx", "\u33d3"),
   ("m", "\u1d50ḿṁṃ\u2098\u217f\u339b"), ("m2", "\u33a1"), ("m3", "\u33a5"), ("mA", "\u3383"),
   ("mV", "\u33b7"), ("mW", "\u33bd"), ("mb", "\u33d4"), ("mg", "\u338e"), ("mil", "\u33d5"),
   ("ml", "\u3396"), ("mm", "\u339c"), ("mm2", "\u339f"), ("mm3", "\u33a3"), ("mol", "\u33d6"),
   ("ms", "\u33a7\u33b3"), ("ms2", "\u33a8"), ("n", "ñńņňŉǹṅṇṉṋ\u207f\u2099"), ("nA", "\u3381"),
   ("nF", "\u338b"), ("nV", "\u33b5"), ("nW", "\u33bb"), ("nj", "ǌ"), ("nm", "\u339a"),
   ("ns", "\u33b1"), ("o", "ºòóôõöōŏőơǒǫǭȍȏȫȭȯȱ\u1d52ṍṏṑṓọỏốồổỗộớờởỡợ\u2092\u2134"),
   ("oV", "\u3375"), ("p", "\u1d56ṕṗ\u209a"), ("p.m.", "\u33d8"), ("pA", "\u3380"),
   ("pF", "\u338a"), ("pV", "\u33b4"), ("pW", "\u33ba"), ("pc", "\u3376"), ("ps", "\u33b0"),
   ("r", "ŕŗřȑȓ\u02b3\u1d63ṙṛṝṟ"), ("rad", "\u33ad"), ("rads", "\u33ae"), ("rads2", "\u33af"),
   ("s", "śŝşšſș\u02e2ṡṣṥṧṩẛ\u209b\u33b2"), ("sr", "\u33db"), ("st", "\ufb05\ufb06"),
   ("t", "ţťț\u1d57ṫṭṯṱẗ\u209c"), ("u", "ùúûüũūŭůűųưǔǖǘǚǜȕȗ\u1d58\u1d64ṳṵṷṹṻụủứừửữự"),
   ("v", "\u1d5b\u1d65ṽṿ\u2174"), ("vi", "\u2175"), ("vii", "\u2176"), ("viii", "\u2177"),
   ("w", "ŵ\u02b7ẁẃẅẇẉẘ"), ("x", "\u02e3ẋẍ\u2093\u2179"), ("xi", "\u217a"), ("xii", "\u217b"),
   ("y", "ýÿŷȳ\u02b8ẏẙỳỵỷỹ"), ("z", "źżž\u1dbbẑẓẕ"), ("\x7b", "\ufe37\ufe5b"),
   ("\x7d", "\ufe38\ufe5c")]

/-- Characters beyond the basic plane that stand for ASCII text outside the blocks of
`alphabets`. -/
def supplementary : List (Nat × String) :=
  [(0x107A5, "q"), (0x1D49C, "A"), (0x1D49E, "C"), (0x1D49F, "D"), (0x1D4A2, "G"), (0x1D4A5, "J"),
   (0x1D4A6, "K"), (0x1D4A9, "N"), (0x1D4AA, "O"), (0x1D4AB, "P"), (0x1D4AC, "Q"), (0x1D4B6, "a"),
   (0x1D4B7, "b"), (0x1D4B8, "c"), (0x1D4B9, "d"), (0x1D4BB, "f"), (0x1D504, "A"), (0x1D505, "B"),
   (0x1D507, "D"), (0x1D508, "E"), (0x1D509, "F"), (0x1D50A, "G"), (0x1D538, "A"), (0x1D539, "B"),
   (0x1D53B, "D"), (0x1D53C, "E"), (0x1D53D, "F"), (0x1D53E, "G"), (0x1D546, "O"),
   (0x1F100, "0."), (0x1F101, "0,"), (0x1F102, "1,"), (0x1F103, "2,"), (0x1F104, "3,"),
   (0x1F105, "4,"), (0x1F106, "5,"), (0x1F107, "6,"), (0x1F108, "7,"), (0x1F109, "8,"),
   (0x1F10A, "9,"), (0x1F110, "(A)"), (0x1F111, "(B)"), (0x1F112, "(C)"), (0x1F113, "(D)"),
   (0x1F114, "(E)"), (0x1F115, "(F)"), (0x1F116, "(G)"), (0x1F117, "(H)"), (0x1F118, "(I)"),
   (0x1F119, "(J)"), (0x1F11A, "(K)"), (0x1F11B, "(L)"), (0x1F11C, "(M)"), (0x1F11D, "(N)"),
   (0x1F11E, "(O)"), (0x1F11F, "(P)"), (0x1F120, "(Q)"), (0x1F121, "(R)"), (0x1F122, "(S)"),
   (0x1F123, "(T)"), (0x1F124, "(U)"), (0x1F125, "(V)"), (0x1F126, "(W)"), (0x1F127, "(X)"),
   (0x1F128, "(Y)"), (0x1F129, "(Z)"), (0x1F12A, "S"), (0x1F12B, "C"), (0x1F12C, "R"),
   (0x1F12D, "CD"), (0x1F12E, "WZ"), (0x1F14A, "HV"), (0x1F14B, "MV"), (0x1F14C, "SD"),
   (0x1F14D, "SS"), (0x1F14E, "PPV"), (0x1F14F, "WC"), (0x1F16A, "MC"), (0x1F16B, "MD"),
   (0x1F16C, "MR"), (0x1F190, "DJ")]

end Folding
end WikiMarkup
